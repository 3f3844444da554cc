import Mathlib.Data.List.MinMax
import PatternScan.Engine.RegexArena

namespace PatternScan

/-- Where a match begins; one that begins nowhere comes after all others. -/
def Found.place (found : Found) : WithTop Nat :=
  match found.captures.start? with
  | some start => WithTop.some start
  | none => ⊤

theorem Found.place_eq (found : Found) {s : Nat} (h : found.captures.start? = some s) :
    found.place = WithTop.some s := by
  simp only [Found.place, h]

section

variable {ρ : Type} [Regex ρ]

def bestMatch (rs : List ρ) (text : Array UInt8) (start : Nat) : Option Found :=
  if text.size < start then none else bestFrom text start 0 none (rs.map some)

theorem bestMatch_nil (text : Array UInt8) (start : Nat) :
    bestMatch ([] : List ρ) text start = none := by
  unfold bestMatch
  split <;> rfl

theorem exists_of_bestFrom {rs : List ρ} {text : Array UInt8} {start index : Nat}
    {best : Option Found} {found : Found}
    (h : bestFrom text start index best (rs.map some) = some found) :
    best = some found ∨ ∃ r ∈ rs, Regex.capturesAt r text start = some found.captures := by
  induction rs generalizing index best with
  | nil => exact Or.inl h
  | cons r rest ih =>
    have hlater : ∀ {best' : Option Found},
        bestFrom text start (index + 1) best' (rest.map some) = some found →
          best' = some found ∨
            ∃ r' ∈ r :: rest, Regex.capturesAt r' text start = some found.captures := by
      intro best' h'
      exact (ih h').imp_right fun ⟨r', hm, hr'⟩ => ⟨r', List.mem_cons_of_mem r hm, hr'⟩
    simp only [List.map_cons, bestFrom, Option.bind_some] at h
    split at h
    · exact hlater h
    · rename_i captures hc
      have hown : some (⟨index, captures⟩ : Found) = some found →
          ∃ r' ∈ r :: rest, Regex.capturesAt r' text start = some found.captures := by
        intro he
        obtain rfl := Option.some.inj he
        exact ⟨r, List.mem_cons_self, hc⟩
      split at h
      · split at h
        · exact Or.inr (hown h)
        · exact Or.inr ((hlater h).elim hown id)
      · exact hlater h

theorem exists_of_bestMatch {rs : List ρ} {text : Array UInt8} {start : Nat} {found : Found}
    (h : bestMatch rs text start = some found) :
    start ≤ text.size ∧ ∃ r ∈ rs, Regex.capturesAt r text start = some found.captures := by
  unfold bestMatch at h
  split at h
  · cases h
  · rename_i hin
    exact ⟨Nat.not_lt.mp hin, (exists_of_bestFrom h).resolve_left nofun⟩

/-- The matches of expressions, one for each at most; the first expression has number `index`. -/
def matchesFrom (index : Nat) (rs : List ρ) (text : Array UInt8) (start : Nat) : List Found :=
  (rs.zipIdx index).filterMap fun (r, i) => (Regex.capturesAt r text start).map (Found.mk i)

theorem matchesFrom_cons (index : Nat) (r : ρ) (rest : List ρ) (text : Array UInt8) (start : Nat) :
    matchesFrom index (r :: rest) text start =
      ((Regex.capturesAt r text start).map (Found.mk index)).toList ++
        matchesFrom (index + 1) rest text start := by
  simp only [matchesFrom, List.zipIdx_cons, List.filterMap_cons]
  cases Regex.capturesAt r text start <;> rfl

theorem le_place_of_mem (hn : Regex.NeverBefore ρ) {index : Nat} {rs : List ρ} {text : Array UInt8}
    {start : Nat} (hstart : start ≤ text.size) {found : Found}
    (h : found ∈ matchesFrom index rs text start) : WithTop.some start ≤ found.place := by
  obtain ⟨⟨r, i⟩, -, hr⟩ := List.mem_filterMap.mp h
  obtain ⟨captures, hc, rfl⟩ := Option.map_eq_some_iff.mp hr
  obtain ⟨s, hs, hle⟩ := hn.le_start r text start captures hstart hc
  rw [Found.place_eq ⟨i, captures⟩ hs]
  exact WithTop.coe_le_coe.mpr hle

end

theorem Captures.improve_none (captures : Captures) : captures.improve none = true := rfl

theorem Captures.improve_some_iff (index : Nat) (captures : Captures) (best : Found) :
    captures.improve (some best) = true ↔ Found.place ⟨index, captures⟩ < best.place := by
  simp only [improve, Found.place]
  cases captures.start? <;> cases best.captures.start? <;> simp

/-- A match that begins before the best so far takes its place. -/
theorem argmin_of_lt {best found : Found} (rest : List Found) (h : found.place < best.place) :
    (best :: found :: rest).argmin Found.place = (found :: rest).argmin Found.place := by
  simp only [List.argmin, List.foldl_cons, List.argAux, h, if_true]

theorem argmin_of_not_lt {best found : Found} (rest : List Found)
    (h : ¬ found.place < best.place) :
    (best :: found :: rest).argmin Found.place = (best :: rest).argmin Found.place := by
  simp only [List.argmin, List.foldl_cons, List.argAux, h, if_false]

theorem argmin_eq_head {found : Found} {rest : List Found}
    (h : ∀ other ∈ rest, found.place ≤ other.place) :
    (found :: rest).argmin Found.place = some found := by
  rw [List.argmin_cons]
  cases hm : rest.argmin Found.place with
  | none => rfl
  | some other => exact if_neg (not_lt_of_ge (h other (List.argmin_mem hm)))

section

variable {ρ : Type} [Regex ρ] {text : Array UInt8} {start : Nat}

/-- Going through expressions with a best match so far selects among that match and theirs, as if
all of them were tried. -/
theorem bestFrom_eq_argmin (hn : Regex.NeverBefore ρ) (hstart : start ≤ text.size) (rs : List ρ)
    (index : Nat) (best : Option Found) :
    bestFrom text start index best (rs.map some) =
      (best.toList ++ matchesFrom index rs text start).argmin Found.place := by
  induction rs generalizing index best with
  | nil => cases best <;> rfl
  | cons r rest ih =>
    simp only [List.map_cons, bestFrom, Option.bind_some, matchesFrom_cons]
    cases hs : Regex.capturesAt r text start with
    | none => exact ih (index + 1) best
    | some captures =>
      let found : Found := ⟨index, captures⟩
      let later := matchesFrom (index + 1) rest text start
      change _ = (best.toList ++ found :: later).argmin Found.place
      dsimp only
      split
      · rename_i hbetter
        have hdrop : (best.toList ++ found :: later).argmin Found.place =
            (found :: later).argmin Found.place := by
          cases best with
          | none => rfl
          | some best =>
            exact argmin_of_lt later ((Captures.improve_some_iff index captures best).mp hbetter)
        rw [hdrop]
        split
        · -- a match at the start itself: no later one can begin earlier
          rename_i hexit
          have hplace : found.place = WithTop.some start := found.place_eq (eq_of_beq hexit)
          exact (argmin_eq_head fun other hm => hplace ▸ le_place_of_mem hn hstart hm).symm
        · exact ih (index + 1) (some found)
      · rename_i hworse
        rw [ih (index + 1) best]
        cases best with
        | none => exact absurd captures.improve_none hworse
        | some best =>
          exact (argmin_of_not_lt later
            (fun hlt => hworse ((Captures.improve_some_iff index captures best).mpr hlt))).symm

theorem bestMatch_eq_argmin (hn : Regex.NeverBefore ρ) (hstart : start ≤ text.size) (rs : List ρ) :
    bestMatch rs text start = (matchesFrom 0 rs text start).argmin Found.place := by
  rw [bestMatch, if_neg (Nat.not_lt.mpr hstart), bestFrom_eq_argmin hn hstart]
  rfl

namespace RegexArena

theorem findBest_live {a : RegexArena ρ} {hs : List Handle} {rs : List ρ}
    (hl : hs.map a.regex? = rs.map some) (text : Array UInt8) (start : Nat) :
    a.findBest hs text start = (.ok (bestMatch rs text start), a) := by
  have hall : hs.find? (fun h => !a.isLive h) = none := by
    apply List.find?_eq_none.mpr
    intro h hm
    have hr : a.regex? h ∈ rs.map some := hl ▸ List.mem_map_of_mem hm
    obtain ⟨r, -, hr⟩ := List.mem_map.mp hr
    simp [isLive, ← hr]
  rw [findBest, hall, hl, bestMatch]
  dsimp only
  split <;> rfl

end RegexArena

end

end PatternScan
