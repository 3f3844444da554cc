import Mathlib.Data.List.Basic
import Mathlib.Data.Prod.Lex
import PatternScan.Proofs.Engine.Regex
import PatternScan.Proofs.Engine.Selection
import PatternScan.Proofs.Pattern.Leftmost

namespace PatternScan

/-- Matches compare by where they begin, and then by the place of their pattern. -/
def Found.rank (found : Found) : WithTop Nat ×ₗ Nat := toLex (found.place, found.patternIndex)

theorem Found.rank_le_iff {a b : Found} :
    a.rank ≤ b.rank ↔ a.place < b.place ∨ a.place = b.place ∧ a.patternIndex ≤ b.patternIndex :=
  Prod.Lex.toLex_le_toLex

section

variable {ρ : Type} [Regex ρ] {rs : List ρ} {text : Array UInt8} {start : Nat}

theorem mem_matchesFrom_zero_iff {found : Found} : found ∈ matchesFrom 0 rs text start ↔
    ∃ r, rs[found.patternIndex]? = some r ∧
      Regex.capturesAt r text start = some found.captures := by
  simp only [matchesFrom, List.mem_filterMap, Prod.exists, List.mem_zipIdx_iff_getElem?,
    Option.map_eq_some_iff]
  constructor
  · rintro ⟨r, i, hr, captures, hs, rfl⟩
    exact ⟨r, hr, hs⟩
  · rintro ⟨r, hr, hs⟩
    exact ⟨r, found.patternIndex, hr, found.captures, hs, rfl⟩

theorem pairwise_matchesFrom (index : Nat) (rs : List ρ) (text : Array UInt8) (start : Nat) :
    (matchesFrom index rs text start).Pairwise
      fun found later => found.patternIndex < later.patternIndex := by
  have hzip : (rs.zipIdx index).Pairwise fun a b => a.2 < b.2 := by
    have hrange := List.pairwise_lt_range' (s := index) (n := rs.length)
    rw [← List.zipIdx_map_snd index rs, List.pairwise_map] at hrange
    exact hrange
  refine List.Pairwise.filterMap _ ?_ hzip
  intro a b hlt found hf later hl
  obtain ⟨_, -, rfl⟩ := Option.map_eq_some_iff.mp hf
  obtain ⟨_, -, rfl⟩ := Option.map_eq_some_iff.mp hl
  exact hlt

theorem rank_le_of_argmin {found : Found} {offers : List Found}
    (hp : offers.Pairwise fun a b => a.patternIndex < b.patternIndex)
    (h : offers.argmin Found.place = some found) : ∀ other ∈ offers, found.rank ≤ other.rank := by
  induction offers generalizing found with
  | nil => simp at h
  | cons first rest ih =>
    obtain ⟨hfirst, hrest⟩ := List.pairwise_cons.mp hp
    intro other ho
    rw [List.argmin_cons] at h
    cases hm : rest.argmin Found.place with
    | none =>
      obtain rfl := List.argmin_eq_none.mp hm
      simp only [hm, Option.some.injEq] at h
      simp [← h, List.mem_singleton.mp ho]
    | some best =>
      simp only [hm] at h
      split at h
      · -- one of the rest begins earlier than the first
        rename_i hlt
        obtain rfl := Option.some.inj h
        rcases List.mem_cons.mp ho with rfl | ho
        · exact Found.rank_le_iff.mpr (Or.inl hlt)
        · exact ih hrest hm other ho
      · rename_i hge
        obtain rfl := Option.some.inj h
        rcases List.mem_cons.mp ho with rfl | ho
        · exact le_refl _
        · have hle : first.place ≤ other.place :=
            le_trans (not_lt.mp hge) (List.le_of_mem_argmin ho hm)
          have hindex := hfirst other ho
          rcases lt_or_eq_of_le hle with hlt | heq
          · exact Found.rank_le_iff.mpr (Or.inl hlt)
          · exact Found.rank_le_iff.mpr (Or.inr ⟨heq, Nat.le_of_lt hindex⟩)

/-- The best match of expressions is the least one of theirs. -/
theorem bestMatch_eq_some_iff (hn : Regex.NeverBefore ρ) (hstart : start ≤ text.size)
    {found : Found} : bestMatch rs text start = some found ↔
      found ∈ matchesFrom 0 rs text start ∧
        ∀ other ∈ matchesFrom 0 rs text start, found.rank ≤ other.rank := by
  have hp := pairwise_matchesFrom 0 rs text start
  rw [bestMatch_eq_argmin hn hstart]
  constructor
  · intro h
    exact ⟨List.argmin_mem h, rank_le_of_argmin hp h⟩
  · rintro ⟨hm, hle⟩
    cases hb : (matchesFrom 0 rs text start).argmin Found.place with
    | none => simp [List.argmin_eq_none.mp hb] at hm
    | some best =>
      have hbest : best ∈ matchesFrom 0 rs text start := List.argmin_mem hb
      -- both are least, so they have the same place, and an expression has one match at most
      have hrank := le_antisymm (rank_le_of_argmin hp hb found hm) (hle best hbest)
      have hindex : best.patternIndex = found.patternIndex :=
        congrArg Prod.snd (toLex.injective hrank)
      obtain ⟨r, hget, hs⟩ := mem_matchesFrom_zero_iff.mp hm
      obtain ⟨q, hget', hs'⟩ := mem_matchesFrom_zero_iff.mp hbest
      rw [hindex, hget] at hget'
      obtain rfl := Option.some.inj hget'
      rw [hs] at hs'
      obtain ⟨index, captures⟩ := found
      obtain ⟨index', captures'⟩ := best
      simp_all

theorem bestMatch_eq_none_iff (hn : Regex.NeverBefore ρ) (hstart : start ≤ text.size) :
    bestMatch rs text start = none ↔ ∀ r ∈ rs, Regex.capturesAt r text start = none := by
  rw [bestMatch_eq_argmin hn hstart, List.argmin_eq_none, List.eq_nil_iff_forall_not_mem]
  constructor
  · intro h r hr
    obtain ⟨i, hi⟩ := List.getElem?_of_mem hr
    cases hs : Regex.capturesAt r text start with
    | none => rfl
    | some captures => exact absurd (mem_matchesFrom_zero_iff.mpr ⟨r, hi, hs⟩) (h ⟨i, captures⟩)
  · intro h found hm
    obtain ⟨r, hr, hs⟩ := mem_matchesFrom_zero_iff.mp hm
    simp [h r (List.mem_of_getElem? hr)] at hs

theorem bestMatch_of_size_lt (hlt : text.size < start) : bestMatch rs text start = none :=
  if_pos hlt

/-- From wherever a search starts. -/
theorem bestMatch_eq_some_iff_least (hn : Regex.NeverBefore ρ) {found : Found} :
    bestMatch rs text start = some found ↔ start ≤ text.size ∧
      found ∈ matchesFrom 0 rs text start ∧
      ∀ other ∈ matchesFrom 0 rs text start, found.rank ≤ other.rank := by
  rcases Nat.lt_or_ge text.size start with hlt | hge
  · rw [bestMatch_of_size_lt hlt]
    constructor
    · intro h
      cases h
    · intro h
      exact absurd h.1 (Nat.not_le.mpr hlt)
  · rw [bestMatch_eq_some_iff hn hge]
    exact (and_iff_right hge).symm

end

namespace RegexArena

variable {ρ : Type} {a : RegexArena ρ} {handles : List Handle} {text : Array UInt8} {start : Nat}

theorem exists_regexes (hl : ∀ h ∈ handles, a.isLive h = true) :
    ∃ rs : List ρ, handles.map a.regex? = rs.map some := by
  induction handles with
  | nil => exact ⟨[], rfl⟩
  | cons h rest ih =>
    obtain ⟨hfirst, hrest⟩ := List.forall_mem_cons.mp hl
    obtain ⟨r, hr⟩ := Option.isSome_iff_exists.mp hfirst
    obtain ⟨rs, hrs⟩ := ih hrest
    exact ⟨r :: rs, by simp [hr, hrs]⟩

theorem forall_mem_regexes_iff {rs : List ρ} (hl : handles.map a.regex? = rs.map some)
    {motive : ρ → Prop} :
    (∀ r ∈ rs, motive r) ↔ ∀ h ∈ handles, ∀ r, a.regex? h = some r → motive r := by
  constructor
  · intro hall h hm r hr
    have hin : some r ∈ rs.map some := hl ▸ hr ▸ List.mem_map_of_mem hm
    exact hall r (by simpa using hin)
  · intro hall r hr
    have hin : some r ∈ handles.map a.regex? := hl ▸ List.mem_map_of_mem hr
    obtain ⟨h, hm, hh⟩ := List.mem_map.mp hin
    exact hall h hm r hh

theorem exists_first_dead (hd : ∃ h ∈ handles, a.isLive h = false) :
    ∃ before h after, handles = before ++ h :: after ∧ (∀ g ∈ before, a.isLive g = true) ∧
      a.isLive h = false := by
  have hfound : (handles.find? fun g => !a.isLive g).isSome = true := by
    simpa [List.find?_isSome] using hd
  obtain ⟨h, hh⟩ := Option.isSome_iff_exists.mp hfound
  obtain ⟨hdead, before, after, hs, hb⟩ := List.find?_eq_some_iff_append.mp hh
  exact ⟨before, h, after, hs, by simpa using hb, by simpa using hdead⟩

variable [Regex ρ]

/-- A match is offered by the handle at its place if it is what that handle's expression finds. -/
def Offers (a : RegexArena ρ) (handles : List Handle) (text : Array UInt8) (start : Nat)
    (found : Found) : Prop :=
  start ≤ text.size ∧ ∃ h r, handles[found.patternIndex]? = some h ∧ a.regex? h = some r ∧
    Regex.capturesAt r text start = some found.captures

theorem offers_iff_mem {rs : List ρ} (hl : handles.map a.regex? = rs.map some) (found : Found) :
    a.Offers handles text start found ↔
      start ≤ text.size ∧ found ∈ matchesFrom 0 rs text start := by
  have hget := congrArg (fun l => l[found.patternIndex]?) hl
  simp only [List.getElem?_map] at hget
  rw [mem_matchesFrom_zero_iff]
  refine and_congr_right fun _ => ?_
  constructor
  · rintro ⟨h, r, hh, hr, hs⟩
    simp only [hh, Option.map_some, hr] at hget
    exact ⟨r, by simpa using hget.symm, hs⟩
  · rintro ⟨r, hr, hs⟩
    simp only [hr, Option.map_some, Option.map_eq_some_iff] at hget
    obtain ⟨h, hh, hregex⟩ := hget
    exact ⟨h, r, hh, hregex, hs⟩

theorem findBest_refused {before after : List Handle} {h : Handle}
    (hs : handles = before ++ h :: after) (hb : ∀ g ∈ before, a.isLive g = true)
    (hd : a.isLive h = false) :
    a.findBest handles text start = (.error .invalidHandle,
      { a with lastError := s!"Invalid pattern handle {h.slot.val}" }) := by
  have hfind : handles.find? (fun g => !a.isLive g) = some h := by
    apply List.find?_eq_some_iff_append.mpr
    exact ⟨by simp [hd], before, after, hs, fun g hg => by simp [hb g hg]⟩
  simp only [findBest, hfind]

theorem findBest_eq_invalidHandle_iff :
    (a.findBest handles text start).1 = .error .invalidHandle ↔
      ∃ h ∈ handles, a.isLive h = false := by
  constructor
  · intro he
    by_contra hd
    have hl : ∀ h ∈ handles, a.isLive h = true := by simpa using hd
    obtain ⟨rs, hrs⟩ := exists_regexes hl
    rw [findBest_live hrs] at he
    cases he
  · intro hd
    obtain ⟨before, h, after, hs, hb, hdead⟩ := exists_first_dead hd
    rw [findBest_refused hs hb hdead]

theorem findBest_keeps_slots (a : RegexArena ρ) (handles : List Handle) (text : Array UInt8)
    (start : Nat) :
    (a.findBest handles text start).2.slots = a.slots ∧
      (a.findBest handles text start).2.free = a.free ∧
      (a.findBest handles text start).2.live = a.live := by
  unfold findBest
  split
  · exact ⟨rfl, rfl, rfl⟩
  · split <;> exact ⟨rfl, rfl, rfl⟩

section

variable (hn : Regex.NeverBefore ρ) (hl : ∀ h ∈ handles, a.isLive h = true)

include hn hl

theorem findBest_eq_none_iff : (a.findBest handles text start).1 = .ok none ↔
    text.size < start ∨
      ∀ h ∈ handles, ∀ r, a.regex? h = some r → Regex.capturesAt r text start = none := by
  obtain ⟨rs, hrs⟩ := exists_regexes hl
  rw [findBest_live hrs, Except.ok.injEq, ← forall_mem_regexes_iff hrs]
  rcases Nat.lt_or_ge text.size start with hlt | hge
  · simp only [bestMatch_of_size_lt hlt, hlt, true_or]
  · rw [bestMatch_eq_none_iff hn hge]
    exact ⟨Or.inr, fun h => h.resolve_left (Nat.not_lt.mpr hge)⟩

theorem findBest_eq_some_iff {found : Found} :
    (a.findBest handles text start).1 = .ok (some found) ↔ a.Offers handles text start found ∧
      ∀ other, a.Offers handles text start other → found.rank ≤ other.rank := by
  obtain ⟨rs, hrs⟩ := exists_regexes hl
  rw [findBest_live hrs, Except.ok.injEq, bestMatch_eq_some_iff_least hn]
  simp only [offers_iff_mem hrs]
  constructor
  · rintro ⟨hle, hm, hleast⟩
    exact ⟨⟨hle, hm⟩, fun other ho => hleast other ho.2⟩
  · rintro ⟨⟨hle, hm⟩, hleast⟩
    exact ⟨hle, hm, fun other ho => hleast other ⟨hle, ho⟩⟩

end

/-- In any arena, and whatever the list of handles, the text and the start: a search is refused just
when some handle is not live, and the first such handle is named. Otherwise it finds nothing just
when the start lies past the end or no expression finds anything, and it finds a match just when
that match is the least of those that the handles offer, all of which begin at or after the start.
Either way the slots stay as they are. -/
theorem findBest_least (hn : Regex.NeverBefore ρ) (a : RegexArena ρ) (handles : List Handle)
    (text : Array UInt8) (start : Nat) :
    let outcome := a.findBest handles text start
    (outcome.1 = .error .invalidHandle ↔ ∃ h ∈ handles, a.isLive h = false) ∧
    (∀ before h after, handles = before ++ h :: after → (∀ g ∈ before, a.isLive g = true) →
      a.isLive h = false → outcome.2.lastError = s!"Invalid pattern handle {h.slot.val}") ∧
    ((∀ h ∈ handles, a.isLive h = true) →
      (outcome.1 = .ok none ↔ text.size < start ∨
        ∀ h ∈ handles, ∀ r, a.regex? h = some r → Regex.capturesAt r text start = none) ∧
      (∀ found, outcome.1 = .ok (some found) ↔ a.Offers handles text start found ∧
        ∀ other, a.Offers handles text start other → found.rank ≤ other.rank) ∧
      outcome.2.lastError = a.lastError) ∧
    (∀ found, a.Offers handles text start found →
      ∃ s, found.captures.start? = some s ∧ start ≤ s) ∧
    outcome.2.slots = a.slots ∧ outcome.2.free = a.free ∧ outcome.2.live = a.live := by
  intro outcome
  refine ⟨findBest_eq_invalidHandle_iff, ?_, ?_, ?_, findBest_keeps_slots a handles text start⟩
  · intro before h after hs hb hd
    have hrefused : outcome = _ := findBest_refused hs hb hd
    rw [hrefused]
  · intro hl
    refine ⟨findBest_eq_none_iff hn hl, fun found => findBest_eq_some_iff hn hl, ?_⟩
    obtain ⟨rs, hrs⟩ := exists_regexes hl
    have hanswered : outcome = _ := findBest_live hrs text start
    rw [hanswered]
  · rintro found ⟨hstart, h, r, -, -, hr⟩
    exact hn.le_start r text start found.captures hstart hr

/-- An arena with "b" and twice "a". -/
def threeLetters : Arena :=
  ((((RegexArena.empty : Arena).compile [98]).2.compile [97]).2.compile [97]).2

/-- In "ab" the first "a" is found, which begins before "b" and comes before the other "a". -/
theorem findBest_least_of_three :
    Regex.NeverBefore Pattern.Program ∧
    (threeLetters.findBest [⟨0⟩, ⟨1⟩, ⟨2⟩] #[97, 98] 0).1 = .ok (some ⟨1, [some ⟨0, 1⟩]⟩) ∧
    threeLetters.Offers [⟨0⟩, ⟨1⟩, ⟨2⟩] #[97, 98] 0 ⟨1, [some ⟨0, 1⟩]⟩ := by
  have hn : Regex.NeverBefore Pattern.Program := Pattern.Program.leftmost.neverBefore
  have hfound : (threeLetters.findBest [⟨0⟩, ⟨1⟩, ⟨2⟩] #[97, 98] 0).1 =
      .ok (some ⟨1, [some ⟨0, 1⟩]⟩) := by decide +kernel
  have hlive : ∀ h ∈ [⟨0⟩, ⟨1⟩, ⟨2⟩], threeLetters.isLive h = true := by decide +kernel
  obtain ⟨-, -, hleast, -⟩ := findBest_least hn threeLetters [⟨0⟩, ⟨1⟩, ⟨2⟩] #[97, 98] 0
  exact ⟨hn, hfound, (((hleast hlive).2.1 _).mp hfound).1⟩

end RegexArena
end PatternScan
