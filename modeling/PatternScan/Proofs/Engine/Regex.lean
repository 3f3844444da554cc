import PatternScan.Engine.Regex

namespace PatternScan.Regex.Leftmost

variable {ρ : Type} [Regex ρ] {matchAt? : ρ → Array UInt8 → Nat → Option Captures}
  (hl : Leftmost ρ matchAt?)

include hl

theorem neverBefore : NeverBefore ρ where
  le_start r text start captures hstart h := by
    obtain ⟨position, hge, -, hm, -⟩ := (hl.found_iff r text start captures hstart).mp h
    exact ⟨position, hl.start_eq r text position captures hm, hge⟩

variable {r : ρ} {text : Array UInt8} {start later : Nat} {captures : Captures}

theorem eq_none_iff (hstart : start ≤ text.size) : capturesAt r text start = none ↔
    ∀ position, start ≤ position → position ≤ text.size → matchAt? r text position = none := by
  constructor
  · -- induction on how far from the start: a match would have to be the first one
    intro hnone position hge hend
    induction position using Nat.strongRecOn with
    | ind position ih =>
      cases hm : matchAt? r text position with
      | none => rfl
      | some captures =>
        have hfound := (hl.found_iff r text start captures hstart).mpr
          ⟨position, hge, hend, hm, fun earlier hle hlt => ih earlier hlt hle (by omega)⟩
        cases hnone.symm.trans hfound
  · intro hall
    cases hc : capturesAt r text start with
    | none => rfl
    | some captures =>
      obtain ⟨position, hge, hend, hm, -⟩ := (hl.found_iff r text start captures hstart).mp hc
      cases (hall position hge hend).symm.trans hm

theorem eq_none_of_le (hle : start ≤ later) (hend : later ≤ text.size)
    (h : capturesAt r text start = none) : capturesAt r text later = none := by
  rw [hl.eq_none_iff (Nat.le_trans hle hend)] at h
  rw [hl.eq_none_iff hend]
  exact fun position hge => h position (Nat.le_trans hle hge)

/-- A search that starts between an earlier start and the match found from there finds that match.
-/
theorem found_of_le (hle : start ≤ later) (hend : later ≤ text.size) {s : Nat} (hs : later ≤ s)
    (hstart : captures.start? = some s) (h : capturesAt r text start = some captures) :
    capturesAt r text later = some captures := by
  obtain ⟨position, hge, hin, hm, hfirst⟩ :=
    (hl.found_iff r text start captures (Nat.le_trans hle hend)).mp h
  have hposition : position = s :=
    Option.some.inj ((hl.start_eq r text position captures hm).symm.trans hstart)
  refine (hl.found_iff r text later captures hend).mpr ⟨position, hposition ▸ hs, hin, hm, ?_⟩
  exact fun earlier hlater => hfirst earlier (Nat.le_trans hle hlater)

/-- What is found from a later start is found from the earlier one too, or something before it is.
-/
theorem found_of_later (hle : start ≤ later) (hend : later ≤ text.size)
    (h : capturesAt r text later = some captures) : capturesAt r text start = some captures ∨
      ∃ first s, capturesAt r text start = some first ∧ first.start? = some s ∧ s < later := by
  cases hf : capturesAt r text start with
  | none =>
    rw [hl.eq_none_of_le hle hend hf] at h
    cases h
  | some first =>
    obtain ⟨s, hs, -⟩ := hl.neverBefore.le_start r text start first (Nat.le_trans hle hend) hf
    rcases Nat.lt_or_ge s later with hlt | hge
    · exact Or.inr ⟨first, s, rfl, hs, hlt⟩
    · exact Or.inl ((hl.found_of_le hle hend hge hs hf).symm.trans h)

end PatternScan.Regex.Leftmost
