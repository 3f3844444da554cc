import Mathlib.Order.Basic
import PatternScan.Engine.Arena

namespace PatternScan.Pattern

open Text.Utf8

theorem continuations_le {bytes : Array UInt8} {position value seen left n : Nat} {c : Char}
    (h : continuations (fun i => bytes[position + i]?) value seen left = .scalar c n)
    (hseen : position + seen ≤ bytes.size) : position + n ≤ bytes.size := by
  induction left generalizing value seen with
  | zero =>
    cases h
    exact hseen
  | succ left ih =>
    rw [continuations] at h
    split at h
    · cases h
    · rename_i b hb
      have hlt : position + seen < bytes.size := (Array.getElem?_eq_some_iff.mp hb).1
      split at h
      · exact ih h hlt
      · cases h

theorem headAfter_le {bytes : Array UInt8} {position n : Nat} {lead : UInt8} {c : Char}
    (h : headAfter lead (fun i => bytes[position + i]?) = .scalar c n)
    (hposition : position < bytes.size) : position + n ≤ bytes.size := by
  unfold headAfter at h
  split at h
  · cases h
    exact hposition
  · split at h
    · cases h
    · split at h
      · cases h
      · rename_i b hb
        have hnext : position + 1 < bytes.size := (Array.getElem?_eq_some_iff.mp hb).1
        split at h
        · exact continuations_le h hnext
        · cases h

theorem charAt?_le {bytes : Array UInt8} {position n : Nat} {c : Char}
    (h : charAt? bytes position = some (c, n)) : position + n ≤ bytes.size := by
  unfold charAt? at h
  split at h
  · cases h
  · rename_i lead hlead
    split at h
    · rename_i d m hhead
      cases h
      exact headAfter_le hhead (Array.getElem?_eq_some_iff.mp hlead).1
    · cases h

/-- A job is between the start of an attempt and the end of the text. -/
structure Job.Within (job : Job) (text : Array UInt8) (start : Nat) : Prop where
  start_le : start ≤ job.position
  le_size : job.position ≤ text.size

namespace Program

variable {p : Program} {text : Array UInt8} {start : Nat} {captures : Captures}

theorem within_successors {inst : Inst} {job next : Job} (hj : job.Within text start)
    (hn : next ∈ successors inst text job) : next.Within text start := by
  have hstart := hj.start_le
  cases inst with
  | accept => cases hn
  | dead => cases hn
  | char set address =>
    simp only [successors] at hn
    split at hn
    · rename_i c length hc
      split at hn
      · obtain rfl := List.mem_singleton.mp hn
        exact ⟨Nat.le_add_right_of_le hstart, charAt?_le hc⟩
      · cases hn
    · cases hn
  | byte set address =>
    simp only [successors] at hn
    split at hn
    · rename_i b hb
      split at hn
      · obtain rfl := List.mem_singleton.mp hn
        exact ⟨Nat.le_add_right_of_le hstart, (Array.getElem?_eq_some_iff.mp hb).1⟩
      · cases hn
    · cases hn
  | look test address =>
    simp only [successors] at hn
    split at hn
    · obtain rfl := List.mem_singleton.mp hn
      exact ⟨hstart, hj.le_size⟩
    · cases hn
  | mark slot address =>
    obtain rfl := List.mem_singleton.mp hn
    exact ⟨hstart, hj.le_size⟩
  | fork addresses =>
    obtain ⟨address, -, rfl⟩ := List.mem_map.mp hn
    exact ⟨hstart, hj.le_size⟩

/-- What every step keeps holds of the job that an exploration ends with, which accepts. -/
theorem explore_keeps {keeps : Job → Prop} {jobs : List Job} {tried : Tried} {fuel : Nat}
    {done : Job} (hstep : ∀ job inst next, p.insts[job.address]? = some inst → keeps job →
      next ∈ successors inst text job → keeps next)
    (hj : ∀ job ∈ jobs, keeps job) (h : p.explore text jobs tried fuel = some done) :
    keeps done ∧ p.insts[done.address]? = some .accept := by
  induction fuel generalizing jobs tried with
  | zero => cases h
  | succ fuel ih =>
    cases jobs with
    | nil => cases h
    | cons job rest =>
      obtain ⟨hfirst, hrest⟩ := List.forall_mem_cons.mp hj
      simp only [explore] at h
      split at h
      · exact ih hrest h
      · split at h
        · exact ih hrest h
        · rename_i haccept
          cases h
          exact ⟨hfirst, haccept⟩
        · rename_i inst _ hinst
          refine ih ?_ h
          intro next hn
          rcases List.mem_append.mp hn with hn | hn
          · exact hstep job inst next hinst hfirst hn
          · exact hrest next hn

theorem within_explore {jobs : List Job} {tried : Tried} {fuel : Nat} {done : Job}
    (hj : ∀ job ∈ jobs, job.Within text start) (h : p.explore text jobs tried fuel = some done) :
    done.Within text start :=
  (explore_keeps (fun _ _ _ _ => within_successors) hj h).1

theorem within_of_start {address : Nat} {marks : Array (Option Nat)} {tried : Tried} {fuel : Nat}
    {done : Job} (hstart : start ≤ text.size)
    (h : p.explore text [⟨address, start, marks⟩] tried fuel = some done) :
    done.Within text start := by
  refine within_explore ?_ h
  intro job hm
  obtain rfl := List.mem_singleton.mp hm
  exact ⟨Nat.le_refl start, hstart⟩

theorem searchFrom?_eq_some_iff {count : Nat} : p.searchFrom? text start count = some captures ↔
    ∃ position, start ≤ position ∧ position < start + count ∧
      p.matchAt? text position = some captures ∧
      ∀ earlier, start ≤ earlier → earlier < position → p.matchAt? text earlier = none := by
  induction count generalizing start with
  | zero =>
    simp only [searchFrom?, reduceCtorEq, false_iff, not_exists]
    omega
  | succ count ih =>
    unfold searchFrom?
    cases hm : p.matchAt? text start with
    | some here =>
      constructor
      · rintro ⟨⟩
        exact ⟨start, Nat.le_refl start, by omega, hm, fun earlier hle hlt => by omega⟩
      · rintro ⟨position, hle, -, hp, hfirst⟩
        rcases Nat.eq_or_lt_of_le hle with rfl | hlt
        · exact hm.symm.trans hp
        · cases (hfirst start (Nat.le_refl start) hlt).symm.trans hm
    | none =>
      simp only [ih]
      constructor
      · rintro ⟨position, hle, hlt, hp, hfirst⟩
        refine ⟨position, by omega, by omega, hp, ?_⟩
        intro earlier hge hbefore
        rcases Nat.eq_or_lt_of_le hge with rfl | hgt
        · exact hm
        · exact hfirst earlier hgt hbefore
      · rintro ⟨position, hle, hlt, hp, hfirst⟩
        have hne : start ≠ position := fun he => by simp [← he, hm] at hp
        exact ⟨position, by omega, by omega, hp, fun earlier hge => hfirst earlier (by omega)⟩

theorem search?_eq_some_iff : p.search? text start = some captures ↔
    ∃ position, start ≤ position ∧ position ≤ text.size ∧
      p.matchAt? text position = some captures ∧
      ∀ earlier, start ≤ earlier → earlier < position → p.matchAt? text earlier = none := by
  rw [search?, searchFrom?_eq_some_iff]
  constructor
  · rintro ⟨position, hle, hlt, hrest⟩
    exact ⟨position, hle, by omega, hrest⟩
  · rintro ⟨position, hle, hend, hrest⟩
    exact ⟨position, hle, by omega, hrest⟩

theorem leftmost : Regex.Leftmost Program matchAt? where
  start_eq p text position captures h := by
    obtain ⟨done, -, rfl⟩ := Option.map_eq_some_iff.mp h
    rfl
  found_iff _ _ _ _ _ := search?_eq_some_iff

end Program
end PatternScan.Pattern
