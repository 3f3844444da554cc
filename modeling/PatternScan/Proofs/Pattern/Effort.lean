import Mathlib.Algebra.BigOperators.Intervals
import Mathlib.Algebra.Order.BigOperators.Group.Finset
import PatternScan.Proofs.Pattern.Leftmost

namespace PatternScan.Pattern.Program

open Finset (range)

variable {p : Program} {text : Array UInt8} {tried : Tried} {jobs : List Job}

theorem length_successors_le (inst : Inst) (text : Array UInt8) (job : Job) :
    (successors inst text job).length ≤ inst.degree := by
  cases inst with
  | char set next =>
    simp only [successors]
    split
    · split <;> simp [Inst.degree]
    · simp
  | byte set next =>
    simp only [successors]
    split
    · split <;> simp [Inst.degree]
    · simp
  | look test next =>
    simp only [successors]
    split <;> simp [Inst.degree]
  | fork nexts => simp [successors, Inst.degree]
  | _ => simp [successors, Inst.degree]

/-- How many jobs a place can still lead to; a place is an instruction at a position. -/
def openAt (p : Program) (text : Array UInt8) (tried : Tried) (place : Nat) : Nat :=
  if tried.contains place then 0
  else ((p.insts[place / (text.size + 1)]?).map Inst.degree).getD 0

def openJobs (p : Program) (text : Array UInt8) (tried : Tried) : Nat :=
  ∑ place ∈ range (p.insts.size * (text.size + 1)), p.openAt text tried place

/-- Trying a place uses up what it can lead to. -/
theorem openJobs_insert (p : Program) (text : Array UInt8) {place : Nat}
    (h : tried.contains place = false) :
    p.openJobs text (tried.insert place) + p.openAt text tried place = p.openJobs text tried := by
  have hother : ∀ other, other ≠ place →
      p.openAt text (tried.insert place) other = p.openAt text tried other := by
    intro other hne
    simp [openAt, Std.TreeSet.contains_insert, Ne.symm hne]
  have hself : p.openAt text (tried.insert place) place = 0 := by
    simp [openAt]
  unfold openJobs
  by_cases hm : place ∈ range (p.insts.size * (text.size + 1))
  · rw [← Finset.sum_erase_add _ _ hm, ← Finset.sum_erase_add _ _ hm, hself, Nat.add_zero]
    congr 1
    exact Finset.sum_congr rfl fun other ho => hother other (Finset.ne_of_mem_erase ho)
  · have hout : p.insts[place / (text.size + 1)]? = none := by
      rw [Finset.mem_range, Nat.not_lt] at hm
      exact Array.getElem?_eq_none ((Nat.le_div_iff_mul_le (Nat.succ_pos _)).mpr hm)
    have hzero : p.openAt text tried place = 0 := by simp [openAt, h, hout]
    rw [hzero, Nat.add_zero]
    refine Finset.sum_congr rfl fun other ho => hother other ?_
    rintro rfl
    exact hm ho

theorem div_place {address position : Nat} (h : position ≤ text.size) :
    (address * (text.size + 1) + position) / (text.size + 1) = address := by
  rw [Nat.mul_comm, Nat.mul_add_div (Nat.succ_pos _), Nat.div_eq_of_lt (Nat.lt_succ_of_le h),
    Nat.add_zero]

/-- An exploration with fuel for all jobs that it can lead to comes to its end: more fuel changes
nothing. -/
theorem explore_of_le {fuel more : Nat} (hin : ∀ job ∈ jobs, job.position ≤ text.size)
    (hfuel : jobs.length + p.openJobs text tried ≤ fuel) (hmore : fuel ≤ more) :
    p.explore text jobs tried more = p.explore text jobs tried fuel := by
  induction fuel generalizing jobs tried more with
  | zero =>
    obtain rfl : jobs = [] := List.eq_nil_of_length_eq_zero (by omega)
    cases more <;> rfl
  | succ fuel ih =>
    obtain ⟨more, rfl⟩ : ∃ m, more = m + 1 := ⟨more - 1, by omega⟩
    have hmore : fuel ≤ more := Nat.le_of_succ_le_succ hmore
    cases jobs with
    | nil => rfl
    | cons job rest =>
      obtain ⟨hjob, hrest⟩ := List.forall_mem_cons.mp hin
      rw [List.length_cons] at hfuel
      simp only [explore]
      split
      · exact ih hrest (by omega) hmore
      · rename_i huntried
        have hused := p.openJobs_insert text (Bool.not_eq_true _ ▸ huntried)
        split
        · exact ih hrest (by omega) hmore
        · rfl
        · -- what the place can lead to pays for the jobs that come in its stead
          rename_i inst _ hinst
          have hopen : p.openAt text tried (job.address * (text.size + 1) + job.position) =
              inst.degree := by
            simp [openAt, huntried, div_place hjob, hinst]
          have hnew := length_successors_le inst text job
          refine ih ?_ (by rw [List.length_append]; omega) hmore
          intro next hn
          rcases List.mem_append.mp hn with hn | hn
          · exact (within_successors ⟨Nat.zero_le _, hjob⟩ hn).le_size
          · exact hrest next hn

theorem sum_range_div (f : Nat → Nat) (rows : Nat) {width : Nat} (hw : 0 < width) :
    ∑ place ∈ range (rows * width), f (place / width) = (∑ row ∈ range rows, f row) * width := by
  induction rows with
  | zero => simp
  | succ rows ih =>
    have hrow : ∀ column ∈ range width, f ((rows * width + column) / width) = f rows := by
      intro column hc
      rw [Nat.mul_comm, Nat.mul_add_div hw, Nat.div_eq_of_lt (Finset.mem_range.mp hc), Nat.add_zero]
    rw [Nat.succ_mul, Finset.sum_range_add, ih, Finset.sum_congr rfl hrow, Finset.sum_range_succ]
    rw [Finset.sum_const, Finset.card_range, Nat.add_mul, Nat.mul_comm (f rows)]
    rfl

theorem sum_range_getElem? (values : List Nat) :
    ∑ i ∈ range values.length, values[i]?.getD 0 = values.sum := by
  induction values with
  | nil => rfl
  | cons v rest ih =>
    rw [List.length_cons, Finset.sum_range_succ', List.sum_cons, ← ih, Nat.add_comm]
    rfl

theorem effort_eq (p : Program) (text : Array UInt8) :
    p.effort text = (p.insts.toList.map Inst.degree).sum * (text.size + 1) + 1 := by
  rw [effort, List.sum_eq_foldr, List.foldr_map, Array.foldr_toList]

theorem openJobs_le (p : Program) (text : Array UInt8) (tried : Tried) :
    p.openJobs text tried ≤ (p.insts.toList.map Inst.degree).sum * (text.size + 1) := by
  have hlength : p.insts.size = (p.insts.toList.map Inst.degree).length := by simp
  rw [← sum_range_getElem?, ← hlength, ← sum_range_div _ _ (Nat.succ_pos _)]
  refine Finset.sum_le_sum fun place _ => ?_
  unfold openAt
  split
  · exact Nat.zero_le _
  · simp

/-- The effort of an attempt suffices: whatever else it is given, it finds the same. -/
theorem explore_of_effort_le {start fuel : Nat} {marks : Array (Option Nat)}
    (hstart : start ≤ text.size) (h : p.effort text ≤ fuel) :
    p.explore text [⟨p.entry, start, marks⟩] ∅ fuel =
      p.explore text [⟨p.entry, start, marks⟩] ∅ (p.effort text) := by
  refine explore_of_le ?_ ?_ h
  · simpa using hstart
  · have hopen := p.openJobs_le text ∅
    rw [effort_eq, List.length_singleton]
    omega

end PatternScan.Pattern.Program
