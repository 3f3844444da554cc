import Mathlib.Algebra.Order.Ring.Nat
import Mathlib.Order.Bounds.Basic
import PatternScan.Proofs.Text.Narrowing

namespace PatternScan.Text

namespace SortedTable

def places (entries : List Nat) (v : Nat) : Set Nat := {i | entries[i]? = some v}

/-- A run of the greatest entries up to a target, between the entries below and those beyond it. -/
structure Covers (entries : List Nat) (target : Nat) (before : List Nat) (entry width : Nat)
    (after : List Nat) : Prop where
  eq : entries = before ++ (List.replicate width entry ++ after)
  before_lt : ∀ v ∈ before, v < entry
  entry_le : entry ≤ target
  after_lt : ∀ v ∈ after, target < v
  width_pos : 0 < width

theorem exists_covers {entries : List Nat} {target : Nat} (hs : entries.Pairwise (· ≤ ·))
    (h : ∃ v ∈ entries, v ≤ target) :
    ∃ before entry width after, Covers entries target before entry width after := by
  induction entries with
  | nil =>
    obtain ⟨v, hv, -⟩ := h
    cases hv
  | cons first rest ih =>
    obtain ⟨hfirst, hrest⟩ := List.pairwise_cons.mp hs
    by_cases hin : ∃ v ∈ rest, v ≤ target
    · obtain ⟨before, entry, width, after, hc⟩ := ih hrest hin
      rcases Nat.lt_or_ge first entry with hlt | hge
      · refine ⟨first :: before, entry, width, after, ?_, ?_, hc.entry_le, hc.after_lt,
          hc.width_pos⟩
        · rw [hc.eq, List.cons_append]
        · exact List.forall_mem_cons.mpr ⟨hlt, hc.before_lt⟩
      · -- nothing stands between the first entry and the run, so the run begins one place earlier
        cases before with
        | cons v before =>
          have hv := hc.before_lt v List.mem_cons_self
          have hle := hfirst v (hc.eq ▸ List.mem_cons_self)
          omega
        | nil =>
          have hmem : entry ∈ rest := by
            rw [hc.eq]
            simp [Nat.ne_of_gt hc.width_pos]
          obtain rfl := Nat.le_antisymm (hfirst entry hmem) hge
          refine ⟨[], first, width + 1, after, ?_, by simp, hc.entry_le, hc.after_lt,
            Nat.succ_pos width⟩
          rw [hc.eq]
          rfl
    · obtain ⟨v, hv, hle⟩ := h
      obtain rfl : v = first := by
        rcases List.mem_cons.mp hv with rfl | hv
        · rfl
        · exact absurd ⟨v, hv, hle⟩ hin
      refine ⟨[], v, 1, rest, rfl, by simp, hle, ?_, Nat.one_pos⟩
      exact fun w hw => Nat.lt_of_not_le fun hle => hin ⟨w, hw, hle⟩

section

variable {entries before after : List Nat} {target entry width : Nat}
  (hc : Covers entries target before entry width after)

include hc

/-- The run is where the value stands. -/
theorem Covers.mem_places_iff {i : Nat} :
    i ∈ places entries entry ↔ before.length ≤ i ∧ i < before.length + width := by
  have hentry : entry ≤ target := hc.entry_le
  constructor
  · intro hi
    have hi : (before ++ (List.replicate width entry ++ after))[i]? = some entry := hc.eq ▸ hi
    constructor
    · by_contra hlt
      rw [List.getElem?_append_left (Nat.not_le.mp hlt)] at hi
      exact Nat.lt_irrefl _ (hc.before_lt entry (List.mem_of_getElem? hi))
    · by_contra hge
      rw [← List.append_assoc, List.getElem?_append_right (by simpa using hge)] at hi
      have hlt := hc.after_lt entry (List.mem_of_getElem? hi)
      omega
  · rintro ⟨hle, hlt⟩
    obtain ⟨offset, rfl⟩ := Nat.exists_eq_add_of_le hle
    change entries[before.length + offset]? = some entry
    rw [hc.eq]
    exact getElem?_middle before after entry (Nat.lt_of_add_lt_add_left hlt)

theorem Covers.isLeast : IsLeast (places entries entry) before.length := by
  have hwidth := hc.width_pos
  exact ⟨hc.mem_places_iff.mpr (by omega), fun i hi => (hc.mem_places_iff.mp hi).1⟩

theorem Covers.isGreatest : IsGreatest (places entries entry) (before.length + (width - 1)) := by
  have hwidth := hc.width_pos
  refine ⟨hc.mem_places_iff.mpr (by omega), fun i hi => ?_⟩
  have hi := (hc.mem_places_iff.mp hi).2
  omega

theorem Covers.entry_mem : entry ∈ entries :=
  List.mem_of_getElem? hc.isLeast.1

theorem Covers.le_entry {v : Nat} (hv : v ∈ entries) (hle : v ≤ target) : v ≤ entry := by
  rw [hc.eq, List.mem_append, List.mem_append] at hv
  rcases hv with hv | hv | hv
  · exact Nat.le_of_lt (hc.before_lt v hv)
  · exact Nat.le_of_eq (List.eq_of_mem_replicate hv)
  · exact absurd hle (Nat.not_le.mpr (hc.after_lt v hv))

theorem Covers.width_le_count : width ≤ entries.count entry := by
  rw [hc.eq, List.count_append, List.count_append, List.count_replicate_self]
  omega

theorem Covers.eq_of_isGreatest {greatest : Nat}
    (hg : IsGreatest {v | v ∈ entries ∧ v ≤ target} greatest) : greatest = entry :=
  Nat.le_antisymm (hc.le_entry hg.1.1 hg.1.2) (hg.2 ⟨hc.entry_mem, hc.entry_le⟩)

theorem Covers.eq_of_mem (hm : target ∈ entries) : entry = target :=
  Nat.le_antisymm hc.entry_le (hc.le_entry hm (Nat.le_refl target))

theorem Covers.repeats_iff :
    (before.length + (width - 1) ≠ 0 ∧ entries[before.length + (width - 1) - 1]? =
      entries[before.length + (width - 1)]?) ↔ 2 ≤ width := by
  have hwidth := hc.width_pos
  have hlast : entries[before.length + (width - 1)]? = some entry := hc.isGreatest.1
  rw [hlast]
  constructor
  · rintro ⟨hne, hprevious⟩
    have hin := hc.mem_places_iff.mp hprevious
    omega
  · intro htwo
    exact ⟨by omega, hc.mem_places_iff.mpr (by omega)⟩

end

variable {α : Type} {value : α → Nat} {table : Array α} {target : Nat}

/-- How many places the way back goes. -/
def backSteps (value : α → Nat) (table : Array α) (target : Nat) : Nat → Nat
  | 0 => 0
  | index + 1 =>
    if reached value table target (index + 1) then 0 else backSteps value table target index + 1

theorem walkBack_add_backSteps (value : α → Nat) (table : Array α) (target index : Nat) :
    walkBack value table target index + backSteps value table target index = index := by
  induction index with
  | zero => rfl
  | succ index ih =>
    rw [walkBack, backSteps]
    split
    · rfl
    · omega

theorem backSteps_lowerBound_le_one (hsize : 0 < table.size)
    (hs : (table.toList.map value).Pairwise (· ≤ ·)) (target : Nat) :
    backSteps value table target (lowerBound value table target) ≤ 1 := by
  by_cases hle : ∃ v ∈ table.toList.map value, v ≤ target
  · obtain ⟨before, entry, width, after, hc⟩ := exists_covers hs hle
    have hwhole := size_of_split hc.eq
    have hwidth := hc.width_pos
    have hlower := lowerBound_eq
      (isBelow_iff_of_split hc.eq hc.before_lt hc.entry_le hc.after_lt) hsize (by split <;> omega)
    have hback := walkBack_add_backSteps value table target (lowerBound value table target)
    rw [walkBack_eq (reached_iff_of_split hc.eq hc.before_lt hc.entry_le hc.after_lt)] at hback
    split at hlower <;> omega
  · have hall : ∀ v ∈ table.toList.map value, target ≤ v := fun v hv =>
      Nat.le_of_not_le fun h => hle ⟨v, hv, h⟩
    rw [lowerBound_of_forall_le hall hsize]
    exact Nat.zero_le 1

theorem count_offsets_le {t : IndexedText} (hsize : t.content.size < 2 ^ 32) {map : OffsetMap}
    (hm : map ∈ t.encoding.map?) (v : Nat) : map.offsets.toList.count v ≤ 2 := by
  obtain ⟨front, rest, hc, -, hmap⟩ := t.exists_front
  rw [hmap] at hm
  split at hm
  · cases hm
  · obtain rfl := Option.some.inj hm
    rw [toList_ofList_beginnings (fun _ => fits_of_mem_pieces)
      (IndexedText.byteCount_rest_lt hsize hc)]
    exact count_beginnings_le (fun _ => fits_of_mem_pieces) 0 v

/-- What the search in a table of non-decreasing entries answers. The answer is a place of the
table. A target that is an entry is found where it stands first. A target that is none, but has
smaller entries, is covered by the greatest of these, and the answer is the last place of that one,
or the place before if the entry there is the same. A target below all entries is found at 0. So as
long as no entry stands more than twice, as in the table of any text, the answer is the first place
of the greatest entry up to the target. The way back from the first entry that is not below the
target is one place at most. -/
theorem locate_of_sorted (hsize : 0 < table.size) (hs : (table.toList.map value).Pairwise (· ≤ ·))
    (target : Nat) :
    let entries := table.toList.map value
    let lower := lowerBound value table target
    let index := locate value table target
    index < table.size ∧
    (target ∈ entries → IsLeast (places entries target) index) ∧
    (target ∉ entries → (∃ v ∈ entries, v < target) → ∃ greatest last,
      IsGreatest {v | v ∈ entries ∧ v < target} greatest ∧
      IsGreatest (places entries greatest) last ∧
      index = if last ≠ 0 ∧ entries[last - 1]? = entries[last]? then last - 1 else last) ∧
    ((∀ v ∈ entries, target < v) → index = 0) ∧
    ((∀ v, entries.count v ≤ 2) → ∀ greatest, IsGreatest {v | v ∈ entries ∧ v ≤ target} greatest →
      IsLeast (places entries greatest) index) ∧
    (walkBack value table target lower + backSteps value table target lower = lower ∧
      backSteps value table target lower ≤ 1) ∧
    ∀ t : IndexedText, t.content.size < 2 ^ 32 → ∀ map ∈ t.encoding.map?, ∀ v,
      map.offsets.toList.count v ≤ 2 := by
  intro entries lower index
  have hback := And.intro (walkBack_add_backSteps value table target lower)
    (backSteps_lowerBound_le_one hsize hs target)
  by_cases hle : ∃ v ∈ entries, v ≤ target
  · obtain ⟨before, entry, width, after, hc⟩ := exists_covers hs hle
    have hwhole := size_of_split hc.eq
    have hwidth := hc.width_pos
    have hindex : index = before.length + if entry = target then 0 else width - 2 :=
      locate_of_run hc.eq hc.before_lt hc.entry_le hc.after_lt hc.width_pos
    refine ⟨by split at hindex <;> omega, ?_, ?_, ?_, ?_, hback, fun _ => count_offsets_le⟩
    · intro hm
      obtain rfl := hc.eq_of_mem hm
      rw [if_pos rfl, Nat.add_zero] at hindex
      rw [hindex]
      exact hc.isLeast
    · intro hnot _
      have hlt : entry < target :=
        Nat.lt_of_le_of_ne hc.entry_le fun heq => hnot (heq ▸ hc.entry_mem)
      refine ⟨entry, _, ⟨⟨hc.entry_mem, hlt⟩, ?_⟩, hc.isGreatest, ?_⟩
      · exact fun v hv => hc.le_entry hv.1 (Nat.le_of_lt hv.2)
      · rw [if_congr hc.repeats_iff rfl rfl, hindex, if_neg (Nat.ne_of_lt hlt)]
        split <;> omega
    · intro hall
      exact absurd (hall entry hc.entry_mem) (Nat.not_lt.mpr hc.entry_le)
    · intro hcount greatest hg
      obtain rfl := hc.eq_of_isGreatest hg
      have htwo := Nat.le_trans hc.width_le_count (hcount greatest)
      rw [hindex, show (if greatest = target then 0 else width - 2) = 0 by split <;> omega]
      exact hc.isLeast
  · have hall : ∀ v ∈ entries, target < v := fun v hv =>
      Nat.lt_of_not_le fun h => hle ⟨v, hv, h⟩
    have hindex : index = 0 := locate_of_forall_le fun v hv => Nat.le_of_lt (hall v hv)
    refine ⟨by omega, ?_, ?_, fun _ => hindex, ?_, hback, fun _ => count_offsets_le⟩
    · exact fun hm => absurd (hall target hm) (Nat.lt_irrefl target)
    · rintro - ⟨v, hv, hlt⟩
      exact absurd ⟨v, hv, Nat.le_of_lt hlt⟩ hle
    · exact fun _ greatest hg => absurd ⟨greatest, hg.1⟩ hle

/-- A target between three equal entries and a greater one is found at the second of the three. -/
theorem locate_of_sorted_in_run :
    let table := #[0, 3, 3, 3, 7]
    0 < table.size ∧ (table.toList.map id).Pairwise (· ≤ ·) ∧ locate id table 5 = 2 := by
  intro table
  have hsize : 0 < table.size := by decide
  have hs : (table.toList.map id).Pairwise (· ≤ ·) := by decide
  refine ⟨hsize, hs, ?_⟩
  obtain ⟨-, -, hmissing, -, -, -, -⟩ := locate_of_sorted hsize hs 5
  obtain ⟨greatest, last, hg, hl, hindex⟩ := hmissing (by decide) ⟨3, by decide, by decide⟩
  have hc : Covers [0, 3, 3, 3, 7] 5 [0] 3 3 [7] :=
    ⟨rfl, by decide, by decide, by decide, by decide⟩
  have hthree : IsGreatest {v | v ∈ [0, 3, 3, 3, 7] ∧ v < 5} 3 :=
    ⟨by decide, fun v hv => hc.le_entry hv.1 (Nat.le_of_lt hv.2)⟩
  obtain rfl := hg.unique hthree
  obtain rfl := hl.unique hc.isGreatest
  exact hindex

end SortedTable
end PatternScan.Text
