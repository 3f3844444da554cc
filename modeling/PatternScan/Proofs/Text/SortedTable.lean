import PatternScan.Text.SortedTable

namespace PatternScan.Text.SortedTable

variable {α : Type} {value : α → Nat} {table : Array α} {target below upTo : Nat}

theorem isBelow_iff {index : Nat} : isBelow value table target index = true ↔
    ∃ v, (table.toList.map value)[index]? = some v ∧ v < target := by
  rw [isBelow, List.getElem?_map, Array.getElem?_toList]
  cases table[index]? <;> simp

theorem reached_iff {index : Nat} : reached value table target index = true ↔
    ∃ v, (table.toList.map value)[index]? = some v ∧ v ≤ target := by
  rw [reached, List.getElem?_map, Array.getElem?_toList]
  cases table[index]? <;> simp

/-- The halving ends at the last entry below the target, or at the first entry. -/
theorem narrowDown_spec (hb : ∀ i, isBelow value table target i = true ↔ i < below)
    {base size : Nat} (hsize : 1 ≤ size) (hbase : base = 0 ∨ base < below)
    (hend : below ≤ base + size) :
    (narrowDown value table target base size = 0 ∨
      narrowDown value table target base size < below) ∧
      below ≤ narrowDown value table target base size + 1 := by
  fun_induction narrowDown value table target base size with
  | case1 base size hlt middle ih =>
    by_cases hm : isBelow value table target middle = true
    · simp only [hm, dite_true, if_true] at ih ⊢
      have hlast : middle < below := (hb middle).mp hm
      exact ih (by omega) (Or.inr hlast) (by omega)
    · simp only [hm, dite_false, if_false, Bool.false_eq_true] at ih ⊢
      have hfirst : below ≤ middle := Nat.le_of_not_lt fun h => hm ((hb middle).mpr h)
      exact ih (by omega) hbase (by omega)
  | case2 base size hle => exact ⟨hbase, by omega⟩

theorem lowerBound_eq (hb : ∀ i, isBelow value table target i = true ↔ i < below)
    (hsize : 1 ≤ table.size) (hend : below ≤ table.size) :
    lowerBound value table target = below := by
  have hbase : 0 = 0 ∨ 0 < below := Or.inl rfl
  obtain ⟨hfirst, hlast⟩ := narrowDown_spec hb hsize hbase (by rwa [Nat.zero_add])
  unfold lowerBound
  generalize narrowDown value table target 0 table.size = r at hfirst hlast
  dsimp only
  split
  · rename_i hr
    have hlt := (hb r).mp hr
    omega
  · rename_i hr
    have hge : below ≤ r := Nat.le_of_not_lt fun h => hr ((hb r).mpr h)
    omega

theorem walkBack_eq (hr : ∀ i, reached value table target i = true ↔ i < upTo) (index : Nat) :
    walkBack value table target index = min index (upTo - 1) := by
  induction index with
  | zero => rw [walkBack, Nat.zero_min]
  | succ index ih =>
    rw [walkBack]
    split
    · rename_i h
      have hlt := (hr (index + 1)).mp h
      omega
    · rename_i h
      have hge : upTo ≤ index + 1 := Nat.le_of_not_lt fun hlt => h ((hr (index + 1)).mpr hlt)
      rw [ih]
      omega

theorem locate_eq (hb : ∀ i, isBelow value table target i = true ↔ i < below)
    (hr : ∀ i, reached value table target i = true ↔ i < upTo)
    (hsize : 1 ≤ table.size) (hend : below ≤ table.size) :
    locate value table target =
      if repeats value table (min below (upTo - 1)) then min below (upTo - 1) - 1
      else min below (upTo - 1) := by
  have hne : table.isEmpty = false := by
    rw [Array.isEmpty_eq_false_iff, ← Array.size_pos_iff]
    exact hsize
  rw [locate, hne, lowerBound_eq hb hsize hend, walkBack_eq hr]
  rfl

theorem repeats_succ_iff {index : Nat} : repeats value table (index + 1) = true ↔
    (table.toList.map value)[index + 1]? = (table.toList.map value)[index]? := by
  rw [repeats, beq_iff_eq, List.getElem?_map, List.getElem?_map, Array.getElem?_toList,
    Array.getElem?_toList]

theorem exists_getElem?_append_iff {front back : List Nat} {p : Nat → Prop}
    (hf : ∀ v ∈ front, p v) (hb : ∀ v ∈ back, ¬ p v) (index : Nat) :
    (∃ v, (front ++ back)[index]? = some v ∧ p v) ↔ index < front.length := by
  constructor
  · rintro ⟨v, hv, hp⟩
    by_cases h : index < front.length
    · exact h
    · rw [List.getElem?_append_right (Nat.le_of_not_lt h)] at hv
      exact absurd hp (hb v (List.mem_of_getElem? hv))
  · intro h
    refine ⟨front[index], ?_, hf _ (List.getElem_mem h)⟩
    rw [List.getElem?_append_left h, List.getElem?_eq_getElem h]

section

theorem getElem?_middle (before after : List Nat) (entry : Nat) {width offset : Nat}
    (h : offset < width) :
    (before ++ (List.replicate width entry ++ after))[before.length + offset]? = some entry := by
  rw [List.getElem?_append_right (Nat.le_add_right _ _), Nat.add_sub_cancel_left,
    List.getElem?_append_left (by rwa [List.length_replicate]), List.getElem?_replicate_of_lt h]

variable {before after : List Nat} {entry width : Nat}
  (ht : table.toList.map value = before ++ (List.replicate width entry ++ after))
  (hbefore : ∀ v ∈ before, v < entry)

include ht hbefore

theorem not_repeats_of_split (hwidth : 0 < width) :
    repeats value table before.length = false := by
  cases hl : before.length with
  | zero => rfl
  | succ last =>
    rw [Bool.eq_false_iff, ne_eq, repeats_succ_iff, ht, ← hl]
    intro he
    have hlast : last < before.length := by omega
    have hthis := getElem?_middle before after entry hwidth
    rw [Nat.add_zero] at hthis
    rw [hthis, List.getElem?_append_left hlast, List.getElem?_eq_getElem hlast] at he
    have hlt := hbefore _ (List.getElem_mem hlast)
    rw [← Option.some.inj he] at hlt
    exact Nat.lt_irrefl _ hlt

/-- What has a property that passes on to smaller entries, and that the later ones lack. -/
theorem exists_split_iff {p : Nat → Prop} (hp : ∀ v, v ≤ entry → p v) (hafter : ∀ v ∈ after, ¬ p v)
    (index : Nat) :
    (∃ v, (table.toList.map value)[index]? = some v ∧ p v) ↔ index < before.length + width := by
  have hfront : ∀ v ∈ before ++ List.replicate width entry, p v := by
    intro v hv
    rcases List.mem_append.mp hv with hv | hv
    · exact hp v (Nat.le_of_lt (hbefore v hv))
    · exact hp v (Nat.le_of_eq (List.eq_of_mem_replicate hv))
  rw [ht, ← List.append_assoc, exists_getElem?_append_iff hfront hafter, List.length_append,
    List.length_replicate]

theorem isBelow_iff_of_split (hentry : entry ≤ target) (hafter : ∀ v ∈ after, target < v)
    (index : Nat) : isBelow value table target index = true ↔
      index < before.length + if entry = target then 0 else width := by
  split
  · rename_i heq
    have hback : ∀ v ∈ List.replicate width entry ++ after, ¬ v < target := by
      intro v hv
      rcases List.mem_append.mp hv with hv | hv
      · exact Nat.not_lt.mpr (Nat.le_of_eq ((List.eq_of_mem_replicate hv).trans heq).symm)
      · exact Nat.not_lt.mpr (Nat.le_of_lt (hafter v hv))
    rw [isBelow_iff, ht, exists_getElem?_append_iff (heq ▸ hbefore) hback, Nat.add_zero]
  · rename_i hne
    have hlt : entry < target := Nat.lt_of_le_of_ne hentry hne
    exact isBelow_iff.trans (exists_split_iff ht hbefore (fun v hv => Nat.lt_of_le_of_lt hv hlt)
      (fun v hv => Nat.not_lt.mpr (Nat.le_of_lt (hafter v hv))) index)

theorem reached_iff_of_split (hentry : entry ≤ target) (hafter : ∀ v ∈ after, target < v)
    (index : Nat) :
    reached value table target index = true ↔ index < before.length + width :=
  reached_iff.trans (exists_split_iff ht hbefore (fun _ hv => Nat.le_trans hv hentry)
    (fun v hv => Nat.not_le.mpr (hafter v hv)) index)

omit hbefore in
theorem size_of_split : table.size = before.length + (width + after.length) := by
  have hl := congrArg List.length ht
  simpa only [List.length_map, Array.length_toList, List.length_append, List.length_replicate]
    using hl

/-- A run is found at its beginning if it equals the target, else at the last place but one. -/
theorem locate_of_run (hentry : entry ≤ target) (hafter : ∀ v ∈ after, target < v)
    (hwidth : 0 < width) : locate value table target =
      before.length + if entry = target then 0 else width - 2 := by
  have hsize := size_of_split ht
  have hnot := not_repeats_of_split ht hbefore hwidth
  rw [locate_eq (isBelow_iff_of_split ht hbefore hentry hafter)
    (reached_iff_of_split ht hbefore hentry hafter) (by omega) (by split <;> omega)]
  by_cases heq : entry = target
  · rw [if_pos heq, if_pos heq, Nat.add_zero, Nat.min_eq_left (by omega), hnot]
    rfl
  · rw [if_neg heq, if_neg heq, Nat.min_eq_right (by omega)]
    match width, hwidth with
    | 1, _ =>
      rw [Nat.add_sub_cancel, hnot]
      rfl
    | more + 2, _ =>
      have hlast := getElem?_middle before after entry (show more + 1 < more + 2 by omega)
      have hprevious := getElem?_middle before after entry (show more < more + 2 by omega)
      have hrepeated : repeats value table (before.length + (more + 1)) = true := by
        rw [← Nat.add_assoc, repeats_succ_iff, ht, Nat.add_assoc, hlast, hprevious]
      rw [show before.length + (more + 2) - 1 = before.length + (more + 1) by omega, hrepeated]
      rfl

theorem locate_of_split (hentry : entry ≤ target) (hafter : ∀ v ∈ after, target < v)
    (hwidth : width = 1 ∨ width = 2) : locate value table target = before.length := by
  rw [locate_of_run ht hbefore hentry hafter (by omega)]
  split <;> omega

end

section

variable (h : ∀ v ∈ table.toList.map value, target ≤ v)

include h

theorem lowerBound_of_forall_le (hsize : 1 ≤ table.size) : lowerBound value table target = 0 := by
  have hbelow : ∀ i, isBelow value table target i = true ↔ i < 0 := by
    intro i
    rw [isBelow_iff]
    constructor
    · rintro ⟨v, hv, hlt⟩
      exact absurd (h v (List.mem_of_getElem? hv)) (Nat.not_le.mpr hlt)
    · exact fun hi => absurd hi (Nat.not_lt_zero i)
  exact lowerBound_eq hbelow hsize (Nat.zero_le _)

theorem locate_of_forall_le : locate value table target = 0 := by
  unfold locate
  split
  · rfl
  · rename_i hne
    rw [Array.isEmpty_iff_size_eq_zero] at hne
    rw [lowerBound_of_forall_le h (by omega)]
    rfl

end

end PatternScan.Text.SortedTable
