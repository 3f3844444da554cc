import Mathlib.Algebra.Order.Ring.Nat
import PatternScan.Proofs.Text.Encoding
import PatternScan.Proofs.Text.RoundTrip

namespace PatternScan

namespace Text

namespace SortedTable

variable {α β : Type} {value : α → Nat} {other : β → Nat} {table : Array α} {copy : Array β}
  (h : table.toList.map value = copy.toList.map other)

include h

theorem size_congr : table.size = copy.size := by
  have hl := congrArg List.length h
  simpa only [List.length_map, Array.length_toList] using hl

theorem isBelow_congr (target index : Nat) :
    isBelow value table target index = isBelow other copy target index := by
  rw [Bool.eq_iff_iff, isBelow_iff, isBelow_iff, h]

theorem reached_congr (target index : Nat) :
    reached value table target index = reached other copy target index := by
  rw [Bool.eq_iff_iff, reached_iff, reached_iff, h]

theorem repeats_congr (index : Nat) : repeats value table index = repeats other copy index := by
  cases index with
  | zero => rfl
  | succ index => rw [Bool.eq_iff_iff, repeats_succ_iff, repeats_succ_iff, h]

theorem narrowDown_congr (target base size : Nat) :
    narrowDown value table target base size = narrowDown other copy target base size := by
  fun_induction narrowDown value table target base size with
  | case1 base size hlt middle ih =>
    simp only [dite_eq_ite] at ih
    rw [ih, isBelow_congr h]
    conv => rhs; rw [narrowDown, if_pos hlt]
  | case2 base size hle => rw [narrowDown, if_neg hle]

theorem walkBack_congr (target index : Nat) :
    walkBack value table target index = walkBack other copy target index := by
  induction index with
  | zero => rfl
  | succ index ih => rw [walkBack, walkBack, reached_congr h, ih]

theorem locate_congr (target : Nat) : locate value table target = locate other copy target := by
  have hlower : lowerBound value table target = lowerBound other copy target := by
    unfold lowerBound
    rw [size_congr h, narrowDown_congr h]
    simp only [isBelow_congr h]
  have hempty : table.isEmpty = copy.isEmpty := by
    rw [Bool.eq_iff_iff, Array.isEmpty_iff_size_eq_zero, Array.isEmpty_iff_size_eq_zero,
      size_congr h]
  unfold locate
  rw [hempty, hlower, walkBack_congr h]
  simp only [repeats_congr h]

end SortedTable

namespace PackedOffsets

theorem indexOf_eq_locate (t : PackedOffsets) (byte : Nat) :
    t.indexOf byte = SortedTable.locate id t.toList.toArray byte := by
  cases t with
  | narrow entries => exact SortedTable.locate_congr (by simp [toList]) byte
  | medium entries => exact SortedTable.locate_congr (by simp [toList]) byte
  | wide entries => exact SortedTable.locate_congr (by simp [toList]) byte

variable {offsets : List UInt32} (h : ∀ v ∈ offsets, v.toNat ≤ 3 * offsets.length)

include h

theorem toList_ofList_map_toNat :
    (ofList (offsets.map UInt32.toNat)).toList = offsets.map UInt32.toNat := by
  apply toList_ofList
  intro v hv
  obtain ⟨offset, ho, rfl⟩ := List.mem_map.mp hv
  rw [List.length_map]
  exact ⟨h offset ho, offset.toNat_lt⟩

theorem get?_ofList_map_toNat (index : Nat) :
    (ofList (offsets.map UInt32.toNat)).get? index = offsets[index]?.map UInt32.toNat := by
  rw [← getElem?_toList, toList_ofList_map_toNat h, List.getElem?_map]

theorem indexOf_ofList_map_toNat (byte : Nat) :
    (ofList (offsets.map UInt32.toNat)).indexOf byte =
      SortedTable.locate UInt32.toNat offsets.toArray byte := by
  rw [indexOf_eq_locate, toList_ofList_map_toNat h]
  exact SortedTable.locate_congr (by simp) byte

end PackedOffsets

theorem beginnings_add (shift origin : Nat) (ps : List Piece) :
    beginnings (shift + origin) ps = (beginnings origin ps).map (shift + ·) := by
  induction ps generalizing origin with
  | nil => rfl
  | cons p rest ih =>
    rw [beginnings, beginnings, List.map_append, List.map_replicate, Nat.add_assoc, ih]

/-- No character begins where another one does, and none has more than two units. -/
theorem count_beginnings_le {ps : List Piece} (hf : ∀ p ∈ ps, p.Fits) (origin v : Nat) :
    (beginnings origin ps).count v ≤ 2 := by
  induction ps generalizing origin with
  | nil => exact Nat.zero_le 2
  | cons p rest ih =>
    obtain ⟨hp, hrest⟩ := List.forall_mem_cons.mp hf
    have hwidth := hp.width
    have hpos := p.char.utf8Size_pos
    rw [beginnings, List.count_append, List.count_replicate]
    split
    · rename_i heq
      obtain rfl : origin = v := by simpa using heq
      have hlater : origin ∉ beginnings (origin + p.char.utf8Size) rest := fun hm => by
        have hle := (mem_beginnings hm).1
        omega
      rw [List.count_eq_zero_of_not_mem hlater]
      omega
    · have hothers := ih hrest (origin + p.char.utf8Size)
      omega

theorem exists_split_beyond_ascii {units : List CodeUnit} (h : ∃ u ∈ units, 0x80 ≤ u.toNat) :
    ∃ front first back, units = front ++ first :: back ∧ (∀ u ∈ front, u.isAscii = true) ∧
      0x80 ≤ first.toNat ∧ OffsetMap.ofUnits? units =
        some ⟨front.length, .ofList (beginnings 0 (pieces (first :: back)))⟩ := by
  obtain ⟨u, hu, hbeyond⟩ := h
  have hnot := (isAscii_eq_false_iff u).mpr hbeyond
  have hsplit : units = units.takeWhile CodeUnit.isAscii ++ units.dropWhile CodeUnit.isAscii :=
    List.takeWhile_append_dropWhile.symm
  cases hrest : units.dropWhile CodeUnit.isAscii with
  | nil =>
    have hall := List.dropWhile_eq_nil_iff.mp hrest u hu
    simp [hnot] at hall
  | cons first back =>
    have hfirst : first.isAscii = false := by
      have hhead := List.head?_dropWhile_not CodeUnit.isAscii units
      simpa [hrest] using hhead
    rw [hrest] at hsplit
    refine ⟨_, first, back, hsplit, List.all_eq_true.mp List.all_takeWhile,
      (isAscii_eq_false_iff first).mp hfirst, ?_⟩
    unfold OffsetMap.ofUnits?
    simp [hrest]

theorem head?_beginnings (u : CodeUnit) (rest : List CodeUnit) (origin : Nat) :
    (beginnings origin (pieces (u :: rest))).head? = some origin := by
  cases rest with
  | nil => rfl
  | cons v rest =>
    rw [pieces]
    split <;> rfl

end Text

namespace IndexedText

open Text

variable {t : IndexedText}

theorem IsLowHalf.pos {unit : Nat} (h : t.IsLowHalf unit) : 0 < unit := by
  obtain ⟨before, high, low, rfl, -⟩ := h
  exact Nat.succ_pos before

theorem toByte_eq_iff (hsize : t.content.size < 2 ^ 32) {a b : Nat} (hab : a < b)
    (hb : b < t.size) : t.toByte a = t.toByte b ↔ b = a + 1 ∧ t.IsLowHalf b := by
  constructor
  · intro he
    have hfirst := toUnit_toByte hsize (show a ≤ t.size by omega)
    have hsecond := toUnit_toByte hsize (Nat.le_of_lt hb)
    rw [he] at hfirst
    -- both units come back to the same one, which is not the later of the two
    by_cases hlow : t.IsLowHalf b
    · by_cases hearlier : t.IsLowHalf a
      · have hpos := hearlier.pos
        have hback := (hfirst.2 hearlier).symm.trans (hsecond.2 hlow)
        omega
      · have hback := (hfirst.1 hearlier).symm.trans (hsecond.2 hlow)
        exact ⟨by omega, hlow⟩
    · by_cases hearlier : t.IsLowHalf a
      · have hback := (hfirst.2 hearlier).symm.trans (hsecond.1 hlow)
        omega
      · have hback := (hfirst.1 hearlier).symm.trans (hsecond.1 hlow)
        omega
  · rintro ⟨rfl, hlow⟩
    exact (toByte_of_isLowHalf hsize hlow).symm

/-- The offsets of the units from `start` on: those of `rest`, the part of the text behind `front`.
-/
structure Tabulates (t : IndexedText) (front rest : List CodeUnit) (offsets : List Nat) : Prop where
  length : offsets.length = rest.length
  head : offsets.head? = some 0
  /-- Each is the byte at which its unit begins, counted from where the table starts. -/
  relative : ∀ i, offsets[i]?.map (front.length + ·) =
    if i < rest.length then some (t.toByte (front.length + i : Nat)) else none
  sorted : offsets.Pairwise (· ≤ ·)
  count_le : ∀ v, offsets.count v ≤ 2
  repeats_iff : ∀ i j, i < j → j < offsets.length →
    (offsets[i]? = offsets[j]? ↔ j = i + 1 ∧ t.IsLowHalf (front.length + j))
  le : ∀ v ∈ offsets, v ≤ 3 * offsets.length ∧ v < 2 ^ 32

section

variable (hsize : t.content.size < 2 ^ 32) {front back : List CodeUnit} {first : CodeUnit}
  (hu : t.units.toList = front ++ first :: back) (ha : ∀ u ∈ front, u.isAscii = true)

include hu ha

/-- The table from the first unit on goes on, behind the ASCII start, as the table of the rest. -/
theorem beginnings_characters : beginnings 0 t.characters = beginnings 0 (asciiPieces front) ++
    (beginnings 0 (pieces (first :: back))).map (front.length + ·) := by
  rw [characters, hu, pieces_ascii_append ha, beginnings_append, byteCount_asciiPieces ha,
    Nat.zero_add, ← beginnings_add, Nat.add_zero]

include hsize

theorem getElem?_beginnings_rest (i : Nat) :
    (beginnings 0 (pieces (first :: back)))[i]?.map (front.length + ·) =
      if i < (first :: back).length then some (t.toByte (front.length + i : Nat)) else none := by
  have hfront : (beginnings 0 (asciiPieces front)).length = front.length := by
    rw [length_beginnings, unitCount_asciiPieces]
  split
  · rename_i hi
    have hin : front.length + i < t.size := by
      rw [size, ← Array.length_toList, hu, List.length_append]
      omega
    rw [← getElem?_beginnings hsize hin, beginnings_characters hu ha,
      List.getElem?_append_right (by omega), hfront, Nat.add_sub_cancel_left, List.getElem?_map]
  · rename_i hi
    rw [List.getElem?_eq_none, Option.map_none]
    rw [length_beginnings, unitCount_pieces]
    omega

theorem tabulates_beginnings :
    t.Tabulates front (first :: back) (beginnings 0 (pieces (first :: back))) where
  length := by rw [length_beginnings, unitCount_pieces]
  head := head?_beginnings first back 0
  relative := getElem?_beginnings_rest hsize hu ha
  sorted := pairwise_beginnings 0 _
  count_le := count_beginnings_le (fun _ => fits_of_mem_pieces) 0
  repeats_iff i j hij hj := by
    rw [length_beginnings, unitCount_pieces] at hj
    have hin : front.length + j < t.size := by
      rw [size, ← Array.length_toList, hu, List.length_append]
      omega
    have hinj : Function.Injective (Option.map (front.length + ·)) :=
      Option.map_injective fun _ _ => Nat.add_left_cancel
    rw [← hinj.eq_iff, getElem?_beginnings_rest hsize hu ha, getElem?_beginnings_rest hsize hu ha,
      if_pos (by omega), if_pos hj, Option.some.injEq, toByte_eq_iff hsize (by omega) hin]
    constructor
    · rintro ⟨he, hlow⟩
      exact ⟨by omega, hlow⟩
    · rintro ⟨rfl, hlow⟩
      exact ⟨by omega, hlow⟩
  le v hv := by
    have hlt := (mem_beginnings hv).2
    have hrest : byteCount (pieces (first :: back)) < 2 ^ 32 :=
      byteCount_rest_lt hsize (by rw [characters, hu, pieces_ascii_append ha])
    refine ⟨?_, by omega⟩
    rw [length_beginnings, unitCount_pieces]
    exact le_of_mem_beginnings hv

end

theorem exists_tabulates (hsize : t.content.size < 2 ^ 32) (h : ∃ u ∈ t.units, 0x80 ≤ u.toNat) :
    ∃ front first back, t.units.toList = front ++ first :: back ∧
      (∀ u ∈ front, u.toNat < 0x80) ∧ 0x80 ≤ first.toNat ∧
      t.encoding.map? = some ⟨front.length, .ofList (beginnings 0 (pieces (first :: back)))⟩ ∧
      t.Tabulates front (first :: back) (beginnings 0 (pieces (first :: back))) := by
  have hbeyond : ∃ u ∈ t.units.toList, 0x80 ≤ u.toNat := by simpa using h
  obtain ⟨front, first, back, hu, ha, hfirst, hm⟩ := exists_split_beyond_ascii hbeyond
  refine ⟨front, first, back, hu, ?_, hfirst, ?_, tabulates_beginnings hsize hu ha⟩
  · intro u hu
    by_contra hge
    have hbeyond := (isAscii_eq_false_iff u).mpr (Nat.not_lt.mp hge)
    simp [ha u hu] at hbeyond
  · rw [t.map?_eq, hm]

/-- Narrow tables lose nothing. The table of a text shorter than 4 GiB with a unit beyond ASCII
begins at the first such unit. The offsets that are packed into it are one for each unit from there
on, the bytes at which these units begin: the first is 0, none is below the one before it, no value
stands more than twice, and twice just for the two halves of a pair; and none exceeds three times
their number. Any offsets within that bound, packed at whichever width is chosen for them, are read
at each place as they were, with nothing behind the end, and searched as the offsets themselves are.
-/
theorem packed_offsets_lose_nothing :
    (∀ t : IndexedText, t.content.size < 2 ^ 32 → (∃ u ∈ t.units, 0x80 ≤ u.toNat) →
      ∃ front first back, t.units.toList = front ++ first :: back ∧
        (∀ u ∈ front, u.toNat < 0x80) ∧ 0x80 ≤ first.toNat ∧
        t.encoding.map? = some ⟨front.length, .ofList (beginnings 0 (pieces (first :: back)))⟩ ∧
        t.Tabulates front (first :: back) (beginnings 0 (pieces (first :: back)))) ∧
    ∀ offsets : List UInt32, (∀ v ∈ offsets, v.toNat ≤ 3 * offsets.length) →
      let packed := PackedOffsets.ofList (offsets.map UInt32.toNat)
      (∀ index, packed.get? index = offsets[index]?.map UInt32.toNat) ∧
      ∀ byte, packed.indexOf byte = SortedTable.locate UInt32.toNat offsets.toArray byte :=
  ⟨fun _ => exists_tabulates, fun _ h =>
    ⟨PackedOffsets.get?_ofList_map_toNat h, PackedOffsets.indexOf_ofList_map_toNat h⟩⟩

example : (PackedOffsets.ofList ((List.range 85).map (3 * ·))).get? 84 = some 252 ∧
    (PackedOffsets.ofList ((List.range 86).map (3 * ·))).get? 85 = some 255 := by decide

example : (ofUnits #[0x61, 0xE9, 0xD83D, 0xDE00]).encoding.map? = some ⟨1, .narrow #[0, 2, 2]⟩ := by
  decide

end IndexedText
end PatternScan
