import PatternScan.Proofs.Text.Encoding
import PatternScan.Proofs.Text.RoundTrip

namespace PatternScan

open Text

namespace Text

theorem SortedTable.locate_zero {α : Type} (value : α → Nat) (table : Array α) :
    locate value table 0 = 0 :=
  locate_of_forall_le fun v _ => Nat.zero_le v

theorem PackedOffsets.indexOf_zero (t : PackedOffsets) : t.indexOf 0 = 0 := by
  cases t with
  | narrow entries => exact SortedTable.locate_zero _ entries
  | medium entries => exact SortedTable.locate_zero _ entries
  | wide entries => exact SortedTable.locate_zero _ entries

theorem PackedOffsets.get?_ofList_wide {offsets : List Nat} (h : 0xFFFF < 3 * offsets.length)
    (index : Nat) :
    (PackedOffsets.ofList offsets).get? index = offsets[index]?.map (· % 2 ^ 32) := by
  unfold ofList
  dsimp only
  rw [if_neg (by omega), if_neg (by omega)]
  simp only [get?, List.getElem?_toArray, List.getElem?_map, Option.map_map]
  congr 1

theorem pieces_replicate {u : CodeUnit} (hu : u.isHigh = false) (n : Nat) :
    pieces (List.replicate n u) = List.replicate n ⟨u.alone, 1⟩ := by
  induction n with
  | zero => rfl
  | succ n ih => rw [List.replicate_succ, pieces_alone _ hu, ih, List.replicate_succ]

theorem getElem?_beginnings_replicate {c : Char} {n i : Nat} (origin : Nat) (h : i < n) :
    (beginnings origin (List.replicate n ⟨c, 1⟩))[i]? = some (origin + i * c.utf8Size) := by
  induction n generalizing origin i with
  | zero => omega
  | succ n ih =>
    rw [List.replicate_succ, beginnings]
    cases i with
    | zero => simp
    | succ i =>
      have hrest := ih (origin + c.utf8Size) (Nat.lt_of_succ_lt_succ h)
      rw [List.getElem?_append_right (by simp)]
      simp only [List.length_replicate, Nat.add_sub_cancel, hrest, Option.some.injEq, Nat.succ_mul]
      omega

end Text

namespace IndexedText

theorem toUnit_zero (t : IndexedText) : t.toUnit ((0 : Nat) : Int) = 0 := by
  have hle := t.size_content_bounds.1
  unfold toUnit
  rw [if_neg (by omega), Int.toNat_natCast]
  dsimp only
  split
  · split
    · split
      · rename_i map hmap hstart
        rw [Nat.zero_sub, PackedOffsets.indexOf_zero]
        omega
      · rfl
    · rfl
  · omega

/-- In a long row of accents the byte of a unit starts anew after four gigabytes. -/
theorem toByte_replicate {n i : Nat} (h : i < n) (hn : 0xFFFF < 3 * n) :
    (ofUnits (Array.replicate n 0xE9)).toByte i = i * 2 % 2 ^ 32 := by
  have hascii : CodeUnit.isAscii 0xE9 = false := by decide
  have hchar : (CodeUnit.alone 0xE9).utf8Size = 2 := by decide
  have hpieces : pieces (List.replicate n 0xE9) = List.replicate n ⟨CodeUnit.alone 0xE9, 1⟩ :=
    pieces_replicate (by decide) n
  obtain ⟨m, rfl⟩ : ∃ m, n = m + 1 := ⟨n - 1, by omega⟩
  have hmap : (ofUnits (Array.replicate (m + 1) 0xE9)).encoding.map? =
      some ⟨0, PackedOffsets.ofList (beginnings 0 (pieces (List.replicate (m + 1) 0xE9)))⟩ := by
    rw [map?_eq, ofUnits, Array.toList_replicate, OffsetMap.ofUnits?]
    simp [List.replicate_succ, hascii]
  have hlength : (beginnings 0 (pieces (List.replicate (m + 1) (0xE9 : CodeUnit)))).length =
      m + 1 := by
    rw [length_beginnings, unitCount_pieces, List.length_replicate]
  have hget := getElem?_beginnings_replicate (c := CodeUnit.alone 0xE9) 0 h
  rw [← hpieces, hchar, Nat.zero_add] at hget
  have hin : i < (ofUnits (Array.replicate (m + 1) 0xE9)).size := by
    simpa [size, ofUnits] using h
  unfold toByte
  rw [if_neg (by omega), Int.toNat_natCast, hmap]
  dsimp only
  rw [if_pos hin, if_pos (Nat.zero_le i), Nat.sub_zero,
    PackedOffsets.get?_ofList_wide (hlength.symm ▸ hn), hget]
  rfl

end IndexedText

end PatternScan
