import PatternScan.Proofs.Text.OnePass

namespace PatternScan

open Text

namespace IndexedText

variable (t : IndexedText)

/-- The characters that the units spell. -/
def characters : List Piece := pieces t.units.toList

theorem size_content : t.content.size = byteCount t.characters := by
  rw [content_eq, List.size_toArray, length_utf8Bytes, characters]

theorem size_eq : t.size = unitCount t.characters := by
  rw [characters, unitCount_pieces, size, Array.length_toList]

theorem fits_characters : ∀ p ∈ t.characters, p.Fits := fun _ => fits_of_mem_pieces

/-- The characters of the ASCII start and those that the table is about. -/
theorem exists_front : ∃ front rest, t.characters = asciiPieces front ++ pieces rest ∧
    (∀ u ∈ front, u.isAscii = true) ∧
    t.encoding.map? = if rest = [] then none
      else some ⟨front.length, PackedOffsets.ofList (beginnings 0 (pieces rest))⟩ := by
  obtain ⟨front, rest, hu, ha, hm⟩ := exists_ascii_front t.units.toList
  refine ⟨front, rest, ?_, ha, ?_⟩
  · rw [characters, hu, pieces_ascii_append ha]
  · rw [t.map?_eq, hm]

variable {t}

theorem toByte_of_neg {unit : Int} (h : unit < 0) : t.toByte unit = 0 := if_pos h

theorem toUnit_of_neg {byte : Int} (h : byte < 0) : t.toUnit byte = 0 := if_pos h

theorem toByte_of_size_le {unit : Int} (h : t.size ≤ unit) : t.toByte unit = t.content.size := by
  unfold toByte
  rw [if_neg (by omega)]
  exact if_neg (by omega)

theorem toUnit_of_size_le {byte : Int} (h : t.content.size ≤ byte) : t.toUnit byte = t.size := by
  unfold toUnit
  rw [if_neg (by omega)]
  exact if_neg (by omega)

theorem byteCount_rest_lt {front rest : List CodeUnit} (hsize : t.content.size < 2 ^ 32)
    (hc : t.characters = asciiPieces front ++ pieces rest) : byteCount (pieces rest) < 2 ^ 32 := by
  rw [size_content, hc, byteCount_append] at hsize
  omega

/-- A byte goes to the first unit of the character that covers it. -/
theorem toUnit_eq (hsize : t.content.size < 2 ^ 32) (byte : Nat) :
    t.toUnit byte = unitsBefore t.characters byte := by
  obtain ⟨front, rest, hc, ha, hm⟩ := t.exists_front
  have hfront := byteCount_asciiPieces ha
  have hcontent := t.size_content
  unfold toUnit
  rw [if_neg (by omega), Int.toNat_natCast]
  dsimp only
  by_cases hlt : byte < t.content.size
  · rw [if_pos hlt, hm, hc]
    rw [hc, byteCount_append, hfront] at hcontent
    by_cases hbyte : byte < front.length
    · rw [unitsBefore_asciiPieces ha _ hbyte]
      split
      · rename_i map hmap
        split at hmap
        · cases hmap
        · cases hmap
          exact if_neg (Nat.not_le.mpr hbyte)
      · rfl
    · have hle : front.length ≤ byte := Nat.le_of_not_lt hbyte
      have hne : rest ≠ [] := by
        rintro rfl
        rw [pieces_nil, byteCount] at hcontent
        omega
      have hin : byte - front.length < byteCount (pieces rest) := by omega
      rw [if_neg hne, unitsBefore_append _ _ (hfront ▸ hle), unitCount_asciiPieces, hfront,
        ← indexOf_beginnings (fun _ => fits_of_mem_pieces) (byteCount_rest_lt hsize hc) hin]
      dsimp only
      rw [if_pos hle, Nat.add_comm]
  · rw [if_neg hlt, unitsBefore_eq_unitCount (hcontent ▸ Nat.le_of_not_lt hlt), size_eq]

theorem toByte_of_front {front rest : List CodeUnit}
    (hc : t.characters = asciiPieces front ++ pieces rest)
    (hm : t.encoding.map? = if rest = [] then none
      else some ⟨front.length, PackedOffsets.ofList (beginnings 0 (pieces rest))⟩)
    {index : Nat} (hi : index < front.length) : t.toByte index = index := by
  have hsize := t.size_eq
  rw [hc, unitCount_append, unitCount_asciiPieces] at hsize
  unfold toByte
  rw [if_neg (by omega), Int.toNat_natCast, hm]
  dsimp only
  rw [if_pos (by omega)]
  split
  · rename_i map hmap
    split at hmap
    · cases hmap
    · cases hmap
      exact if_neg (Nat.not_le.mpr hi)
  · rfl

theorem toByte_of_rest (hsize : t.content.size < 2 ^ 32) {front rest : List CodeUnit}
    (hc : t.characters = asciiPieces front ++ pieces rest)
    (hm : t.encoding.map? = if rest = [] then none
      else some ⟨front.length, PackedOffsets.ofList (beginnings 0 (pieces rest))⟩)
    {before after : List Piece} {p : Piece} (hr : pieces rest = before ++ p :: after) {offset : Nat}
    (ho : offset < p.width) {index : Nat}
    (hi : index = front.length + (unitCount before + offset)) :
    t.toByte index = front.length + byteCount before := by
  have hunits := t.size_eq
  rw [hc, unitCount_append, unitCount_asciiPieces, hr, unitCount_append, unitCount] at hunits
  have hne : rest ≠ [] := by
    rintro rfl
    simp at hr
  have hget := get?_beginnings (fun _ => fits_of_mem_pieces) (byteCount_rest_lt hsize hc) hr ho
  have hrelative : index - front.length = unitCount before + offset := by omega
  unfold toByte
  rw [if_neg (by omega), Int.toNat_natCast, hm, if_neg hne]
  dsimp only
  rw [if_pos (by omega), if_pos (by omega), hrelative, hget]
  exact Nat.add_comm _ _

theorem toByte_eq_of_split (hsize : t.content.size < 2 ^ 32) {before after : List Piece} {p : Piece}
    (hs : t.characters = before ++ p :: after) {offset : Nat} (ho : offset < p.width) :
    t.toByte ((unitCount before + offset : Nat) : Int) = byteCount before := by
  obtain ⟨front, rest, hc, ha, hm⟩ := t.exists_front
  rcases List.append_eq_append_iff.mp (hc.symm.trans hs) with ⟨as, rfl, hr⟩ | ⟨bs, hb, hr⟩
  · rw [byteCount_append, byteCount_asciiPieces ha]
    apply toByte_of_rest hsize hc hm hr ho
    rw [unitCount_append, unitCount_asciiPieces, Nat.add_assoc]
  · cases bs with
    | nil =>
      rw [List.append_nil] at hb
      rw [List.nil_append] at hr
      have hrest : pieces rest = [] ++ p :: after := hr.symm
      rw [← hb, byteCount_asciiPieces ha]
      apply toByte_of_rest hsize hc hm hrest ho
      rw [unitCount_asciiPieces, unitCount, Nat.zero_add]
    | cons q bs =>
      -- the character is in the ASCII start, where both indexings agree
      obtain ⟨rfl, -⟩ := List.cons.inj hr
      obtain ⟨left, right, rfl, rfl, hright⟩ := List.map_eq_append_iff.mp hb
      obtain ⟨u, right, rfl, rfl, -⟩ := List.map_eq_cons_iff.mp hright
      have hzero : offset = 0 := Nat.lt_one_iff.mp ho
      have hleft : ∀ v ∈ left, v.isAscii = true := fun v hv => ha v (List.mem_append_left _ hv)
      have hcount : unitCount (left.map fun u => (⟨u.alone, 1⟩ : Piece)) = left.length :=
        unitCount_asciiPieces left
      have hbytes : byteCount (left.map fun u => (⟨u.alone, 1⟩ : Piece)) = left.length :=
        byteCount_asciiPieces hleft
      rw [hzero, Nat.add_zero, hcount, hbytes]
      apply toByte_of_front hc hm
      rw [List.length_append, List.length_cons]
      omega

theorem toByte_size : t.toByte (t.size : Int) = t.content.size := toByte_of_size_le (Int.le_refl _)

/-- The bytes between characters. -/
def IsBoundary (t : IndexedText) (byte : Nat) : Prop :=
  ∃ before after, t.characters = before ++ after ∧ byteCount before = byte

/-- Between characters nothing is lost on the way to units and back. -/
theorem toByte_toUnit (hsize : t.content.size < 2 ^ 32) {byte : Nat} (hb : t.IsBoundary byte) :
    t.toByte (t.toUnit byte) = byte := by
  obtain ⟨before, after, hs, rfl⟩ := hb
  rw [toUnit_eq hsize, hs, unitsBefore_byteCount]
  cases after with
  | nil =>
    rw [List.append_nil] at hs
    rw [← hs, ← size_eq, toByte_size, size_content]
  | cons p after =>
    have hp : p ∈ t.characters := by simp [hs]
    have hpos : 0 < p.width := by
      have hwidth := (t.fits_characters p hp).width
      omega
    exact toByte_eq_of_split hsize hs hpos

end IndexedText
end PatternScan
