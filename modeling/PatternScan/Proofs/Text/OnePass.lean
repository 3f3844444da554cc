import PatternScan.Proofs.Text.Offsets

namespace PatternScan

namespace Text

/-- Cutting an offset to 32 bits first changes nothing, since the table cuts it to no more. -/
theorem PackedOffsets.ofList_cut (offsets : List Nat) :
    ofList (offsets.map (UInt32.toNat ∘ UInt32.ofNat)) = ofList offsets := by
  have hcut : ∀ n : Nat, (UInt32.ofNat n).toNat = n % 2 ^ 32 := fun n => UInt32.toNat_ofNat' ..
  have hnarrow : ∀ n : Nat, UInt8.ofNat (UInt32.ofNat n).toNat = UInt8.ofNat n := by
    intro n
    apply UInt8.toNat_inj.mp
    rw [UInt8.toNat_ofNat', UInt8.toNat_ofNat', hcut]
    omega
  have hmedium : ∀ n : Nat, UInt16.ofNat (UInt32.ofNat n).toNat = UInt16.ofNat n := by
    intro n
    apply UInt16.toNat_inj.mp
    rw [UInt16.toNat_ofNat', UInt16.toNat_ofNat', hcut]
    omega
  unfold ofList
  simp only [List.length_map, List.map_map, Function.comp_def, hnarrow, hmedium,
    UInt32.ofNat_toNat]

namespace Encoder

variable {e : Encoder}

/-- Once the table is open, a character adds its place to it once for each of its units. -/
theorem foldl_push_of_open {start : Nat} {offsets : Array UInt32} (ps : List Piece)
    (htable : e.table? = some (start, offsets)) (hstart : start ≤ e.bytes.size) :
    ps.foldl push e =
      { bytes := e.bytes ++ (ps.flatMap fun p => String.utf8EncodeChar p.char).toArray
        unitIndex := e.unitIndex + unitCount ps
        table? := some (start,
          offsets ++ ((beginnings (e.bytes.size - start) ps).map UInt32.ofNat).toArray) } := by
  induction ps generalizing e offsets with
  | nil =>
    obtain ⟨bytes, unitIndex, table?⟩ := e
    obtain rfl : table? = some (start, offsets) := htable
    simp [unitCount, beginnings]
  | cons p rest ih =>
    have hpush : (e.push p).table? = some (start, offsets ++
        Array.replicate p.width (UInt32.ofNat (e.bytes.size - start))) := by
      simp [push, htable]
    have hbytes : (e.push p).bytes = e.bytes ++ (String.utf8EncodeChar p.char).toArray := rfl
    have hsize : (e.push p).bytes.size = e.bytes.size + p.char.utf8Size := by
      simp [hbytes]
    have hnext : e.bytes.size + p.char.utf8Size - start =
        e.bytes.size - start + p.char.utf8Size := by omega
    rw [List.foldl_cons, ih hpush (by omega), hsize, hnext, hbytes]
    simp [push, unitCount, beginnings, Nat.add_assoc, ← List.append_toArray, ← Array.append_assoc]

/-- While all is ASCII no table is opened, and bytes and units keep step. -/
theorem foldl_push_of_ascii {front : List CodeUnit} (ha : ∀ u ∈ front, u.isAscii = true)
    (htable : e.table? = none) :
    (asciiPieces front).foldl push e =
      { bytes := e.bytes ++
          ((asciiPieces front).flatMap fun p => String.utf8EncodeChar p.char).toArray
        unitIndex := e.unitIndex + front.length
        table? := none } := by
  induction front generalizing e with
  | nil =>
    obtain ⟨bytes, unitIndex, table?⟩ := e
    obtain rfl : table? = none := htable
    simp [asciiPieces]
  | cons u front ih =>
    obtain ⟨hu, hfront⟩ := List.forall_mem_cons.mp ha
    have hpush : (e.push ⟨u.alone, 1⟩).table? = none := by
      simp [push, htable, utf8Size_alone_ascii hu]
    change (asciiPieces front).foldl push (e.push ⟨u.alone, 1⟩) = _
    rw [ih hfront hpush]
    simp [push, asciiPieces, Nat.add_assoc, Nat.add_comm 1, ← List.append_toArray]

end Encoder

theorem toNat_ofNat_of_valid {n : Nat} (h : n.isValidChar) : (Char.ofNat n).toNat = n := by
  unfold Char.ofNat
  rw [dif_pos h]
  rfl

theorem isAscii_eq_false_iff (u : CodeUnit) : u.isAscii = false ↔ 0x80 ≤ u.toNat := by
  rw [CodeUnit.isAscii, decide_eq_false_iff_not, UInt16.lt_iff_toNat_lt, Nat.not_lt]
  rfl

theorem one_lt_utf8Size_alone {u : CodeUnit} (h : u.isAscii = false) : 1 < u.alone.utf8Size := by
  have hu := (isAscii_eq_false_iff u).mp h
  have hpos := u.alone.utf8Size_pos
  have hne : u.alone.utf8Size ≠ 1 := by
    rw [CodeUnit.alone]
    split
    · decide
    · rename_i hnot
      rw [Bool.or_eq_true, not_or, isHigh_iff, isLow_iff] at hnot
      have hlt := u.toNat_lt
      have hvalid : u.toNat.isValidChar := by
        simp only [Nat.isValidChar]
        omega
      intro hone
      have hle : (Char.ofNat u.toNat).toNat ≤ 127 :=
        UInt32.le_iff_toNat_le.mp (Char.utf8Size_eq_one_iff.mp hone)
      rw [toNat_ofNat_of_valid hvalid] at hle
      omega
  omega

theorem exists_pieces_of_not_ascii {first : CodeUnit} (back : List CodeUnit)
    (h : first.isAscii = false) : ∃ p ps, pieces (first :: back) = p :: ps ∧
      (1 < p.char.utf8Size ∨ 1 < p.width) := by
  have halone : 1 < first.alone.utf8Size := one_lt_utf8Size_alone h
  cases back with
  | nil => exact ⟨_, _, rfl, Or.inl halone⟩
  | cons v rest =>
    rw [pieces]
    split
    · exact ⟨_, _, rfl, Or.inr Nat.one_lt_two⟩
    · exact ⟨_, _, rfl, Or.inl halone⟩

theorem Encoder.push_opening {e : Encoder} {p : Piece} (htable : e.table? = none)
    (hp : 1 < p.char.utf8Size ∨ 1 < p.width) :
    e.push p = { e with table? := some (e.unitIndex, #[]) }.push p := by
  simp [push, htable, hp]

/-- The loop writes the UTF-8 form of the characters, and its table gives the offsets of all units
from the first one on that is not ASCII. -/
theorem Encoding.ofUnits_eq (units : List CodeUnit) :
    ofUnits units = ⟨(utf8Bytes units).toArray, OffsetMap.ofUnits? units⟩ := by
  let front := units.takeWhile CodeUnit.isAscii
  have ha : ∀ u ∈ front, u.isAscii = true := List.all_eq_true.mp List.all_takeWhile
  have hunits : units = front ++ units.dropWhile CodeUnit.isAscii :=
    List.takeWhile_append_dropWhile.symm
  have hpieces := pieces_ascii_append ha (units.dropWhile CodeUnit.isAscii)
  rw [← hunits] at hpieces
  have hfront := Encoder.foldl_push_of_ascii (e := {}) ha rfl
  unfold ofUnits OffsetMap.ofUnits? utf8Bytes
  rw [hpieces, List.foldl_append, hfront]
  cases hrest : units.dropWhile CodeUnit.isAscii with
  | nil => simp
  | cons first back =>
    have hfirst : first.isAscii = false := by
      have hhead := List.head?_dropWhile_not CodeUnit.isAscii units
      simpa [hrest] using hhead
    obtain ⟨p, ps, hp, hopens⟩ := exists_pieces_of_not_ascii back hfirst
    have hsize : ((asciiPieces front).flatMap fun p => String.utf8EncodeChar p.char).length =
        front.length := by
      have hbytes := length_utf8Bytes front
      have hpieces := pieces_ascii_append ha []
      rw [List.append_nil, pieces_nil, List.append_nil] at hpieces
      rw [utf8Bytes, hpieces] at hbytes
      rw [hbytes, byteCount_asciiPieces ha]
    rw [hp, List.foldl_cons, Encoder.push_opening rfl hopens, ← List.foldl_cons,
      Encoder.foldl_push_of_open _ rfl (by simp [hsize])]
    simp [hsize, PackedOffsets.ofList_cut, front, hp]

end Text

namespace IndexedText

open Text

variable (t : IndexedText)

theorem content_eq : t.content = (utf8Bytes t.units.toList).toArray := by
  rw [content, t.encoding_eq, Encoding.ofUnits_eq]

theorem map?_eq : t.encoding.map? = OffsetMap.ofUnits? t.units.toList := by
  rw [t.encoding_eq, Encoding.ofUnits_eq]

end IndexedText

end PatternScan
