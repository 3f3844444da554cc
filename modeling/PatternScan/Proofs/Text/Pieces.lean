import PatternScan.Text.Indexed

namespace PatternScan.Text

def utf8Bytes (units : List CodeUnit) : List UInt8 :=
  (pieces units).flatMap fun p => String.utf8EncodeChar p.char

/-- For each code unit, the byte at which its character begins; the first one begins at `origin`. -/
def beginnings (origin : Nat) : List Piece → List Nat
  | [] => []
  | p :: rest => List.replicate p.width origin ++ beginnings (origin + p.char.utf8Size) rest

theorem pieces_alone {u : CodeUnit} (rest : List CodeUnit) (hu : u.isHigh = false) :
    pieces (u :: rest) = ⟨u.alone, 1⟩ :: pieces rest := by
  cases rest with
  | nil => rfl
  | cons v rest => simp only [pieces, hu, Bool.false_and, Bool.false_eq_true, if_false]

theorem pieces_pair {u v : CodeUnit} (rest : List CodeUnit) (hu : u.isHigh = true)
    (hv : v.isLow = true) : pieces (u :: v :: rest) = ⟨CodeUnit.pair u v, 2⟩ :: pieces rest := by
  simp only [pieces, hu, hv, Bool.and_self, if_true]

theorem isHigh_iff (u : CodeUnit) : u.isHigh = true ↔ 0xD800 ≤ u.toNat ∧ u.toNat ≤ 0xDBFF := by
  simp only [CodeUnit.isHigh, Bool.and_eq_true, decide_eq_true_eq, UInt16.le_iff_toNat_le]
  rfl

theorem isLow_iff (u : CodeUnit) : u.isLow = true ↔ 0xDC00 ≤ u.toNat ∧ u.toNat ≤ 0xDFFF := by
  simp only [CodeUnit.isLow, Bool.and_eq_true, decide_eq_true_eq, UInt16.le_iff_toNat_le]
  rfl

theorem pieces_unitsOfChar (c : Char) (rest : List CodeUnit) :
    pieces (unitsOfChar c ++ rest) = ⟨c, (unitsOfChar c).length⟩ :: pieces rest := by
  have hvalid : c.toNat < 0xD800 ∨ 0xDFFF < c.toNat ∧ c.toNat < 0x110000 := c.valid
  by_cases h : c.toNat < 0x10000
  · have hn : (UInt16.ofNat c.toNat).toNat = c.toNat := by
      rw [UInt16.toNat_ofNat']
      omega
    have hhigh : CodeUnit.isHigh (UInt16.ofNat c.toNat) = false := by
      rw [Bool.eq_false_iff, ne_eq, isHigh_iff, hn]
      omega
    have hlow : CodeUnit.isLow (UInt16.ofNat c.toNat) = false := by
      rw [Bool.eq_false_iff, ne_eq, isLow_iff, hn]
      omega
    simp only [unitsOfChar, h, if_true, List.singleton_append, List.length_singleton]
    rw [pieces_alone rest hhigh]
    simp only [CodeUnit.alone, hhigh, hlow, Bool.or_self, Bool.false_eq_true, if_false, hn,
      Char.ofNat_toNat]
  · have hu : (UInt16.ofNat (0xD800 + (c.toNat - 0x10000) / 0x400)).toNat =
        0xD800 + (c.toNat - 0x10000) / 0x400 := by
      rw [UInt16.toNat_ofNat']
      omega
    have hv : (UInt16.ofNat (0xDC00 + (c.toNat - 0x10000) % 0x400)).toNat =
        0xDC00 + (c.toNat - 0x10000) % 0x400 := by
      rw [UInt16.toNat_ofNat']
      omega
    simp only [unitsOfChar, h, if_false, List.cons_append, List.nil_append, List.length_cons,
      List.length_nil]
    rw [pieces_pair rest ((isHigh_iff _).mpr (by rw [hu]; omega))
      ((isLow_iff _).mpr (by rw [hv]; omega)), CodeUnit.pair, hu, hv]
    have hback : 0x10000 + (0xD800 + (c.toNat - 0x10000) / 0x400 - 0xD800) * 0x400 +
        (0xDC00 + (c.toNat - 0x10000) % 0x400 - 0xDC00) = c.toNat := by omega
    rw [hback, Char.ofNat_toNat]

theorem map_char_pieces_units (chars : List Char) :
    (pieces (chars.flatMap unitsOfChar)).map Piece.char = chars := by
  induction chars with
  | nil => rfl
  | cons c rest ih => rw [List.flatMap_cons, pieces_unitsOfChar, List.map_cons, ih]

theorem utf8Bytes_unitsOfString (s : String) :
    utf8Bytes (unitsOfString s) = s.toList.flatMap String.utf8EncodeChar := by
  have h : utf8Bytes (unitsOfString s) =
      ((pieces (unitsOfString s)).map Piece.char).flatMap String.utf8EncodeChar := by
    rw [utf8Bytes, List.flatMap_map]
  rw [h, unitsOfString, map_char_pieces_units]

end PatternScan.Text
