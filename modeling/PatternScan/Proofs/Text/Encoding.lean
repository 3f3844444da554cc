import Mathlib.Data.List.TakeWhile
import PatternScan.Proofs.Text.Characters

namespace PatternScan

namespace Text

/-- Units and the characters that they spell, read from the front: a high surrogate directly before
a low one is a character beyond the 16-bit ones, every other surrogate stands for U+FFFD. -/
inductive Spells : List CodeUnit → List Char → Prop where
  | nil : Spells [] []
  | unit {u : CodeUnit} {c : Char} {rest : List CodeUnit} {chars : List Char}
    (hc : c.toNat = u.toNat) (h : Spells rest chars) : Spells (u :: rest) (c :: chars)
  | pair {high low : CodeUnit} {c : Char} {rest : List CodeUnit} {chars : List Char}
    (hh : high.isHigh = true) (hl : low.isLow = true)
    (hc : c.toNat = 0x10000 + (high.toNat - 0xD800) * 0x400 + (low.toNat - 0xDC00))
    (h : Spells rest chars) : Spells (high :: low :: rest) (c :: chars)
  | loneHigh {high : CodeUnit} {rest : List CodeUnit} {chars : List Char}
    (hh : high.isHigh = true) (hb : ∀ v ∈ rest.head?, v.isLow = false) (h : Spells rest chars) :
    Spells (high :: rest) (replacement :: chars)
  | loneLow {low : CodeUnit} {rest : List CodeUnit} {chars : List Char}
    (hl : low.isLow = true) (h : Spells rest chars) : Spells (low :: rest) (replacement :: chars)

theorem toNat_pair {high low : CodeUnit} (hh : high.isHigh = true) (hl : low.isLow = true) :
    (CodeUnit.pair high low).toNat =
      0x10000 + (high.toNat - 0xD800) * 0x400 + (low.toNat - 0xDC00) := by
  have hhigh := (isHigh_iff high).mp hh
  have hlow := (isLow_iff low).mp hl
  apply toNat_ofNat_of_valid
  right
  omega

theorem utf8Size_pair {high low : CodeUnit} (hh : high.isHigh = true) (hl : low.isLow = true) :
    (CodeUnit.pair high low).utf8Size = 4 := by
  apply Char.utf8Size_eq_four_iff.mpr
  apply UInt32.lt_iff_toNat_lt.mpr
  have hv := toNat_pair hh hl
  change 0xFFFF < (CodeUnit.pair high low).toNat
  omega

theorem not_surrogate_of_toNat_eq {u : CodeUnit} {c : Char} (h : c.toNat = u.toNat) :
    u.isHigh = false ∧ u.isLow = false := by
  have hvalid : c.toNat < 0xD800 ∨ 0xDFFF < c.toNat ∧ c.toNat < 0x110000 := c.valid
  constructor
  · rw [Bool.eq_false_iff, ne_eq, isHigh_iff]
    omega
  · rw [Bool.eq_false_iff, ne_eq, isLow_iff]
    omega

theorem Spells.alone {u : CodeUnit} {rest : List CodeUnit} {chars : List Char}
    (hb : u.isHigh = true → ∀ v ∈ rest.head?, v.isLow = false) (h : Spells rest chars) :
    Spells (u :: rest) (u.alone :: chars) := by
  unfold CodeUnit.alone
  cases hh : u.isHigh with
  | true => exact .loneHigh hh (hb hh) h
  | false =>
    cases hl : u.isLow with
    | true => exact .loneLow hl h
    | false =>
      refine .unit (toNat_ofNat_of_valid ?_) h
      have hlt := u.toNat_lt
      rw [Bool.eq_false_iff, ne_eq, isHigh_iff] at hh
      rw [Bool.eq_false_iff, ne_eq, isLow_iff] at hl
      unfold Nat.isValidChar
      omega

theorem spells_pieces (units : List CodeUnit) : Spells units ((pieces units).map Piece.char) := by
  fun_induction pieces units with
  | case1 => exact .nil
  | case2 u => exact .alone (by simp) .nil
  | case3 u v rest hp ih =>
    have hpair : u.isHigh = true ∧ v.isLow = true := by simpa using hp
    have hvalue := toNat_pair hpair.1 hpair.2
    simp only [List.map_cons]
    exact .pair hpair.1 hpair.2 hvalue ih
  | case4 u v rest hp ih =>
    refine .alone ?_ ih
    intro hu w hw
    obtain rfl : v = w := by simpa using hw
    simpa [hu] using hp

/-- No text spells two sequences of characters. -/
theorem Spells.eq_pieces {units : List CodeUnit} {chars : List Char} (h : Spells units chars) :
    chars = (pieces units).map Piece.char := by
  induction h with
  | nil => rfl
  | @unit u c rest chars hc h ih =>
    obtain ⟨hhigh, hlow⟩ := not_surrogate_of_toNat_eq hc
    have hown : u.alone = c := by
      simp only [CodeUnit.alone, hhigh, hlow, Bool.or_self, Bool.false_eq_true, if_false, ← hc,
        Char.ofNat_toNat]
    rw [pieces_alone rest hhigh, List.map_cons, ← ih, hown]
  | @pair high low c rest chars hh hl hc h ih =>
    have hown : CodeUnit.pair high low = c := by
      rw [CodeUnit.pair, ← hc, Char.ofNat_toNat]
    rw [pieces_pair rest hh hl, List.map_cons, ← ih, hown]
  | @loneHigh high rest chars hh hb h ih =>
    have hs : Stands [] rest [high] replacement := .loneHigh hh hb
    rw [← List.singleton_append (l := rest), hs.pieces_own, List.map_cons, ← ih]
  | @loneLow low rest chars hl h ih =>
    have hs : Stands [] rest [low] replacement := .loneLow hl (by simp)
    rw [← List.singleton_append (l := rest), hs.pieces_own, List.map_cons, ← ih]

theorem utf8Bytes_eq (units : List CodeUnit) :
    utf8Bytes units = ((pieces units).map Piece.char).flatMap String.utf8EncodeChar :=
  (List.flatMap_map ..).symm

theorem width_le_utf8Size {units : List CodeUnit} {p : Piece} (h : p ∈ pieces units) :
    p.width ≤ p.char.utf8Size := by
  fun_induction pieces units with
  | case1 => cases h
  | case2 u =>
    obtain rfl := List.mem_singleton.mp h
    exact u.alone.utf8Size_pos
  | case3 u v rest hp ih =>
    have hpair : u.isHigh = true ∧ v.isLow = true := by simpa using hp
    rcases List.mem_cons.mp h with rfl | h
    · rw [utf8Size_pair hpair.1 hpair.2]
      exact Nat.le_add_right 2 2
    · exact ih h
  | case4 u v rest hp ih =>
    rcases List.mem_cons.mp h with rfl | h
    · exact u.alone.utf8Size_pos
    · exact ih h

theorem unitCount_le_byteCount {ps : List Piece} (h : ∀ p ∈ ps, p.width ≤ p.char.utf8Size) :
    unitCount ps ≤ byteCount ps := by
  induction ps with
  | nil => exact Nat.le_refl 0
  | cons p rest ih =>
    obtain ⟨hp, hrest⟩ := List.forall_mem_cons.mp h
    exact Nat.add_le_add hp (ih hrest)

theorem length_utf8Bytes_bounds (units : List CodeUnit) :
    units.length ≤ (utf8Bytes units).length ∧ (utf8Bytes units).length ≤ 3 * units.length := by
  rw [length_utf8Bytes, ← unitCount_pieces]
  exact ⟨unitCount_le_byteCount fun _ => width_le_utf8Size,
    byteCount_le fun _ => fits_of_mem_pieces⟩

/-- No offset in a table exceeds three bytes for each unit that the table covers. -/
theorem le_of_mem_beginnings {units : List CodeUnit} {v : Nat}
    (h : v ∈ beginnings 0 (pieces units)) : v ≤ 3 * units.length := by
  have hlt := (mem_beginnings h).2
  have hle := (length_utf8Bytes_bounds units).2
  rw [length_utf8Bytes] at hle
  omega

theorem isSome_ofUnits?_iff (units : List CodeUnit) :
    (OffsetMap.ofUnits? units).isSome = true ↔ ∃ u ∈ units, u.isAscii = false := by
  unfold OffsetMap.ofUnits?
  dsimp only
  split
  · rename_i hall
    have hascii := List.dropWhile_eq_nil_iff.mp (List.isEmpty_iff.mp hall)
    simp only [Option.isSome_none, Bool.false_eq_true, false_iff]
    rintro ⟨u, hu, hnot⟩
    simp [hascii u hu] at hnot
  · rename_i hnot
    rw [List.isEmpty_iff, List.dropWhile_eq_nil_iff] at hnot
    simpa using hnot

end Text

namespace IndexedText

open Text

theorem content_eq_toUTF8 {t : IndexedText} {s : String}
    (h : t.content.toList = s.toList.flatMap String.utf8EncodeChar) :
    t.content = s.toUTF8.data := by
  have hs : s.toUTF8 = (s.toList.flatMap String.utf8EncodeChar).toByteArray :=
    String.utf8Encode_toList.symm
  rw [hs, ← h, ← Array.toList_inj, List.toList_data_toByteArray]

theorem toList_content (t : IndexedText) :
    t.content.toList = ((pieces t.units.toList).map Piece.char).flatMap String.utf8EncodeChar := by
  rw [t.content_eq, utf8Bytes_eq]

theorem size_content_bounds (t : IndexedText) :
    t.size ≤ t.content.size ∧ t.content.size ≤ 3 * t.size := by
  rw [t.content_eq, List.size_toArray]
  exact length_utf8Bytes_bounds t.units.toList

/-- The content of a text is the UTF-8 form of the one sequence of characters that its units spell,
and with it that of its lossy string; behind it stands one zero byte. It has at least one byte for
each unit and at most three, so that the width of a table, which allows for three, holds all offsets
from any unit on. A table is needed just when some unit is not ASCII. A text made from a string has
that string's own bytes. -/
theorem content_spells :
    (∀ t : IndexedText,
      t.terminated.toList = t.content.toList ++ [0] ∧
      (∃ chars, Spells t.units.toList chars ∧
        (∀ other, Spells t.units.toList other → other = chars) ∧
        t.content.toList = chars.flatMap String.utf8EncodeChar ∧
        t.toLossyString = String.ofList chars) ∧
      ByteArray.IsValidUTF8 ⟨t.content⟩ ∧ t.content = t.toLossyString.toUTF8.data ∧
      (t.size ≤ t.content.size ∧ t.content.size ≤ 3 * t.size) ∧
      (∀ front rest, t.units.toList = front ++ rest →
        ∀ offset ∈ beginnings 0 (pieces rest), offset ≤ 3 * rest.length) ∧
      (t.hasMultiByte = true ↔ ∃ u ∈ t.units, 0x80 ≤ u.toNat)) ∧
    ∀ s : String, (ofString s).content = s.toUTF8.data := by
  refine ⟨?_, ?_⟩
  · intro t
    have hlossy : t.toLossyString.toList = (pieces t.units.toList).map Piece.char :=
      String.toList_ofList
    have hcontent : t.content = t.toLossyString.toUTF8.data :=
      content_eq_toUTF8 (hlossy ▸ t.toList_content)
    refine ⟨Array.toList_push, ⟨_, spells_pieces _, fun other => Spells.eq_pieces, t.toList_content,
      rfl⟩, ?_, hcontent, t.size_content_bounds, ?_, ?_⟩
    · rw [hcontent]
      exact t.toLossyString.isValidUTF8
    · exact fun _ _ _ _ => le_of_mem_beginnings
    · rw [hasMultiByte, t.map?_eq, isSome_ofUnits?_iff]
      simp only [isAscii_eq_false_iff, Array.mem_toList_iff]
  · intro s
    apply content_eq_toUTF8
    rw [(ofString s).content_eq]
    exact utf8Bytes_unitsOfString s

end IndexedText
end PatternScan
