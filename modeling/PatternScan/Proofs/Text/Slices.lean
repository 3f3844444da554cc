import PatternScan.Proofs.Text.Encoding
import PatternScan.Proofs.Text.RoundTrip

namespace PatternScan

open Text

namespace Text

/-- Whatever units a string was read from, their bytes are those of the string. -/
theorem toUTF8_lossyString (units : List CodeUnit) :
    (lossyString units).toUTF8.data = (utf8Bytes units).toArray := by
  have hcontent := (IndexedText.ofUnits units.toArray).content_eq
  have hchars : (lossyString units).toList = (pieces units).map Piece.char := String.toList_ofList
  rw [IndexedText.ofUnits] at hcontent
  refine Eq.trans (IndexedText.content_eq_toUTF8 ?_).symm hcontent
  rw [hcontent, utf8Bytes_eq, hchars]

theorem utf8Bytes_append {front back : List CodeUnit} (h : Apart front back) :
    utf8Bytes (front ++ back) = utf8Bytes front ++ utf8Bytes back := by
  rw [utf8Bytes, pieces_append h, List.flatMap_append]
  rfl

end Text

namespace IndexedText

/-- A cut of a text between characters. -/
structure Cut (t : IndexedText) (front back : List CodeUnit) : Prop where
  units_eq : t.units.toList = front ++ back
  apart : Apart front back

variable {t : IndexedText} {front mid back : List CodeUnit}

theorem Cut.characters_eq (h : t.Cut front back) : t.characters = pieces front ++ pieces back := by
  rw [characters, h.units_eq, pieces_append h.apart]

theorem Cut.content_eq (h : t.Cut front back) :
    t.content = (utf8Bytes front ++ utf8Bytes back).toArray := by
  rw [IndexedText.content_eq, h.units_eq, utf8Bytes_append h.apart]

theorem exists_cut {byte : Nat} (hb : t.IsBoundary byte) :
    ∃ front back, t.Cut front back ∧ (utf8Bytes front).length = byte := by
  obtain ⟨before, after, hs, rfl⟩ := hb
  cases after with
  | nil =>
    refine ⟨t.units.toList, [], ⟨(List.append_nil _).symm, by simp [Apart]⟩, ?_⟩
    rw [length_utf8Bytes, show pieces t.units.toList = before ++ [] from hs, List.append_nil]
  | cons p after =>
    obtain ⟨front, own, back, h, -, rfl⟩ := exists_hasCharacter hs
    exact ⟨front, own ++ back, ⟨h.units_eq, h.stands.apart⟩, length_utf8Bytes front⟩

/-- The byte of a cut goes to its unit. -/
theorem Cut.toUnit (h : t.Cut front back) (hsize : t.content.size < 2 ^ 32) :
    t.toUnit (utf8Bytes front).length = front.length := by
  rw [toUnit_eq hsize, h.characters_eq, length_utf8Bytes, unitsBefore_byteCount, unitCount_pieces]

/-- What lies between two cuts. -/
structure Part (t : IndexedText) (front mid back : List CodeUnit) : Prop where
  start : t.Cut front (mid ++ back)
  stop : t.Cut (front ++ mid) back

theorem exists_part {a b : Nat} (ha : t.IsBoundary a) (hb : t.IsBoundary b) (hle : a ≤ b) :
    ∃ front mid back, t.Part front mid back ∧ (utf8Bytes front).length = a ∧
      (utf8Bytes (front ++ mid)).length = b := by
  obtain ⟨front, rest, hstart, rfl⟩ := exists_cut ha
  obtain ⟨through, back, hstop, rfl⟩ := exists_cut hb
  rcases List.append_eq_append_iff.mp (hstart.units_eq.symm.trans hstop.units_eq) with
    ⟨mid, rfl, rfl⟩ | ⟨mid, rfl, rfl⟩
  · exact ⟨front, mid, back, ⟨hstart, hstop⟩, rfl, rfl⟩
  · -- The second cut comes before the first one, but with no bytes between them.
    have hbytes := utf8Bytes_append hstop.apart.of_append
    have hnone : mid = [] := by
      have hbounds := (length_utf8Bytes_bounds mid).1
      rw [hbytes, List.length_append] at hle
      exact List.length_eq_zero_iff.mp (by omega)
    subst hnone
    rw [List.append_nil] at hstart ⊢
    exact ⟨through, [], rest, ⟨hstart, (List.append_nil through).symm ▸ hstart⟩, rfl, by
      rw [List.append_nil]⟩

theorem Part.utf8Bytes_eq (h : t.Part front mid back) :
    utf8Bytes (front ++ mid) = utf8Bytes front ++ utf8Bytes mid :=
  utf8Bytes_append h.start.apart.of_append

theorem Part.extract_content (h : t.Part front mid back) :
    t.content.extract (utf8Bytes front).length (utf8Bytes (front ++ mid)).length =
      (utf8Bytes mid).toArray := by
  rw [h.stop.content_eq, h.utf8Bytes_eq, List.extract_toArray, List.extract_eq_take_drop,
    List.append_assoc, List.drop_left, List.length_append, Nat.add_sub_cancel_left,
    List.take_left]

/-- With its bounds in order a substring is read from the units between them. -/
theorem substring_of_le (t : IndexedText) {a b : Nat} (hle : a ≤ b) :
    t.substring a b = lossyString (t.units.extract a b).toList := by
  have horder : min a t.size ≤ min b t.size := by omega
  unfold substring
  simp only [Nat.min_eq_left horder, Nat.max_eq_right horder]
  congr 2
  apply Array.ext
  · simp only [Array.size_extract, size]
    omega
  · intro i hi hi'
    simp only [Array.size_extract, size] at hi hi'
    simp only [Array.getElem_extract, size]
    congr 1
    omega

theorem substring_self (t : IndexedText) (a : Nat) : t.substring a a = "" := by
  rw [t.substring_of_le (Nat.le_refl a)]
  simp [lossyString]

theorem Part.extract_units (h : t.Part front mid back) :
    (t.units.extract front.length (front ++ mid).length).toList = mid := by
  rw [Array.toList_extract, List.extract_eq_take_drop, h.stop.units_eq, List.append_assoc,
    List.drop_left, List.length_append, Nat.add_sub_cancel_left, List.take_left]

/-- Between boundaries the substring of the translated bounds has exactly the bytes. -/
theorem toUTF8_substring (hsize : t.content.size < 2 ^ 32) {a b : Nat} (ha : t.IsBoundary a)
    (hb : t.IsBoundary b) (hle : a ≤ b) :
    (t.substring (t.toUnit a) (t.toUnit b)).toUTF8.data = t.content.extract a b := by
  obtain ⟨front, mid, back, h, rfl, rfl⟩ := exists_part ha hb hle
  have horder : front.length ≤ (front ++ mid).length := by
    rw [List.length_append]
    exact Nat.le_add_right _ _
  rw [h.start.toUnit hsize, h.stop.toUnit hsize, t.substring_of_le horder, h.extract_units,
    toUTF8_lossyString, h.extract_content]

theorem IsBoundary.le_size {byte : Nat} (h : t.IsBoundary byte) : byte ≤ t.content.size := by
  obtain ⟨before, after, hs, rfl⟩ := h
  rw [size_content, hs, byteCount_append]
  exact Nat.le_add_right _ _

end IndexedText
end PatternScan
