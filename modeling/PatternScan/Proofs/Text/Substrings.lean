import PatternScan.Proofs.Text.Slices

namespace PatternScan

open Text

namespace Text

theorem lossyString_append {front back : List CodeUnit} (h : Apart front back) :
    lossyString (front ++ back) = lossyString front ++ lossyString back := by
  unfold lossyString
  rw [pieces_append h, List.map_append, String.ofList_append]

theorem lossyString_surrogate {u : CodeUnit} (h : u.isHigh = true ∨ u.isLow = true) :
    lossyString [u] = "\uFFFD" := by
  have hown : u.alone = replacement := by
    rw [CodeUnit.alone, if_pos (by simpa using h)]
  rw [lossyString, pieces, hown]
  rfl

end Text

namespace IndexedText

variable {t : IndexedText}

theorem substring_comm (t : IndexedText) (a b : Nat) : t.substring a b = t.substring b a := by
  unfold substring
  simp only [Nat.min_comm (min a t.size), Nat.max_comm (min a t.size)]

/-- A substring is that of its bounds, put in order and clamped to the text. -/
theorem substring_clamped (t : IndexedText) (a b : Nat) :
    t.substring a b = t.substring (min (min a b) t.size) (min (max a b) t.size) := by
  have hlower : min (min a t.size) (min b t.size) = min (min a b) t.size := by omega
  have hupper : max (min a t.size) (min b t.size) = min (max a b) t.size := by omega
  have horder : min (min a b) t.size ≤ min (max a b) t.size := by omega
  rw [t.substring_of_le horder, ← hlower, ← hupper]
  rfl

theorem isBoundary_toByte (hsize : t.content.size < 2 ^ 32) {unit : Nat} (hu : unit ≤ t.size)
    (hlow : ¬ t.IsLowHalf unit) : t.IsBoundary (t.toByte unit) := by
  apply (toByte_toUnit_eq_iff hsize).mp
  rw [(toUnit_toByte hsize hu).1 hlow]

theorem toUTF8_substring_of_bounds (hsize : t.content.size < 2 ^ 32) {lo hi : Nat} (hle : lo ≤ hi)
    (hin : hi ≤ t.size) (hlo : ¬ t.IsLowHalf lo) (hhi : ¬ t.IsLowHalf hi) :
    (t.substring lo hi).toUTF8.data = t.content.extract (t.toByte lo) (t.toByte hi) := by
  have hin' : lo ≤ t.size := Nat.le_trans hle hin
  have hbytes := toUTF8_substring hsize (isBoundary_toByte hsize hin' hlo)
    (isBoundary_toByte hsize hin hhi) (toByte_mono hsize (Int.ofNat_le.mpr hle))
  rwa [(toUnit_toByte hsize hin').1 hlo, (toUnit_toByte hsize hin).1 hhi] at hbytes

theorem apart_extract {lo mid hi : Nat} (h : ¬ t.IsLowHalf mid) :
    Apart (t.units.extract lo mid).toList (t.units.extract mid hi).toList := by
  intro u hu v hv hhigh
  simp only [List.getLast?_eq_getElem?, List.head?_eq_getElem?, Array.getElem?_toList,
    Array.length_toList, Array.size_extract, Array.getElem?_extract, Option.mem_def,
    Option.ite_none_right_eq_some, Nat.add_zero] at hu hv
  obtain ⟨hin, hu⟩ := hu
  obtain ⟨-, hv⟩ := hv
  -- there is a unit at the bound, so the last one in front of it is its neighbour
  have hlt : mid < t.units.size := (Array.getElem?_eq_some_iff.mp hv).1
  obtain ⟨before, rfl⟩ : ∃ before, mid = before + 1 := Nat.exists_eq_add_one.mpr (by omega)
  rw [show lo + (min (before + 1) t.units.size - lo - 1) = before by omega] at hu
  rw [← Bool.not_eq_true]
  exact fun hlow => h ⟨before, u, v, rfl, hu, hv, hhigh, hlow⟩

/-- Substrings that meet outside a pair are those of the whole. -/
theorem substring_append {lo mid hi : Nat} (hlo : lo ≤ mid) (hhi : mid ≤ hi)
    (hmid : ¬ t.IsLowHalf mid) : t.substring lo mid ++ t.substring mid hi = t.substring lo hi := by
  have hunits : (t.units.extract lo hi).toList =
      (t.units.extract lo mid).toList ++ (t.units.extract mid hi).toList := by
    rw [← Array.toList_append, Array.extract_append_extract, Nat.min_eq_left hlo,
      Nat.max_eq_right hhi]
  rw [t.substring_of_le hlo, t.substring_of_le hhi, t.substring_of_le (Nat.le_trans hlo hhi),
    hunits, lossyString_append (apart_extract hmid)]

theorem IsLowHalf.not_succ {unit : Nat} (h : t.IsLowHalf unit) : ¬ t.IsLowHalf (unit + 1) := by
  obtain ⟨before, high, low, rfl, -, hlow, -, hl⟩ := h
  rintro ⟨_, high', low', he, hhigh', -, hh', -⟩
  obtain rfl := Nat.succ.inj he
  obtain rfl := Option.some.inj (hlow.symm.trans hhigh')
  simp [isLow_of_isHigh hh'] at hl

theorem IsLowHalf.not_pred {unit : Nat} (h : t.IsLowHalf (unit + 1)) : ¬ t.IsLowHalf unit :=
  fun hlow => hlow.not_succ h

theorem substring_surrogate {unit : Nat} {u : CodeUnit} (hu : t.units[unit]? = some u)
    (hs : u.isHigh = true ∨ u.isLow = true) : t.substring unit (unit + 1) = "\uFFFD" := by
  obtain ⟨hlt, rfl⟩ := Array.getElem?_eq_some_iff.mp hu
  have hone : (t.units.extract unit (unit + 1)).toList = [t.units[unit]] := by
    rw [Array.toList_extract, List.extract_eq_take_drop, List.drop_eq_getElem_cons (by simpa),
      Nat.add_sub_cancel_left]
    rfl
  rw [t.substring_of_le (Nat.le_succ unit), hone, lossyString_surrogate hs]

theorem IsLowHalf.substring_from {lo hi : Nat} (h : t.IsLowHalf lo) (hlt : lo < hi) :
    t.substring lo hi = "\uFFFD" ++ t.substring (lo + 1) hi := by
  have hhalf : t.substring lo (lo + 1) = "\uFFFD" := by
    obtain ⟨before, high, low, rfl, -, hlow, -, hl⟩ := h
    exact substring_surrogate hlow (Or.inr hl)
  rw [← hhalf, substring_append (Nat.le_succ lo) hlt h.not_succ]

theorem IsLowHalf.substring_to {lo hi : Nat} (h : t.IsLowHalf (hi + 1)) (hle : lo ≤ hi) :
    t.substring lo (hi + 1) = t.substring lo hi ++ "\uFFFD" := by
  have hhalf : t.substring hi (hi + 1) = "\uFFFD" := by
    obtain ⟨before, high, low, he, hhigh, -, hh, -⟩ := h
    obtain rfl := Nat.succ.inj he
    exact substring_surrogate hhigh (Or.inl hh)
  rw [← hhalf, substring_append hle (Nat.le_succ hi) h.not_pred]

theorem IsLowHalf.lt {lo hi : Nat} (hlo : t.IsLowHalf lo) (hhi : t.IsLowHalf (hi + 1))
    (hle : lo ≤ hi) : lo < hi := by
  refine Nat.lt_of_le_of_ne hle ?_
  rintro rfl
  exact hlo.not_succ hhi

/-- The order of the bounds makes no difference. With the bounds in order and clamped to the text,
and both outside pairs, a substring has the bytes from the byte of one bound to the byte of the
other. Substrings that meet outside a pair make up the whole one. A bound inside a pair leaves one
U+FFFD for the half of it, and what is left besides lies between bounds outside that pair. -/
theorem substrings_follow_content (t : IndexedText) (hsize : t.content.size < 2 ^ 32) :
    (∀ a b, t.substring a b = t.substring b a) ∧
    (∀ a b, let lo := min (min a b) t.size
      let hi := min (max a b) t.size
      t.substring a b = t.substring lo hi ∧
      (¬ t.IsLowHalf lo → ¬ t.IsLowHalf hi →
        t.toByte lo ≤ t.toByte hi ∧ t.toByte hi ≤ t.content.size ∧
        (t.substring a b).toUTF8.data = t.content.extract (t.toByte lo) (t.toByte hi))) ∧
    (∀ lo mid hi, lo ≤ mid → mid ≤ hi → ¬ t.IsLowHalf mid →
      t.substring lo mid ++ t.substring mid hi = t.substring lo hi) ∧
    (∀ lo hi, lo < hi → t.IsLowHalf lo →
      ¬ t.IsLowHalf (lo + 1) ∧ t.substring lo hi = "\uFFFD" ++ t.substring (lo + 1) hi) ∧
    (∀ lo hi, lo ≤ hi → t.IsLowHalf (hi + 1) →
      ¬ t.IsLowHalf hi ∧ t.substring lo (hi + 1) = t.substring lo hi ++ "\uFFFD") ∧
    (∀ lo hi, lo ≤ hi → t.IsLowHalf lo → t.IsLowHalf (hi + 1) →
      lo < hi ∧ t.substring lo (hi + 1) = "\uFFFD" ++ (t.substring (lo + 1) hi ++ "\uFFFD")) := by
  refine ⟨t.substring_comm, ?_, fun _ _ _ => substring_append, ?_, ?_, ?_⟩
  · intro a b lo hi
    have hle : lo ≤ hi := by omega
    have hin : hi ≤ t.size := Nat.min_le_right _ _
    refine ⟨t.substring_clamped a b, fun hlo hhi => ?_⟩
    refine ⟨toByte_mono hsize (Int.ofNat_le.mpr hle), toByte_le_size hsize hi, ?_⟩
    rw [t.substring_clamped a b]
    exact toUTF8_substring_of_bounds hsize hle hin hlo hhi
  · exact fun lo hi hlt hlow => ⟨hlow.not_succ, hlow.substring_from hlt⟩
  · exact fun lo hi hle hlow => ⟨hlow.not_pred, hlow.substring_to hle⟩
  · intro lo hi hle hlo hhi
    have hlt := hlo.lt hhi hle
    exact ⟨hlt, by rw [hlo.substring_from (Nat.lt_succ_of_le hle), hhi.substring_to hlt]⟩

/-- A low surrogate and a high one, in this order, stand before a pair, an accent and one more pair.
The first pair and the accent have their six bytes, with the bounds in either order; cut inside both
pairs, the accent stands between two halves. -/
theorem substrings_follow_content_beside_halves :
    let t := IndexedText.ofUnits #[0xDE00, 0xD83D, 0xD83D, 0xDE00, 0xE9, 0xD83D, 0xDE00]
    t.content.size < 2 ^ 32 ∧ ¬ t.IsLowHalf 2 ∧ ¬ t.IsLowHalf 5 ∧
    (t.substring 5 2).toUTF8.data = #[0xF0, 0x9F, 0x98, 0x80, 0xC3, 0xA9] ∧
    t.IsLowHalf 3 ∧ t.IsLowHalf 6 ∧
    t.substring 3 6 = "\uFFFD" ++ (t.substring 4 5 ++ "\uFFFD") := by
  intro t
  have hsize : t.content.size < 2 ^ 32 := by decide
  have hfirst : t.IsLowHalf 3 := ⟨2, 0xD83D, 0xDE00, rfl, rfl, rfl, by decide, by decide⟩
  have hsecond : t.IsLowHalf 6 := ⟨5, 0xD83D, 0xDE00, rfl, rfl, rfl, by decide, by decide⟩
  obtain ⟨-, hbytes, -, -, -, hboth⟩ := substrings_follow_content t hsize
  have hdata := ((hbytes 5 2).2 hfirst.not_pred hsecond.not_pred).2.2
  exact ⟨hsize, hfirst.not_pred, hsecond.not_pred, hdata, hfirst, hsecond,
    (hboth 3 5 (by decide) hfirst hsecond).2⟩

end IndexedText
end PatternScan
