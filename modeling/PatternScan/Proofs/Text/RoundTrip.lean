import PatternScan.Proofs.Text.Exactness

namespace PatternScan

namespace Text

theorem pairwise_beginnings (origin : Nat) (ps : List Piece) :
    (beginnings origin ps).Pairwise (· ≤ ·) := by
  induction ps generalizing origin with
  | nil => exact List.Pairwise.nil
  | cons p rest ih =>
    rw [beginnings]
    refine List.pairwise_append.mpr ⟨?_, ih _, ?_⟩
    · exact List.pairwise_replicate.mpr (Or.inr (Nat.le_refl origin))
    · intro v hv w hw
      obtain rfl := List.eq_of_mem_replicate hv
      have hle := (mem_beginnings hw).1
      omega

end Text

namespace IndexedText

open Text

variable {t : IndexedText}

/-- Offsets below 0, which go to 0, cannot break an order. -/
theorem mono_of_nat {f : Int → Nat} (hneg : ∀ offset < 0, f offset = 0)
    (hnat : ∀ a b : Nat, a ≤ b → f a ≤ f b) {a b : Int} (hle : a ≤ b) : f a ≤ f b := by
  rcases Int.lt_or_le a 0 with ha | ha
  · rw [hneg a ha]
    exact Nat.zero_le _
  · obtain ⟨n, rfl⟩ := Int.eq_ofNat_of_zero_le ha
    obtain ⟨m, rfl⟩ := Int.eq_ofNat_of_zero_le (Int.le_trans ha hle)
    exact hnat n m (Int.ofNat_le.mp hle)

theorem toUnit_toByte_size : t.toUnit (t.toByte t.size) = t.size := by
  rw [toByte_size]
  exact toUnit_of_size_le (Int.le_refl _)

theorem toByte_toUnit_size : t.toByte (t.toUnit t.content.size) = t.content.size := by
  rw [toUnit_of_size_le (Int.le_refl _), toByte_size]

section

variable (hsize : t.content.size < 2 ^ 32)

include hsize

theorem toByte_le_size (unit : Nat) : t.toByte unit ≤ t.content.size := by
  rcases Nat.lt_or_ge unit t.size with hlt | hge
  · have hmem := List.mem_of_getElem? (getElem?_beginnings hsize hlt)
    have hle := (mem_beginnings hmem).2
    rw [size_content]
    omega
  · exact Nat.le_of_eq (toByte_of_size_le (by omega))

theorem toByte_mono {a b : Int} (hle : a ≤ b) : t.toByte a ≤ t.toByte b := by
  refine mono_of_nat (fun _ => toByte_of_neg) ?_ hle
  intro a b hle
  rcases Nat.lt_or_ge b t.size with hlt | hge
  · rcases Nat.eq_or_lt_of_le hle with rfl | hab
    · exact Nat.le_refl _
    · have hfirst := getElem?_beginnings hsize (Nat.lt_trans hab hlt)
      have hsecond := getElem?_beginnings hsize hlt
      obtain ⟨ha, hfirst⟩ := List.getElem?_eq_some_iff.mp hfirst
      obtain ⟨hb, hsecond⟩ := List.getElem?_eq_some_iff.mp hsecond
      rw [← hfirst, ← hsecond]
      exact List.pairwise_iff_getElem.mp (pairwise_beginnings 0 t.characters) a b ha hb hab
  · have hend : t.toByte b = t.content.size := toByte_of_size_le (Int.ofNat_le.mpr hge)
    rw [hend]
    exact toByte_le_size hsize a

theorem toUnit_mono {a b : Int} (hle : a ≤ b) : t.toUnit a ≤ t.toUnit b := by
  refine mono_of_nat (fun _ => toUnit_of_neg) ?_ hle
  intro a b hle
  rw [toUnit_eq hsize, toUnit_eq hsize]
  exact unitsBefore_mono _ hle

theorem toUnit_toByte {unit : Nat} (hu : unit ≤ t.size) :
    (¬ t.IsLowHalf unit → t.toUnit (t.toByte unit) = unit) ∧
      (t.IsLowHalf unit → t.toUnit (t.toByte unit) = unit - 1) := by
  rcases Nat.eq_or_lt_of_le hu with rfl | hlt
  · exact ⟨fun _ => toUnit_toByte_size, fun hlow => absurd hlow.lt_size (Nat.lt_irrefl _)⟩
  · obtain ⟨front, own, back, c, h, hin, hunit⟩ := exists_first_unit hlt
    have hback : t.toUnit (t.toByte unit) = front.length := by
      rw [h.toByte_eq hsize (by omega) hin]
      apply h.toUnit_eq hsize (Nat.le_refl _)
      have hpos := c.utf8Size_pos
      rw [String.length_utf8EncodeChar]
      omega
    rw [hback]
    rcases hunit with ⟨he, hnot⟩ | ⟨he, hlow⟩
    · exact ⟨fun _ => he.symm, fun hlow => absurd hlow hnot⟩
    · exact ⟨fun hnot => absurd hlow hnot, fun _ => by omega⟩

/-- A byte of a character comes back to the first one. -/
theorem HasCharacter.toByte_toUnit {front own back : List CodeUnit} {c : Char}
    (h : t.HasCharacter front own back c) {byte : Nat} (hle : (utf8Bytes front).length ≤ byte)
    (hlt : byte < (utf8Bytes front).length + (String.utf8EncodeChar c).length) :
    t.toByte (t.toUnit byte) = (utf8Bytes front).length := by
  have hown : 0 < own.length := by cases h.stands <;> simp
  rw [h.toUnit_eq hsize hle hlt]
  exact h.toByte_eq hsize (Nat.le_refl _) (by omega)

theorem toByte_toUnit_le {byte : Nat} (hb : byte ≤ t.content.size) :
    t.toByte (t.toUnit byte) ≤ byte := by
  rcases Nat.eq_or_lt_of_le hb with rfl | hlt
  · exact Nat.le_of_eq toByte_toUnit_size
  · obtain ⟨front, own, back, c, h, hle, hlt⟩ := exists_covering_byte hlt
    rwa [h.toByte_toUnit hsize hle hlt]

theorem toByte_toUnit_eq_iff {byte : Nat} :
    t.toByte (t.toUnit byte) = byte ↔ t.IsBoundary byte := by
  refine ⟨?_, IndexedText.toByte_toUnit hsize⟩
  intro he
  rcases Nat.lt_or_ge byte t.content.size with hlt | hge
  · obtain ⟨front, own, back, c, h, hle, hlt⟩ := exists_covering_byte hlt
    rw [h.toByte_toUnit hsize hle hlt, length_utf8Bytes] at he
    exact ⟨pieces front, _, h.characters_eq, he⟩
  · rw [toUnit_of_size_le (by omega), toByte_size] at he
    exact ⟨t.characters, [], (List.append_nil _).symm, by rw [← size_content, he]⟩

/-- In the bytes a boundary shows as a byte that begins a character. -/
theorem isBoundary_iff_isUTF8FirstByte {byte : Nat} (hb : byte ≤ t.content.size) :
    t.IsBoundary byte ↔ ∀ b ∈ t.content[byte]?, b.IsUTF8FirstByte := by
  rcases Nat.eq_or_lt_of_le hb with rfl | hlt
  · rw [← toByte_toUnit_eq_iff hsize, toByte_toUnit_size]
    simp
  · obtain ⟨front, own, back, c, h, hle, hlt⟩ := exists_covering_byte hlt
    obtain ⟨offset, rfl⟩ := Nat.exists_eq_add_of_le hle
    have ho : offset < (String.utf8EncodeChar c).length := by omega
    have hbyte : t.content[(utf8Bytes front).length + offset]? =
        some (String.utf8EncodeChar c)[offset] := by
      rw [← Array.getElem?_toList, h.content_eq, List.getElem?_append_right hle,
        Nat.add_sub_cancel_left, List.getElem?_append_left ho, List.getElem?_eq_getElem ho]
    rw [← toByte_toUnit_eq_iff hsize, h.toByte_toUnit hsize hle hlt, hbyte]
    simp only [Option.mem_def, Option.some.injEq, forall_eq',
      UInt8.isUTF8FirstByte_getElem_utf8EncodeChar]
    omega

/-- A character begins at or before a byte just when its first unit is at or before the byte's. -/
theorem toByte_le_iff_le_toUnit {byte unit : Nat} (hb : byte ≤ t.content.size) (hu : unit ≤ t.size)
    (hlow : ¬ t.IsLowHalf unit) : t.toByte unit ≤ byte ↔ unit ≤ t.toUnit byte := by
  constructor
  · intro hle
    calc unit = t.toUnit (t.toByte unit) := ((toUnit_toByte hsize hu).1 hlow).symm
      _ ≤ t.toUnit byte := toUnit_mono hsize (Int.ofNat_le.mpr hle)
  · intro hle
    calc t.toByte unit ≤ t.toByte (t.toUnit byte) := toByte_mono hsize (Int.ofNat_le.mpr hle)
      _ ≤ byte := toByte_toUnit_le hsize hb

end

/-- Both translations keep the order of all offsets. A unit comes back to itself, unless it is the
low half of a pair, which comes back to the high one. A byte comes back to itself or an earlier one,
and to itself just when it is a boundary of characters, that is at the end or where a character
begins. The byte of a unit that is no low half is at or before a byte just when the unit is at or
before the unit of that byte. -/
theorem translations_adjoint (hsize : t.content.size < 2 ^ 32) :
    (∀ a b : Int, a ≤ b → t.toByte a ≤ t.toByte b) ∧
    (∀ a b : Int, a ≤ b → t.toUnit a ≤ t.toUnit b) ∧
    (∀ unit : Nat, unit ≤ t.size → (¬ t.IsLowHalf unit → t.toUnit (t.toByte unit) = unit) ∧
      (t.IsLowHalf unit → t.toUnit (t.toByte unit) = unit - 1)) ∧
    (∀ byte : Nat, byte ≤ t.content.size → t.toByte (t.toUnit byte) ≤ byte ∧
      (t.toByte (t.toUnit byte) = byte ↔ t.IsBoundary byte) ∧
      (t.IsBoundary byte ↔ ∀ b ∈ t.content[byte]?, b.IsUTF8FirstByte)) ∧
    (∀ byte : Nat, byte ≤ t.content.size → ∀ unit : Nat, unit ≤ t.size → ¬ t.IsLowHalf unit →
      (t.toByte unit ≤ byte ↔ unit ≤ t.toUnit byte)) := by
  refine ⟨fun _ _ => toByte_mono hsize, fun _ _ => toUnit_mono hsize, fun _ => toUnit_toByte hsize,
    ?_, ?_⟩
  · intro byte hb
    exact ⟨toByte_toUnit_le hsize hb, toByte_toUnit_eq_iff hsize,
      isBoundary_iff_isUTF8FirstByte hsize hb⟩
  · intro byte hb unit hu hlow
    exact toByte_le_iff_le_toUnit hsize hb hu hlow

/-- The low half of a pair that stands behind one more high surrogate comes back to its own one. -/
theorem translations_adjoint_at_low_half :
    let t := IndexedText.ofUnits #[0xD83D, 0xD83D, 0xDE00, 0x61]
    t.content.size < 2 ^ 32 ∧ t.IsLowHalf 2 ∧ t.toUnit (t.toByte (2 : Nat)) = 1 := by
  intro t
  have hsize : t.content.size < 2 ^ 32 := by decide
  have hlow : t.IsLowHalf 2 := ⟨1, 0xD83D, 0xDE00, rfl, rfl, rfl, by decide, by decide⟩
  obtain ⟨-, -, hunits, -, -⟩ := translations_adjoint hsize
  exact ⟨hsize, hlow, (hunits 2 (by decide)).2 hlow⟩

end IndexedText
end PatternScan
