import PatternScan.Proofs.Text.Characters

namespace PatternScan.IndexedText

open Text

variable {t : IndexedText}

section

variable (hsize : t.content.size < 2 ^ 32) {front own back : List CodeUnit} {c : Char}

include hsize

theorem HasCharacter.toUnit_eq (h : t.HasCharacter front own back c) {byte : Nat}
    (hle : (utf8Bytes front).length ≤ byte)
    (hlt : byte < (utf8Bytes front).length + (String.utf8EncodeChar c).length) :
    t.toUnit byte = front.length := by
  rw [length_utf8Bytes] at hle hlt
  rw [String.length_utf8EncodeChar] at hlt
  rw [IndexedText.toUnit_eq hsize, h.characters_eq, unitsBefore_of_split hle hlt, unitCount_pieces]

theorem HasCharacter.toByte_eq (h : t.HasCharacter front own back c) {unit : Nat}
    (hle : front.length ≤ unit) (hlt : unit < front.length + own.length) :
    t.toByte unit = (utf8Bytes front).length := by
  obtain ⟨offset, rfl⟩ := Nat.exists_eq_add_of_le hle
  have ho : offset < (⟨c, own.length⟩ : Piece).width := Nat.lt_of_add_lt_add_left hlt
  have hsplit := toByte_eq_of_split hsize h.characters_eq ho
  rwa [unitCount_pieces, ← length_utf8Bytes] at hsplit

theorem getElem?_beginnings {unit : Nat} (h : unit < t.size) :
    (beginnings 0 t.characters)[unit]? = some (t.toByte unit) := by
  rw [size_eq] at h
  obtain ⟨before, p, after, hs, hle, hlt⟩ := exists_split_unit h
  obtain ⟨offset, rfl⟩ := Nat.exists_eq_add_of_le hle
  have ho : offset < p.width := by omega
  rw [toByte_eq_of_split hsize hs ho, hs, beginnings_split, ← length_beginnings 0 before]
  exact SortedTable.getElem?_middle _ _ _ ho

end

/-- A low surrogate directly behind a high one. -/
def IsLowHalf (t : IndexedText) (unit : Nat) : Prop :=
  ∃ before high low, unit = before + 1 ∧ t.units[before]? = some high ∧
    t.units[before + 1]? = some low ∧ high.isHigh = true ∧ low.isLow = true

theorem IsLowHalf.lt_size {unit : Nat} (h : t.IsLowHalf unit) : unit < t.size := by
  obtain ⟨before, high, low, rfl, -, hlow, -, -⟩ := h
  exact (Array.getElem?_eq_some_iff.mp hlow).1

section

variable {front own back : List CodeUnit} {c : Char} (h : t.HasCharacter front own back c)

include h

theorem HasCharacter.getElem?_front {unit : Nat} (hu : unit < front.length) :
    t.units[unit]? = front[unit]? := by
  rw [← Array.getElem?_toList, h.units_eq, List.getElem?_append_left hu]

theorem HasCharacter.getElem?_own {offset : Nat} (ho : offset < own.length) :
    t.units[front.length + offset]? = own[offset]? := by
  rw [← Array.getElem?_toList, h.units_eq, List.getElem?_append_right (Nat.le_add_right _ _),
    Nat.add_sub_cancel_left, List.getElem?_append_left ho]

/-- The first unit of a character is no low half. -/
theorem HasCharacter.not_isLowHalf : ¬ t.IsLowHalf front.length := by
  rintro ⟨before, high, low, hlen, hhigh, hlow, hh, hl⟩
  have hown : 0 < own.length := by cases h.stands <;> simp
  have hlast : high ∈ front.getLast? := by
    rw [h.getElem?_front (by omega)] at hhigh
    rw [List.getLast?_eq_getElem?, show front.length - 1 = before by omega]
    exact hhigh
  have hfirst : low ∈ (own ++ back).head? := by
    rw [← hlen, ← Nat.add_zero front.length, h.getElem?_own hown] at hlow
    rw [List.head?_eq_getElem?, List.getElem?_append_left hown]
    exact hlow
  simp [h.stands.apart high hlast low hfirst hh] at hl

theorem HasCharacter.isLowHalf {offset : Nat} (ho : offset + 1 < own.length) :
    offset = 0 ∧ t.IsLowHalf (front.length + 1) := by
  have hfirst := h.getElem?_own (Nat.lt_of_succ_lt ho)
  have hsecond := h.getElem?_own ho
  cases h.stands with
  | @pair high low hh hl =>
    obtain rfl : offset = 0 := by
      simp only [List.length_cons, List.length_nil] at ho
      omega
    exact ⟨rfl, front.length, high, low, rfl, hfirst, hsecond, hh, hl⟩
  | unit hh hl => simp at ho
  | loneHigh hh hb => simp at ho
  | loneLow hl hf => simp at ho

end

/-- A unit is the first one of its character, or the low half of a pair. -/
theorem exists_first_unit {unit : Nat} (hu : unit < t.size) :
    ∃ front own back c, t.HasCharacter front own back c ∧ unit < front.length + own.length ∧
      (unit = front.length ∧ ¬ t.IsLowHalf unit ∨ unit = front.length + 1 ∧ t.IsLowHalf unit) := by
  obtain ⟨front, own, back, c, h, hle, hlt⟩ := exists_covering_unit hu
  refine ⟨front, own, back, c, h, hlt, ?_⟩
  obtain ⟨offset, rfl⟩ := Nat.exists_eq_add_of_le hle
  cases offset with
  | zero => exact Or.inl ⟨rfl, h.not_isLowHalf⟩
  | succ offset =>
    have ho : offset + 1 < own.length := Nat.lt_of_add_lt_add_left hlt
    obtain ⟨rfl, hlow⟩ := h.isLowHalf ho
    exact Or.inr ⟨rfl, hlow⟩

theorem toByte_of_isLowHalf (hsize : t.content.size < 2 ^ 32) {unit : Nat}
    (h : t.IsLowHalf (unit + 1)) : t.toByte (unit + 1 : Nat) = t.toByte unit := by
  have hu : unit + 1 < t.size := h.lt_size
  obtain ⟨front, own, back, c, hc, hlt, ⟨-, hnot⟩ | ⟨he, -⟩⟩ := exists_first_unit hu
  · exact absurd h hnot
  · obtain rfl := Nat.succ.inj he
    rw [hc.toByte_eq hsize (Nat.le_succ _) hlt, hc.toByte_eq hsize (Nat.le_refl _) (by omega)]

/-- A byte before the text goes to 0 and one behind it to the end. Every other byte belongs to a
character, a pair, a unit of its own or a surrogate that is read as U+FFFD, and goes to the first
unit of that character. -/
theorem toUnit_eq_first_unit (hsize : t.content.size < 2 ^ 32) :
    (∀ byte : Int, byte < 0 → t.toUnit byte = 0) ∧
    (∀ byte : Int, t.content.size ≤ byte → t.toUnit byte = t.size) ∧
    (∀ byte : Nat, byte < t.content.size → ∃ front own back c, t.HasCharacter front own back c ∧
      (utf8Bytes front).length ≤ byte ∧
      byte < (utf8Bytes front).length + (String.utf8EncodeChar c).length) ∧
    (∀ front own back c, t.HasCharacter front own back c →
      t.content.toList = utf8Bytes front ++ (String.utf8EncodeChar c ++ utf8Bytes back) ∧
      ∀ byte : Nat, (utf8Bytes front).length ≤ byte →
        byte < (utf8Bytes front).length + (String.utf8EncodeChar c).length →
        t.toUnit byte = front.length) := by
  refine ⟨fun _ => toUnit_of_neg, fun _ => toUnit_of_size_le, fun _ => exists_covering_byte, ?_⟩
  intro front own back c h
  refine ⟨h.content_eq, ?_⟩
  intro byte hle hlt
  exact h.toUnit_eq hsize hle hlt

/-- Two surrogates without their other halves stand before a pair; a byte inside the pair goes to
its high half. -/
theorem toUnit_eq_first_unit_in_pair :
    let t := IndexedText.ofUnits #[0x61, 0xDE00, 0xD83D, 0xD83D, 0xDE00, 0x62]
    t.content.size < 2 ^ 32 ∧
    t.HasCharacter [0x61, 0xDE00, 0xD83D] [0xD83D, 0xDE00] [0x62] (CodeUnit.pair 0xD83D 0xDE00) ∧
    t.toUnit (9 : Nat) = 3 := by
  intro t
  have hsize : t.content.size < 2 ^ 32 := by decide
  have hc : t.HasCharacter [0x61, 0xDE00, 0xD83D] [0xD83D, 0xDE00] [0x62]
      (CodeUnit.pair 0xD83D 0xDE00) := ⟨rfl, .pair (by decide) (by decide)⟩
  obtain ⟨-, -, -, hinside⟩ := toUnit_eq_first_unit hsize
  exact ⟨hsize, hc, (hinside _ _ _ _ hc).2 9 (by decide) (by decide)⟩

/-- A unit before the text goes to 0 and one behind it to the end. Every other unit belongs to a
character and goes to the byte at which that character begins, the low half of a pair like the high
one. A surrogate without its other half takes three bytes. The table, which begins at the first unit
that is not ASCII, says what a table from the first unit on would say. -/
theorem toByte_eq_first_byte (hsize : t.content.size < 2 ^ 32) :
    (∀ unit : Int, unit < 0 → t.toByte unit = 0) ∧
    (∀ unit : Int, t.size ≤ unit → t.toByte unit = t.content.size) ∧
    (∀ unit : Nat, unit < t.size → ∃ front own back c, t.HasCharacter front own back c ∧
      front.length ≤ unit ∧ unit < front.length + own.length) ∧
    (∀ front own back c, t.HasCharacter front own back c →
      t.content.toList = utf8Bytes front ++ (String.utf8EncodeChar c ++ utf8Bytes back) ∧
      ∀ unit : Nat, front.length ≤ unit → unit < front.length + own.length →
        t.toByte unit = (utf8Bytes front).length) ∧
    (∀ unit : Nat, t.IsLowHalf (unit + 1) → t.toByte (unit + 1 : Nat) = t.toByte unit) ∧
    (String.utf8EncodeChar replacement).length = 3 ∧
    (∀ unit : Nat, unit < t.size →
      (beginnings 0 t.characters)[unit]? = some (t.toByte unit)) := by
  refine ⟨fun _ => toByte_of_neg, fun _ => toByte_of_size_le, fun _ => exists_covering_unit, ?_,
    fun _ => toByte_of_isLowHalf hsize, rfl, fun _ => getElem?_beginnings hsize⟩
  intro front own back c h
  refine ⟨h.content_eq, ?_⟩
  intro unit hle hlt
  exact h.toByte_eq hsize hle hlt

/-- A surrogate without its other half stands between an accent and a pair; the low half of the pair
goes where the pair begins, after two and three bytes. -/
theorem toByte_eq_first_byte_in_pair :
    let t := IndexedText.ofUnits #[0xE9, 0xD83D, 0xD83D, 0xDE00]
    t.content.size < 2 ^ 32 ∧
    t.HasCharacter [0xE9, 0xD83D] [0xD83D, 0xDE00] [] (CodeUnit.pair 0xD83D 0xDE00) ∧
    t.toByte (3 : Nat) = 5 := by
  intro t
  have hsize : t.content.size < 2 ^ 32 := by decide
  have hc : t.HasCharacter [0xE9, 0xD83D] [0xD83D, 0xDE00] [] (CodeUnit.pair 0xD83D 0xDE00) :=
    ⟨rfl, .pair (by decide) (by decide)⟩
  obtain ⟨-, -, -, hinside, -, -, -⟩ := toByte_eq_first_byte hsize
  exact ⟨hsize, hc, (hinside _ _ _ _ hc).2 3 (by decide) (by decide)⟩

end PatternScan.IndexedText
