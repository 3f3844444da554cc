import PatternScan.Proofs.Text.Translation

namespace PatternScan

namespace Text

/-- No pair of surrogates lies across two parts of a text. -/
def Apart (front back : List CodeUnit) : Prop :=
  ∀ u ∈ front.getLast?, ∀ v ∈ back.head?, u.isHigh = true → v.isLow = false

/-- Units between those before and those behind them, and the character that they spell there. A
surrogate without its other half spells U+FFFD. -/
inductive Stands (front back : List CodeUnit) : List CodeUnit → Char → Prop where
  | pair {high low : CodeUnit} (hh : high.isHigh = true) (hl : low.isLow = true) :
    Stands front back [high, low] (CodeUnit.pair high low)
  | unit {u : CodeUnit} (hh : u.isHigh = false) (hl : u.isLow = false) :
    Stands front back [u] (Char.ofNat u.toNat)
  | loneHigh {high : CodeUnit} (hh : high.isHigh = true)
    (hb : ∀ v ∈ back.head?, v.isLow = false) : Stands front back [high] replacement
  | loneLow {low : CodeUnit} (hl : low.isLow = true)
    (hf : ∀ u ∈ front.getLast?, u.isHigh = false) : Stands front back [low] replacement

theorem isLow_of_isHigh {u : CodeUnit} (h : u.isHigh = true) : u.isLow = false := by
  have hu := (isHigh_iff u).mp h
  rw [Bool.eq_false_iff, ne_eq, isLow_iff]
  omega

theorem isHigh_of_isLow {u : CodeUnit} (h : u.isLow = true) : u.isHigh = false := by
  cases hh : u.isHigh with
  | false => rfl
  | true => simp [isLow_of_isHigh hh] at h

section

variable {u : CodeUnit} {front back : List CodeUnit}

theorem Apart.tail (h : Apart (u :: front) back) : Apart front back := by
  cases front with
  | nil => simp [Apart]
  | cons v front => simpa [Apart] using h

theorem Apart.cons (h : Apart front back) (hu : front = [] → Apart [u] back) :
    Apart (u :: front) back := by
  cases front with
  | nil => exact hu rfl
  | cons v front => simpa [Apart] using h

theorem Apart.of_append {more : List CodeUnit} (h : Apart front (back ++ more)) :
    Apart front back := by
  cases back with
  | nil => simp [Apart]
  | cons v back => simpa [Apart] using h

/-- A cut outside a pair goes through no character. -/
theorem pieces_append (h : Apart front back) :
    pieces (front ++ back) = pieces front ++ pieces back := by
  fun_induction pieces front with
  | case1 => rfl
  | case2 u =>
    cases back with
    | nil => rfl
    | cons v back =>
      have hpair : ¬ (u.isHigh = true ∧ v.isLow = true) := by
        rintro ⟨hu, hv⟩
        simp [h u (by simp) v (by simp) hu] at hv
      simp [pieces, hpair]
  | case3 u v rest hp ih => simp [pieces, hp, ih h.tail.tail]
  | case4 u v rest hp ih => simp [pieces, hp, ← ih h.tail]

end

variable {front back own : List CodeUnit} {c : Char}

theorem stands_alone {u : CodeUnit} (hb : u.isHigh = true → ∀ v ∈ back.head?, v.isLow = false)
    (hf : u.isLow = true → ∀ v ∈ front.getLast?, v.isHigh = false) :
    Stands front back [u] u.alone := by
  unfold CodeUnit.alone
  cases hh : u.isHigh with
  | true => exact .loneHigh hh (hb hh)
  | false =>
    cases hl : u.isLow with
    | true => exact .loneLow hl (hf hl)
    | false => exact .unit hh hl

theorem Stands.apart (h : Stands front back own c) : Apart front (own ++ back) := by
  intro u hu v hv hhigh
  cases h with
  | pair hh hl =>
    obtain rfl := Option.some.inj hv
    exact isLow_of_isHigh hh
  | unit hh hl =>
    obtain rfl := Option.some.inj hv
    exact hl
  | loneHigh hh hb =>
    obtain rfl := Option.some.inj hv
    exact isLow_of_isHigh hh
  | loneLow hl hf => simp [hf u hu] at hhigh

/-- The units in front matter only as far as they could make a pair with the character. -/
theorem Stands.of_apart {other : List CodeUnit} (h : Stands front back own c)
    (ha : Apart other (own ++ back)) : Stands other back own c := by
  cases h with
  | pair hh hl => exact .pair hh hl
  | unit hh hl => exact .unit hh hl
  | loneHigh hh hb => exact .loneHigh hh hb
  | loneLow hl hf =>
    refine .loneLow hl ?_
    intro u hu
    cases hh : u.isHigh with
    | false => rfl
    | true => simp [ha u hu _ rfl hh] at hl

theorem Stands.cons {u : CodeUnit} (h : Stands front back own c)
    (hu : front = [] → Apart [u] (own ++ back)) : Stands (u :: front) back own c :=
  h.of_apart (h.apart.cons hu)

theorem Stands.pieces_own (h : Stands front back own c) :
    pieces (own ++ back) = ⟨c, own.length⟩ :: pieces back := by
  cases h with
  | pair hh hl => exact pieces_pair back hh hl
  | @unit u hh hl =>
    have ha := pieces_alone back hh
    rwa [CodeUnit.alone, hh, hl] at ha
  | @loneHigh high hh hb =>
    have ha : Apart [high] back := fun u hu v hv _ => hb v hv
    rw [pieces_append ha]
    simp [pieces, CodeUnit.alone, hh]
  | @loneLow low hl hf =>
    have ha := pieces_alone back (isHigh_of_isLow hl)
    rwa [CodeUnit.alone, hl, Bool.or_true] at ha

theorem Stands.pieces_eq (h : Stands front back own c) :
    pieces (front ++ (own ++ back)) = pieces front ++ ⟨c, own.length⟩ :: pieces back := by
  rw [pieces_append h.apart, h.pieces_own]

theorem Stands.utf8Bytes_eq (h : Stands front back own c) :
    utf8Bytes (front ++ (own ++ back)) =
      utf8Bytes front ++ (String.utf8EncodeChar c ++ utf8Bytes back) := by
  simp [utf8Bytes, h.pieces_eq]

theorem exists_stands {units : List CodeUnit} {before after : List Piece} {p : Piece}
    (h : pieces units = before ++ p :: after) :
    ∃ front own back, units = front ++ (own ++ back) ∧ Stands front back own p.char ∧
      own.length = p.width ∧ pieces front = before := by
  fun_induction pieces units generalizing before with
  | case1 => simp at h
  | case2 u =>
    cases before with
    | nil =>
      obtain ⟨rfl, -⟩ := List.cons.inj h
      exact ⟨[], [u], [], rfl, stands_alone (by simp) (by simp), rfl, rfl⟩
    | cons q before => simp at h
  | case3 u v rest hp ih =>
    have hpair : u.isHigh = true ∧ v.isLow = true := by simpa using hp
    cases before with
    | nil =>
      obtain ⟨rfl, -⟩ := List.cons.inj h
      refine ⟨[], [u, v], rest, rfl, ?_, rfl, rfl⟩
      simp only
      exact .pair hpair.1 hpair.2
    | cons q before =>
      obtain ⟨rfl, hrest⟩ := List.cons.inj h
      obtain ⟨front, own, back, rfl, hs, hw, rfl⟩ := ih hrest
      -- a pair ends with a low surrogate, which makes no pair with what follows
      have hlow : Apart [v] (own ++ back) := by
        intro x hx y hy hhigh
        obtain rfl : v = x := by simpa using hx
        simp [isHigh_of_isLow hpair.2] at hhigh
      refine ⟨u :: v :: front, own, back, rfl, ?_, hw, pieces_pair front hpair.1 hpair.2⟩
      exact (hs.cons fun _ => hlow).cons (by simp)
  | case4 u v rest hp ih =>
    have hapart : Apart [u] (v :: rest) := by
      intro x hx y hy hhigh
      obtain rfl : u = x := by simpa using hx
      obtain rfl : v = y := by simpa using hy
      simpa [hhigh] using hp
    cases before with
    | nil =>
      obtain ⟨rfl, -⟩ := List.cons.inj h
      refine ⟨[], [u], v :: rest, rfl, stands_alone ?_ (by simp), rfl, rfl⟩
      exact fun hu w hw => hapart u rfl w hw hu
    | cons q before =>
      obtain ⟨rfl, hrest⟩ := List.cons.inj h
      obtain ⟨front, own, back, hunits, hs, hw, rfl⟩ := ih hrest
      rw [hunits] at hapart
      refine ⟨u :: front, own, back, by rw [hunits]; rfl, hs.cons ?_, hw, ?_⟩
      · rintro rfl
        exact hapart
      · exact pieces_append hapart.of_append

end Text

namespace IndexedText

open Text

/-- A character of a text, with the units before it, its own units and those behind it. -/
structure HasCharacter (t : IndexedText) (front own back : List CodeUnit) (c : Char) : Prop where
  units_eq : t.units.toList = front ++ (own ++ back)
  stands : Stands front back own c

variable {t : IndexedText} {front own back : List CodeUnit} {c : Char}

theorem HasCharacter.characters_eq (h : t.HasCharacter front own back c) :
    t.characters = pieces front ++ ⟨c, own.length⟩ :: pieces back := by
  rw [characters, h.units_eq, h.stands.pieces_eq]

theorem HasCharacter.content_eq (h : t.HasCharacter front own back c) :
    t.content.toList = utf8Bytes front ++ (String.utf8EncodeChar c ++ utf8Bytes back) := by
  rw [IndexedText.content_eq, h.units_eq, h.stands.utf8Bytes_eq]

theorem exists_hasCharacter {before after : List Piece} {p : Piece}
    (h : t.characters = before ++ p :: after) :
    ∃ front own back, t.HasCharacter front own back p.char ∧ own.length = p.width ∧
      pieces front = before := by
  obtain ⟨front, own, back, hu, hs, hw, hf⟩ := exists_stands h
  exact ⟨front, own, back, ⟨hu, hs⟩, hw, hf⟩

theorem exists_covering_byte {byte : Nat} (h : byte < t.content.size) :
    ∃ front own back c, t.HasCharacter front own back c ∧ (utf8Bytes front).length ≤ byte ∧
      byte < (utf8Bytes front).length + (String.utf8EncodeChar c).length := by
  rw [size_content] at h
  obtain ⟨before, p, after, hs, hle, hlt⟩ := exists_split h
  obtain ⟨front, own, back, hc, -, rfl⟩ := exists_hasCharacter hs
  refine ⟨front, own, back, p.char, hc, ?_, ?_⟩
  · rwa [length_utf8Bytes]
  · rwa [length_utf8Bytes, String.length_utf8EncodeChar]

theorem exists_covering_unit {unit : Nat} (h : unit < t.size) :
    ∃ front own back c, t.HasCharacter front own back c ∧ front.length ≤ unit ∧
      unit < front.length + own.length := by
  rw [size_eq] at h
  obtain ⟨before, p, after, hs, hle, hlt⟩ := exists_split_unit h
  obtain ⟨front, own, back, hc, hw, rfl⟩ := exists_hasCharacter hs
  rw [unitCount_pieces] at hle hlt
  exact ⟨front, own, back, p.char, hc, hle, by rwa [hw]⟩

end IndexedText
end PatternScan
