import Mathlib.Data.Nat.Digits.Lemmas
import PatternScan.Proofs.Text.LeadingInteger

namespace PatternScan.StartPosition

open Text (isBlank)

def digitValue (c : Char) : Nat := c.toNat - '0'.toNat

def decimalValue (digits : List Char) : Nat := Nat.ofDigits 10 (digits.map digitValue).reverse

/-- What is left of a run of digits without its leading zeros. -/
def figures (digits : List Char) : List Char := digits.dropWhile (· == '0')

theorem decimalValue_append (front back : List Char) :
    decimalValue (front ++ back) = 10 ^ back.length * decimalValue front + decimalValue back := by
  unfold decimalValue
  rw [List.map_append, List.reverse_append, Nat.ofDigits_append, List.length_reverse,
    List.length_map, Nat.add_comm]

theorem decimalValue_cons (c : Char) (rest : List Char) :
    decimalValue (c :: rest) = 10 ^ rest.length * digitValue c + decimalValue rest := by
  have hone : decimalValue [c] = digitValue c := Nat.ofDigits_singleton
  rw [← List.singleton_append, decimalValue_append, hone]

theorem ofDigitChars_eq (digits : List Char) (value : Nat) :
    Nat.ofDigitChars 10 digits value = 10 ^ digits.length * value + decimalValue digits := by
  induction digits generalizing value with
  | nil =>
    rw [Nat.ofDigitChars_nil, List.length_nil, Nat.pow_zero, Nat.one_mul]
    rfl
  | cons c rest ih =>
    rw [Nat.ofDigitChars_cons, ih, decimalValue_cons, List.length_cons, Nat.pow_succ, digitValue]
    ring

theorem ofDigitChars_zero (digits : List Char) :
    Nat.ofDigitChars 10 digits 0 = decimalValue digits := by
  rw [ofDigitChars_eq, Nat.mul_zero, Nat.zero_add]

theorem digitValue_lt {c : Char} (h : c.isDigit = true) : digitValue c < 10 := by
  have hle : c.toNat ≤ '9'.toNat := (Char.isDigit_iff_toNat.mp h).2
  have hnine : '9'.toNat - '0'.toNat = 9 := rfl
  unfold digitValue
  omega

theorem digitValue_pos {c : Char} (h : c.isDigit = true) (hne : c ≠ '0') : 0 < digitValue c := by
  have hle : '0'.toNat ≤ c.toNat := (Char.isDigit_iff_toNat.mp h).1
  have hne' : c.toNat ≠ '0'.toNat := fun he => hne (Char.toNat_inj.mp he)
  unfold digitValue
  omega

theorem decimalValue_lt {digits : List Char} (h : ∀ c ∈ digits, c.isDigit = true) :
    decimalValue digits < 10 ^ digits.length := by
  have hall : ∀ d ∈ (digits.map digitValue).reverse, d < 10 := by
    intro d hd
    obtain ⟨c, hc, rfl⟩ := List.mem_map.mp (List.mem_reverse.mp hd)
    exact digitValue_lt (h c hc)
  have hlt := Nat.ofDigits_lt_base_pow_length (by decide) hall
  rwa [List.length_reverse, List.length_map] at hlt

/-- Leading zeros do not count. -/
theorem decimalValue_figures (digits : List Char) :
    decimalValue (figures digits) = decimalValue digits := by
  unfold figures
  induction digits with
  | nil => rfl
  | cons c rest ih =>
    rw [List.dropWhile_cons]
    split
    · rename_i hc
      obtain rfl : c = '0' := beq_iff_eq.mp hc
      rw [ih, decimalValue_cons, show digitValue '0' = 0 from rfl, Nat.mul_zero, Nat.zero_add]
    · rfl

theorem ne_zero_of_figures {digits rest : List Char} {c : Char} (h : figures digits = c :: rest) :
    c ≠ '0' := by
  have hnot := List.head?_dropWhile_not (· == '0') digits
  rw [show digits.dropWhile _ = c :: rest from h] at hnot
  simpa using hnot

theorem pow_le_decimalValue {c : Char} (h : c.isDigit = true) (hne : c ≠ '0') (rest : List Char) :
    10 ^ rest.length ≤ decimalValue (c :: rest) := by
  rw [decimalValue_cons]
  calc 10 ^ rest.length
    _ ≤ 10 ^ rest.length * digitValue c := Nat.le_mul_of_pos_right _ (digitValue_pos h hne)
    _ ≤ 10 ^ rest.length * digitValue c + decimalValue rest := Nat.le_add_right _ _

/-- Of two numbers the one with more figures is the larger one. -/
theorem decimalValue_lt_of_figures {a b : List Char} (ha : ∀ c ∈ a, c.isDigit = true)
    (hb : ∀ c ∈ b, c.isDigit = true) (h : (figures a).length < (figures b).length) :
    decimalValue a < decimalValue b := by
  have hdigits : ∀ c ∈ figures a, c.isDigit = true := fun c hc =>
    ha c ((List.dropWhile_sublist _).mem hc)
  obtain ⟨c, rest, hf⟩ := List.exists_cons_of_length_pos (Nat.zero_lt_of_lt h)
  have hfirst : c.isDigit = true :=
    hb c ((List.dropWhile_sublist (· == '0')).mem (show c ∈ figures b by simp [hf]))
  rw [hf, List.length_cons] at h
  calc decimalValue a
    _ = decimalValue (figures a) := (decimalValue_figures a).symm
    _ < 10 ^ (figures a).length := decimalValue_lt hdigits
    _ ≤ 10 ^ rest.length := Nat.pow_le_pow_right (by decide) (Nat.le_of_lt_succ h)
    _ ≤ decimalValue (figures b) := hf ▸ pow_le_decimalValue hfirst (ne_zero_of_figures hf) rest
    _ = decimalValue b := decimalValue_figures b

theorem decimalValue_le_append (digits more : List Char) :
    decimalValue digits ≤ decimalValue (digits ++ more) := by
  rw [decimalValue_append]
  have hpos : 0 < 10 ^ more.length := Nat.pow_pos (by decide)
  calc decimalValue digits
    _ ≤ 10 ^ more.length * decimalValue digits := Nat.le_mul_of_pos_left _ hpos
    _ ≤ 10 ^ more.length * decimalValue digits + decimalValue more := Nat.le_add_right _ _

inductive Sign where
  | absent
  | plus
  | minus
  deriving DecidableEq, Repr

def Sign.chars : Sign → List Char
  | .absent => []
  | .plus => ['+']
  | .minus => ['-']

/-- A text that begins with a number: any spaces and tabs, a sign or none, all the digits that stand
there, and the rest. -/
structure Numeral where
  blanks : List Char
  sign : Sign
  digits : List Char
  rest : List Char
  blank : ∀ c ∈ blanks, c = ' ' ∨ c = '\t'
  nonempty : digits ≠ []
  digit : ∀ c ∈ digits, c.isDigit = true
  stop : ∀ c ∈ rest.head?, c.isDigit = false

namespace Numeral

def text (n : Numeral) : String :=
  String.ofList (n.blanks ++ (n.sign.chars ++ (n.digits ++ n.rest)))

def value (n : Numeral) : Nat := decimalValue n.digits

def ofNat (k : Nat) : Numeral where
  blanks := []
  sign := .absent
  digits := Nat.toDigits 10 k
  rest := []
  blank := by simp
  nonempty := List.ne_nil_of_length_pos Nat.length_toDigits_pos
  digit _ := Nat.isDigit_of_mem_toDigits (by decide) (by decide)
  stop := by simp

theorem text_ofNat (k : Nat) : (ofNat k).text = toString k := by
  rw [Nat.toString_eq_ofList_toDigits, text]
  simp [ofNat, Sign.chars]

theorem value_ofNat (k : Nat) : (ofNat k).value = k :=
  (ofDigitChars_zero _).symm.trans Nat.ofDigitChars_ten_toDigits

theorem takeWhile_digits (n : Numeral) :
    (n.digits ++ n.rest).takeWhile Char.isDigit = n.digits := by
  have hstop : n.rest.takeWhile Char.isDigit = [] := by
    cases h : n.rest with
    | nil => rfl
    | cons c rest =>
      have hc : c.isDigit = false := n.stop c (by rw [h]; rfl)
      rw [List.takeWhile_cons, hc]
      rfl
  rw [List.takeWhile_append_of_pos n.digit, hstop, List.append_nil]

theorem digitRun?_digits (n : Numeral) : digitRun? (n.digits ++ n.rest) = some n.value := by
  rw [digitRun?, n.takeWhile_digits]
  split
  · rename_i hnone
    exact absurd hnone n.nonempty
  · rw [ofDigitChars_zero, value]

theorem exists_digit (n : Numeral) : ∃ c after, n.digits ++ n.rest = c :: after ∧
    isBlank c = false ∧ c ≠ '-' ∧ c ≠ '+' := by
  obtain ⟨c, after, h⟩ := List.exists_cons_of_ne_nil n.nonempty
  have hc : c.isDigit = true := n.digit c (by simp [h])
  refine ⟨c, after ++ n.rest, by rw [h]; rfl, ?_, ?_, ?_⟩
  · have hrange := Char.isDigit_iff_toNat.mp hc
    rw [show '0'.toNat = 0x30 from rfl, show '9'.toNat = 0x39 from rfl] at hrange
    simp only [isBlank, Bool.or_eq_false_iff, Bool.and_eq_false_iff, decide_eq_false_iff_not,
      beq_eq_false_iff_ne]
    omega
  · rintro rfl
    cases hc
  · rintro rfl
    cases hc

theorem signedRun?_digits (n : Numeral) :
    signedRun? (n.sign.chars ++ (n.digits ++ n.rest)) =
      some (signed (n.sign = .minus) n.value) := by
  cases n.sign with
  | minus => exact congrArg (Option.map (signed true)) n.digitRun?_digits
  | plus => exact congrArg (Option.map (signed false)) n.digitRun?_digits
  | absent =>
    obtain ⟨c, after, h, -, hminus, hplus⟩ := n.exists_digit
    have hrun : signedRun? (c :: after) = (digitRun? (c :: after)).map (signed false) := by
      unfold signedRun?
      split
      · rename_i he
        exact absurd (List.cons.inj he).1 hminus
      · rename_i he
        exact absurd (List.cons.inj he).1 hplus
      · rfl
    rw [Sign.chars, List.nil_append, h, hrun, ← h, n.digitRun?_digits]
    rfl

theorem dropWhile_isBlank (n : Numeral) : n.text.toList.dropWhile isBlank =
    n.sign.chars ++ (n.digits ++ n.rest) := by
  have hblanks : ∀ c ∈ n.blanks, isBlank c = true := by
    intro c hc
    rcases n.blank c hc with rfl | rfl <;> decide
  rw [text, String.toList_ofList, List.dropWhile_append_of_pos hblanks]
  cases n.sign with
  | minus => rfl
  | plus => rfl
  | absent =>
    obtain ⟨c, after, h, hc, -, -⟩ := n.exists_digit
    rw [Sign.chars, List.nil_append, h, List.dropWhile_cons_of_neg (by simp [hc])]

theorem ofString_text (n : Numeral) :
    ofString n.text = if n.sign = .minus then 0 else min n.value greatest := by
  have hinteger := ofInteger?_signed (n.sign = .minus) (some n.value)
  rw [ofString, ofChars_eq, leadingInteger?, n.dropWhile_isBlank, n.signedRun?_digits]
  simpa using hinteger

theorem ofString_mono {m n : Numeral} (hn : n.sign ≠ .minus) (h : m.value ≤ n.value) :
    ofString m.text ≤ ofString n.text := by
  rw [ofString_text, ofString_text, if_neg hn]
  split
  · exact Nat.zero_le _
  · omega

theorem ofString_toString (k : Nat) : ofString (toString k) = min k greatest := by
  rw [← text_ofNat, ofString_text, value_ofNat, if_neg (by simp [ofNat])]

end Numeral

/-- Behind any spaces and tabs, a number with a plus or without a sign gives its exact value as a
position, or the greatest position if the value is larger; with a minus it gives 0. Unless it has a
minus, a number never gives a smaller position than one of at most its value, one of fewer figures
or one that it goes on from. A position that is written out is read back. -/
theorem numerals_saturate :
    greatest = 2 ^ 64 - 1 ∧
    (∀ n : Numeral, ofString n.text = if n.sign = .minus then 0 else min n.value greatest) ∧
    (∀ m n : Numeral, n.sign ≠ .minus →
      (m.value ≤ n.value ∨ (figures m.digits).length < (figures n.digits).length ∨
        m.digits <+: n.digits) →
      ofString m.text ≤ ofString n.text) ∧
    (∀ k ≤ greatest, ofString (toString k) = k) := by
  refine ⟨rfl, Numeral.ofString_text, ?_, ?_⟩
  · rintro m n hn (hlarger | hlonger | ⟨more, hmore⟩)
    · exact Numeral.ofString_mono hn hlarger
    · have hlt := decimalValue_lt_of_figures m.digit n.digit hlonger
      exact Numeral.ofString_mono hn (Nat.le_of_lt hlt)
    · have hle := decimalValue_le_append m.digits more
      rw [hmore] at hle
      exact Numeral.ofString_mono hn hle
  · intro k hk
    rw [Numeral.ofString_toString, Nat.min_eq_left hk]

/-- One more than the greatest position, behind zeros, gives the greatest position; so does a number
of more figures, although fewer digits are written; and the greatest position is read back. -/
theorem numerals_saturate_behind_zeros :
    let m : Numeral := ⟨['\t', ' '], .plus, "000018446744073709551616".toList, ['p', 'x'],
      by simp, by decide, List.all_eq_true.mp (by decide), by simp⟩
    let n : Numeral := ⟨[], .absent, "999999999999999999999".toList, ['.', '5'],
      by simp, by decide, List.all_eq_true.mp (by decide), by simp⟩
    ofString m.text = greatest ∧ n.sign ≠ .minus ∧
    (figures m.digits).length < (figures n.digits).length ∧ ofString m.text ≤ ofString n.text ∧
    18446744073709551615 ≤ greatest ∧
    ofString (toString 18446744073709551615) = 18446744073709551615 := by
  intro m n
  obtain ⟨-, hvalue, hlonger, hback⟩ := numerals_saturate
  have hm : ofString m.text = greatest := (hvalue m).trans (by decide)
  have hfigures : (figures m.digits).length < (figures n.digits).length := by decide
  exact ⟨hm, by decide, hfigures, hlonger m n (by decide) (Or.inr (Or.inl hfigures)), by decide,
    hback 18446744073709551615 (by decide)⟩

end PatternScan.StartPosition
