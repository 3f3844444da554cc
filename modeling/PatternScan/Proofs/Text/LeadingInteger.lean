import Mathlib.Algebra.Order.Ring.Nat
import PatternScan.Text.StartPosition
import PatternScan.Unicode.CategoryRanges
import PatternScan.Unicode.CodeSet

namespace PatternScan.StartPosition

open Text (isBlank)

def digitRun? (text : List Char) : Option Nat :=
  match text.takeWhile Char.isDigit with
  | [] => none
  | digits => some (Nat.ofDigitChars 10 digits 0)

def signed (negative : Bool) (n : Nat) : Int := if negative then -n else n

def signedRun? : List Char → Option Int
  | '-' :: rest => (digitRun? rest).map (signed true)
  | '+' :: rest => (digitRun? rest).map (signed false)
  | text => (digitRun? text).map (signed false)

/-- The integer that a text begins with, after any blanks. -/
def leadingInteger? (blank : Char → Bool) (text : List Char) : Option Int :=
  signedRun? (text.dropWhile blank)

/-- White space and line terminators of a script host: the characters U+0009 to U+000D, U+2028,
U+2029, U+FEFF and all space separators. -/
def isHostBlank (c : Char) : Bool :=
  let n := c.toNat
  (0x09 ≤ n && n ≤ 0x0D) || n == 0x2028 || n == 0x2029 || n == 0xFEFF ||
    CodeSet.contains Unicode.Ranges.spaceSeparator n

/-- A position that is an integer: at least 0 and at most the greatest; no integer gives 0. -/
def ofInteger? : Option Int → Nat
  | none => 0
  | some n => min n.toNat greatest

theorem ofInteger?_signed (negative : Bool) (n : Option Nat) :
    ofInteger? (n.map (signed negative)) = if negative then 0 else min (n.getD 0) greatest := by
  cases n <;> cases negative <;> simp [ofInteger?, signed]

/-- Holding each value at the greatest position comes to the same as holding the last one. -/
theorem foldl_appendDigit (digits : List Char) (value : Nat) :
    digits.foldl appendDigit (min value greatest) =
      min (Nat.ofDigitChars 10 digits value) greatest := by
  induction digits generalizing value with
  | nil => rfl
  | cons d rest ih =>
    have hstep : appendDigit (min value greatest) d =
        min (10 * value + (d.toNat - '0'.toNat)) greatest := by
      rw [appendDigit]
      omega
    rw [List.foldl_cons, hstep, ih, Nat.ofDigitChars_cons]

theorem ofDigits_eq (text : List Char) :
    ofDigits text = min ((digitRun? text).getD 0) greatest := by
  have hfold := foldl_appendDigit (text.takeWhile Char.isDigit) 0
  rw [Nat.zero_min] at hfold
  rw [ofDigits, hfold, digitRun?]
  split
  · rename_i hnone
    rw [hnone]
    rfl
  · rfl

/-- A position is the integer that the text begins with after its blanks. -/
theorem ofChars_eq (text : List Char) :
    ofChars text = ofInteger? (leadingInteger? isBlank text) := by
  unfold ofChars leadingInteger?
  generalize text.dropWhile isBlank = text
  fun_cases signedRun? text with
  | case1 rest => exact (ofInteger?_signed true _).symm
  | case2 rest => exact (ofDigits_eq rest).trans (ofInteger?_signed false _).symm
  | case3 text hminus hplus =>
    rw [ofInteger?_signed, if_neg Bool.false_ne_true, ← ofDigits_eq]
    split
    · exact absurd rfl (hminus _)
    · exact absurd rfl (hplus _)
    · rfl

theorem contains_spaceSeparator_iff (n : Nat) :
    CodeSet.contains Unicode.Ranges.spaceSeparator n = true ↔ n = 0x20 ∨ n = 0xA0 ∨ n = 0x1680 ∨
      0x2000 ≤ n ∧ n ≤ 0x200A ∨ n = 0x202F ∨ n = 0x205F ∨ n = 0x3000 := by
  simp only [Unicode.Ranges.spaceSeparator, CodeSet.contains]
  split_ifs <;> simp <;> omega

theorem isBlank_iff (c : Char) :
    isBlank c = true ↔ c = '\u0085' ∨ c ≠ '\uFEFF' ∧ isHostBlank c = true := by
  have hnext : c = '\u0085' ↔ c.toNat = 0x85 := Char.toNat_inj.symm
  have hmark : c = '\uFEFF' ↔ c.toNat = 0xFEFF := Char.toNat_inj.symm
  simp only [isBlank, isHostBlank, hnext, hmark, ne_eq, Bool.or_eq_true, Bool.and_eq_true,
    decide_eq_true_eq, beq_iff_eq, contains_spaceSeparator_iff]
  omega

def afterBlanks (text : List Char) : List Char :=
  text.dropWhile fun c => isBlank c && isHostBlank c

theorem dropWhile_afterBlanks {blank : Char → Bool}
    (hall : ∀ c, (isBlank c && isHostBlank c) = true → blank c = true) (text : List Char) :
    (afterBlanks text).dropWhile blank = text.dropWhile blank := by
  induction text with
  | nil => rfl
  | cons c rest ih =>
    unfold afterBlanks at ih ⊢
    rw [List.dropWhile_cons]
    split
    · rename_i hc
      rw [ih, List.dropWhile_cons, if_pos (hall c hc)]
    · rfl

theorem leadingInteger?_eq {blank : Char → Bool}
    (hall : ∀ c, (isBlank c && isHostBlank c) = true → blank c = true) (text : List Char) :
    leadingInteger? blank text = signedRun? ((afterBlanks text).dropWhile blank) := by
  rw [leadingInteger?, dropWhile_afterBlanks hall]

theorem leadingInteger?_isBlank (text : List Char) :
    leadingInteger? isBlank text = signedRun? ((afterBlanks text).dropWhile isBlank) :=
  leadingInteger?_eq (fun _ h => (Bool.and_eq_true_iff.mp h).1) text

theorem leadingInteger?_isHostBlank (text : List Char) :
    leadingInteger? isHostBlank text = signedRun? ((afterBlanks text).dropWhile isHostBlank) :=
  leadingInteger?_eq (fun _ h => (Bool.and_eq_true_iff.mp h).2) text

/-- What is left begins with no blank of either kind, or with one of two characters. -/
theorem not_blank_of_afterBlanks {text rest : List Char} {c : Char}
    (h : afterBlanks text = c :: rest) (hnext : c ≠ '\u0085') (hmark : c ≠ '\uFEFF') :
    isBlank c = false ∧ isHostBlank c = false := by
  have hnot := List.head?_dropWhile_not (fun c => isBlank c && isHostBlank c) text
  rw [show text.dropWhile _ = c :: rest from h] at hnot
  have hiff := isBlank_iff c
  simp only [hnext, hmark, ne_eq, not_false_eq_true, true_and, false_or] at hiff
  rw [← Bool.eq_iff_iff] at hiff
  simpa [hiff] using hnot

/-- Every text gives the integer that it begins with as a position, where the blanks are those of
Unicode. That is the integer a script host reads, unless one of two characters is met behind the
blanks that both have: behind U+0085 the host reads no integer, and behind U+FEFF the position is 0,
whatever follows. -/
theorem ofString_eq_leadingInteger (text : String) :
    let first := (afterBlanks text.toList).head?
    ofString text = ofInteger? (leadingInteger? isBlank text.toList) ∧
    (first ≠ some '\u0085' ∧ first ≠ some '\uFEFF' →
      ofString text = ofInteger? (leadingInteger? isHostBlank text.toList)) ∧
    (first = some '\u0085' → leadingInteger? isHostBlank text.toList = none) ∧
    (first = some '\uFEFF' → ofString text = 0) := by
  intro first
  have hread : ofString text = ofInteger? (leadingInteger? isBlank text.toList) := ofChars_eq _
  refine ⟨hread, ?_⟩
  rw [hread, leadingInteger?_isBlank, leadingInteger?_isHostBlank]
  cases h : afterBlanks text.toList with
  | nil => simp [first, h]
  | cons c rest =>
    have hfirst : first = some c := congrArg List.head? h
    refine ⟨fun ⟨hnext, hmark⟩ => ?_, fun hnext => ?_, fun hmark => ?_⟩
    · have hneither := not_blank_of_afterBlanks h (fun hc => hnext (hc ▸ hfirst))
        (fun hc => hmark (hc ▸ hfirst))
      simp only [List.dropWhile_cons, hneither, Bool.false_eq_true, if_false]
    · obtain rfl : c = '\u0085' := Option.some.inj (hfirst.symm.trans hnext)
      rfl
    · obtain rfl : c = '\uFEFF' := Option.some.inj (hfirst.symm.trans hmark)
      rfl

/-- A position after U+0085 that a host does not read, and one after U+FEFF that it does. -/
theorem ofString_ne_leadingInteger :
    ofString "\u00855" = 5 ∧ leadingInteger? isHostBlank "\u00855".toList = none ∧
    ofString "\uFEFF5" = 0 ∧ leadingInteger? isHostBlank "\uFEFF5".toList = some 5 := by
  decide

end PatternScan.StartPosition
