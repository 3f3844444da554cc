import PatternScan.Span

namespace PatternScan

/-- A library of regular expressions, whose compiled expressions have type `ρ`. -/
class Regex (ρ : Type) where
  /-- A refusal comes with the library's own words. -/
  compile : String → Except String ρ
  /-- The captures that a search from a byte of the text finds. -/
  capturesAt : ρ → Array UInt8 → Nat → Option Captures

namespace Regex

variable (ρ : Type) [Regex ρ]

/-- What is found begins where the search starts or later. -/
structure NeverBefore : Prop where
  le_start : ∀ (r : ρ) (text : Array UInt8) (start : Nat) (captures : Captures),
    start ≤ text.size → capturesAt r text start = some captures →
      ∃ s, captures.start? = some s ∧ start ≤ s

/-- All spans that are found are parts of the text. -/
structure InText : Prop where
  bounds : ∀ (r : ρ) (text : Array UInt8) (start : Nat) (captures : Captures),
    start ≤ text.size → capturesAt r text start = some captures →
      ∀ span, some span ∈ captures → span.start ≤ span.stop ∧ span.stop ≤ text.size

/-- What is found is the match at the leftmost position that has one, and the match at a position
depends on the expression, the text and the position only. -/
structure Leftmost (matchAt? : ρ → Array UInt8 → Nat → Option Captures) : Prop where
  start_eq : ∀ (r : ρ) (text : Array UInt8) (position : Nat) (captures : Captures),
    matchAt? r text position = some captures → captures.start? = some position
  found_iff : ∀ (r : ρ) (text : Array UInt8) (start : Nat) (captures : Captures),
    start ≤ text.size → (capturesAt r text start = some captures ↔
      ∃ position, start ≤ position ∧ position ≤ text.size ∧
        matchAt? r text position = some captures ∧
        ∀ earlier, start ≤ earlier → earlier < position → matchAt? r text earlier = none)

end Regex
end PatternScan
