import PatternScan.Number.Double
import PatternScan.Text.Blank

namespace PatternScan.StartPosition

open Text (isBlank)

def greatest : Nat := UInt64.size - 1

/-- A number without its fraction; not-a-number and the infinities give 0. -/
def ofDouble (value : Double) : Nat :=
  match value.truncated? with
  | some n => min n.toNat greatest
  | none => 0

/-- The value after one more digit, held at the greatest position. -/
def appendDigit (value : Nat) (digit : Char) : Nat :=
  min (min (value * 10) greatest + (digit.toNat - '0'.toNat)) greatest

def ofDigits (text : List Char) : Nat := (text.takeWhile Char.isDigit).foldl appendDigit 0

def ofChars (text : List Char) : Nat :=
  match text.dropWhile isBlank with
  | '-' :: _ => 0
  | '+' :: rest => ofDigits rest
  | rest => ofDigits rest

def ofString (text : String) : Nat := ofChars text.toList

end PatternScan.StartPosition
