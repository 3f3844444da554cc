namespace PatternScan.Text

abbrev CodeUnit := UInt16

/-- The character that stands for what cannot be decoded. -/
def replacement : Char := '\uFFFD'

namespace CodeUnit

def isHigh (u : CodeUnit) : Bool := 0xD800 ≤ u && u ≤ 0xDBFF

def isLow (u : CodeUnit) : Bool := 0xDC00 ≤ u && u ≤ 0xDFFF

def isAscii (u : CodeUnit) : Bool := u < 0x80

/-- The supplementary character of a high and a low surrogate. -/
def pair (high low : CodeUnit) : Char :=
  Char.ofNat (0x10000 + (high.toNat - 0xD800) * 0x400 + (low.toNat - 0xDC00))

def alone (u : CodeUnit) : Char :=
  if u.isHigh || u.isLow then replacement else Char.ofNat u.toNat

end CodeUnit

/-- One character of a text and the number of code units that spell it. -/
structure Piece where
  char : Char
  width : Nat
  deriving DecidableEq, Repr

/-- The characters of a text, in order. -/
def pieces : List CodeUnit → List Piece
  | [] => []
  | [u] => [⟨u.alone, 1⟩]
  | u :: v :: rest =>
    if u.isHigh && v.isLow then ⟨CodeUnit.pair u v, 2⟩ :: pieces rest
    else ⟨u.alone, 1⟩ :: pieces (v :: rest)

/-- The text as characters; an unpaired surrogate is read as U+FFFD. -/
def lossyString (units : List CodeUnit) : String :=
  String.ofList ((pieces units).map Piece.char)

/-- The code units of one character: two from U+10000 on. -/
def unitsOfChar (c : Char) : List CodeUnit :=
  if c.toNat < 0x10000 then [UInt16.ofNat c.toNat]
  else
    let v := c.toNat - 0x10000
    [UInt16.ofNat (0xD800 + v / 0x400), UInt16.ofNat (0xDC00 + v % 0x400)]

def unitsOfString (s : String) : List CodeUnit := s.toList.flatMap unitsOfChar

@[simp] theorem pieces_nil : pieces [] = [] := rfl

def unitCount : List Piece → Nat
  | [] => 0
  | p :: rest => p.width + unitCount rest

/-- Every code unit belongs to exactly one character. -/
theorem unitCount_pieces (units : List CodeUnit) : unitCount (pieces units) = units.length := by
  fun_induction pieces units with
  | case1 => rfl
  | case2 => rfl
  | case3 u v rest h ih => simp [unitCount, ih]; omega
  | case4 u v rest h ih => simp [unitCount, ih]; omega

end PatternScan.Text
