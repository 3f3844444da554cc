namespace PatternScan

inductive Double where
  | nan
  | infinite (negative : Bool)
  | finite (negative : Bool) (significand : Nat) (exponent : Int)
  deriving DecidableEq, Repr

namespace Double

/-- The quotient rounded to the nearest integer, a tie to the even one. -/
def roundedQuotient (numerator denominator : Nat) : Nat :=
  let q := numerator / denominator
  let r := numerator % denominator
  if denominator < 2 * r || (denominator == 2 * r && q % 2 == 1) then q + 1 else q

def minExponent : Int := -1074

def maxExponent : Int := 971

def scaleDown (numerator denominator : Nat) (exponent : Int) : Nat × Nat :=
  if 0 ≤ exponent then (numerator, denominator * Nat.pow 2 exponent.toNat)
  else (numerator * Nat.pow 2 (-exponent).toNat, denominator)

/-- The exponent at which the ratio has a significand of 53 bits, or the least exponent. -/
def exponentOfRatio (numerator denominator : Nat) : Int :=
  let guess := max ((numerator.log2 : Int) - denominator.log2 - 52) minExponent
  let (n, d) := scaleDown numerator denominator guess
  if n < d * Nat.pow 2 52 && minExponent < guess then guess - 1 else guess

def ofRatio (negative : Bool) (numerator denominator : Nat) : Double :=
  if numerator == 0 then .finite negative 0 minExponent
  else
    let exponent := exponentOfRatio numerator denominator
    let (n, d) := scaleDown numerator denominator exponent
    let significand := roundedQuotient n d
    let (significand, exponent) :=
      if significand == Nat.pow 2 53 then (Nat.pow 2 52, exponent + 1) else (significand, exponent)
    if maxExponent < exponent then .infinite negative
    else .finite negative significand exponent

/-- The number nearest to `digits * 10 ^ scale`. Far out of range the answer needs no division. -/
def ofDecimal (negative : Bool) (digits : Nat) (scale : Int) : Double :=
  let magnitude : Int := digits.log2 / 4 + scale
  if digits == 0 then .finite negative 0 minExponent
  else if 400 < magnitude then .infinite negative
  else if (digits.log2 : Int) + scale < -400 then .finite negative 0 minExponent
  else if 0 ≤ scale then ofRatio negative (digits * Nat.pow 10 scale.toNat) 1
  else ofRatio negative digits (Nat.pow 10 (-scale).toNat)

def ofNat (n : Nat) : Double := ofDecimal false n 0

def digitsValue (digits : List Char) : Nat :=
  digits.foldl (fun n c => n * 10 + (c.toNat - '0'.toNat)) 0

def readSign : List Char → Bool × List Char
  | '-' :: rest => (true, rest)
  | '+' :: rest => (false, rest)
  | rest => (false, rest)

def readScale? : List Char → Option Int
  | [] => some 0
  | mark :: rest =>
    if mark == 'e' || mark == 'E' then
      let (negative, digits) := readSign rest
      if digits.isEmpty || !digits.all Char.isDigit then none
      else
        let value : Int := digitsValue digits
        some (if negative then -value else value)
    else none

def readUnsigned? (negative : Bool) (text : List Char) : Option Double :=
  let whole := text.takeWhile Char.isDigit
  let rest := text.dropWhile Char.isDigit
  let (fraction, rest) : List Char × List Char :=
    match rest with
    | '.' :: rest => (rest.takeWhile Char.isDigit, rest.dropWhile Char.isDigit)
    | rest => ([], rest)
  if whole.isEmpty && fraction.isEmpty then none
  else
    (readScale? rest).map fun scale =>
      ofDecimal negative (digitsValue (whole ++ fraction)) (scale - fraction.length)

def read? (text : String) : Option Double :=
  let (negative, rest) := readSign text.toList
  if rest == "NaN".toList then some .nan
  else if rest == "Infinity".toList then some (.infinite negative)
  else readUnsigned? negative rest

def wholePart (significand : Nat) (exponent : Int) : Nat :=
  if 0 ≤ exponent then significand * Nat.pow 2 exponent.toNat
  else significand / Nat.pow 2 (-exponent).toNat

def isWhole (significand : Nat) (exponent : Int) : Bool :=
  0 ≤ exponent || significand % Nat.pow 2 (-exponent).toNat == 0

def truncated? : Double → Option Int
  | .finite negative significand exponent =>
    let n : Int := wholePart significand exponent
    some (if negative then -n else n)
  | _ => none

def maxSafeInteger : Nat := Nat.pow 2 53 - 1

/-- The value of a number without a fraction whose neighbours are told apart too. -/
def safeInteger? : Double → Option Int
  | .finite negative significand exponent =>
    let n := wholePart significand exponent
    if isWhole significand exponent && n ≤ maxSafeInteger then
      some (if negative then -(n : Int) else n)
    else none
  | _ => none

/-- The number without its fraction, clamped between two bounds; 0 if it is none. -/
def clampedInteger (least greatest : Int) : Double → Int
  | .nan => 0
  | .infinite negative => if negative then least else greatest
  | .finite negative significand exponent =>
    let n : Int := wholePart significand exponent
    max least (min greatest (if negative then -n else n))

end Double
end PatternScan
