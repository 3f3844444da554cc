import PatternScan.Number.Double

namespace PatternScan.Double

/-- The reals that round to a positive number, as numerators over one denominator. -/
structure Interval where
  low : Nat
  value : Nat
  high : Nat
  denominator : Nat
  closed : Bool

/-- The lower neighbour is half as far away where the exponent of the number changes. -/
def interval (significand : Nat) (exponent : Int) : Interval :=
  let gap := if significand == Nat.pow 2 52 && minExponent < exponent then 1 else 2
  let up := Nat.pow 2 (exponent - 2).toNat
  let down := Nat.pow 2 (2 - exponent).toNat
  ⟨(4 * significand - gap) * up, 4 * significand * up, (4 * significand + 2) * up, down,
    significand % 2 == 0⟩

def Interval.holds (i : Interval) (digits : Nat) (scale : Int) : Bool :=
  let n := digits * Nat.pow 10 scale.toNat * i.denominator
  let unit := Nat.pow 10 (-scale).toNat
  if i.closed then i.low * unit ≤ n && n ≤ i.high * unit
  else i.low * unit < n && n < i.high * unit

/-- The multiple of `10 ^ scale` that lies in the interval and is nearest to its value. -/
def Interval.nearest? (i : Interval) (scale : Int) : Option Nat :=
  let unit := Nat.pow 10 scale.toNat * i.denominator
  let value := i.value * Nat.pow 10 (-scale).toNat
  let below := value / unit
  let above := below + 1
  let rounded := roundedQuotient value unit
  if i.holds rounded scale then some rounded
  else if i.holds below scale then some below
  else if i.holds above scale then some above
  else none

def Interval.places (i : Interval) : Int :=
  if i.denominator ≤ i.value then (Nat.toDigits 10 (i.value / i.denominator)).length
  else
    let zeros := (List.range 400).takeWhile (fun k => i.value * Nat.pow 10 (k + 1) < i.denominator)
    0 - (zeros.length : Int)

/-- The shortest decimal in the interval: its digits, and the place of the point before them. -/
def Interval.shortest (i : Interval) : List Char × Int :=
  let places := i.places
  let found := (List.range 17).findSome? (fun (k : Nat) =>
    let scale : Int := places - (k + 1)
    (i.nearest? scale).map fun n => (n, scale))
  match found with
  | some (n, scale) =>
    let digits := Nat.toDigits 10 n
    let kept := (digits.reverse.dropWhile (· == '0')).reverse
    (kept, scale + digits.length)
  | none => ([], places)

def placed (digits : List Char) (point : Int) : List Char :=
  let count : Int := digits.length
  if count ≤ point && point ≤ 21 then digits ++ List.replicate (point - count).toNat '0'
  else if 0 < point && point ≤ 21 then
    digits.take point.toNat ++ '.' :: digits.drop point.toNat
  else if -6 < point && point ≤ 0 then
    '0' :: '.' :: List.replicate (-point).toNat '0' ++ digits
  else
    let power := point - 1
    let sign := if power < 0 then '-' else '+'
    let fraction := if count ≤ 1 then [] else '.' :: digits.drop 1
    digits.take 1 ++ fraction ++ 'e' :: sign :: Nat.toDigits 10 power.natAbs

def text : Double → String
  | .nan => "NaN"
  | .infinite negative => if negative then "-Infinity" else "Infinity"
  | .finite negative significand exponent =>
    if significand == 0 then "0"
    else
      let (digits, point) := (interval significand exponent).shortest
      String.ofList ((if negative then ['-'] else []) ++ placed digits point)

end PatternScan.Double
