import PatternScan.Number.Double
import PatternScan.Text.Utf8

namespace PatternScan.Json

inductive Fault where
  /-- No JSON text goes on like this. -/
  | malformed
  /-- JSON so far, but not of the expected shape. -/
  | mismatched
  /-- The text ends too early. -/
  | cutOff
  deriving DecidableEq, Repr

/-- Readers consume bytes from the front of the text. -/
abbrev Reader := StateT (List UInt8) (Except Fault)

namespace Reader

def malformed {α : Type} : Reader α := throw .malformed

def mismatched {α : Type} : Reader α := throw .mismatched

def cutOff {α : Type} : Reader α := throw .cutOff

def peek? : Reader (Option UInt8) := do return (← get).head?

def next? : Reader (Option UInt8) := do
  match ← get with
  | [] => return none
  | b :: rest =>
    set rest
    return some b

def skip : Reader Unit := modify List.tail

/-- The number of bytes left, which bounds every loop. -/
def left : Reader Nat := do return (← get).length

def byte (c : Char) : UInt8 := UInt8.ofNat c.toNat

def isByte (b : Option UInt8) (c : Char) : Bool := b == some (byte c)

def isDigit (b : UInt8) : Bool := byte '0' ≤ b && b ≤ byte '9'

def isSpace (b : UInt8) : Bool :=
  b == byte ' ' || b == byte '\n' || b == byte '\t' || b == byte '\r'

def skipSpaces : Reader Unit := modify fun bytes => bytes.dropWhile isSpace

def peekPastSpaces? : Reader (Option UInt8) := do
  skipSpaces
  peek?

def digits : Reader (List UInt8) := do
  let taken := (← get).takeWhile isDigit
  modify fun bytes => bytes.drop taken.length
  return taken

def digitsValue (ds : List UInt8) : Nat :=
  ds.foldl (fun n d => n * 10 + (d - byte '0').toNat) 0

def word : List Char → Reader Unit
  | [] => return
  | c :: rest => do
    match ← next? with
    | none => cutOff
    | some b => if b == byte c then word rest else malformed

def hexValue? (b : UInt8) : Option Nat :=
  if isDigit b then some (b - byte '0').toNat
  else if byte 'a' ≤ b && b ≤ byte 'f' then some ((b - byte 'a').toNat + 10)
  else if byte 'A' ≤ b && b ≤ byte 'F' then some ((b - byte 'A').toNat + 10)
  else none

def hexQuad : Reader Nat := do
  match ← get with
  | a :: b :: c :: d :: rest =>
    set rest
    match hexValue? a, hexValue? b, hexValue? c, hexValue? d with
    | some a, some b, some c, some d => return ((a * 16 + b) * 16 + c) * 16 + d
    | _, _, _, _ => malformed
  | _ => cutOff

def simpleEscape? (b : UInt8) : Option Char :=
  if b == byte '"' then some '"'
  else if b == byte '\\' then some '\\'
  else if b == byte '/' then some '/'
  else if b == byte 'b' then some '\x08'
  else if b == byte 'f' then some '\x0c'
  else if b == byte 'n' then some '\n'
  else if b == byte 'r' then some '\r'
  else if b == byte 't' then some '\t'
  else none

def expectInString (c : Char) : Reader Unit := do
  match ← next? with
  | none => cutOff
  | some b => if b == byte c then return else malformed

/-- A character given by its code units; surrogates must come in pairs. -/
def unicodeEscape : Reader Char := do
  let high ← hexQuad
  if 0xDC00 ≤ high && high ≤ 0xDFFF then malformed
  else if high < 0xD800 || 0xDBFF < high then return Char.ofNat high
  else
    expectInString '\\'
    expectInString 'u'
    let low ← hexQuad
    if 0xDC00 ≤ low && low ≤ 0xDFFF then
      return Char.ofNat (0x10000 + (high - 0xD800) * 0x400 + (low - 0xDC00))
    else malformed

def escape : Reader (List UInt8) := do
  match ← next? with
  | none => cutOff
  | some b =>
    if b == byte 'u' then return String.utf8EncodeChar (← unicodeEscape)
    else
      match simpleEscape? b with
      | some c => return String.utf8EncodeChar c
      | none => malformed

/-- What follows a backslash, in a string that is passed over. -/
def skippedEscape : Reader (List UInt8) := do
  match ← next? with
  | none => cutOff
  | some b =>
    if b == byte 'u' then
      let _ ← hexQuad
      return []
    else if (simpleEscape? b).isSome then return []
    else malformed

/-- The rest of a string up to its closing quote; `taken` holds what is behind, last byte first. -/
def stringRest (escape : Reader (List UInt8)) (taken : List UInt8) : Nat → Reader (List UInt8)
  | 0 => cutOff
  | fuel + 1 => do
    match ← next? with
    | none => cutOff
    | some b =>
      if b == byte '"' then return taken.reverse
      else if b == byte '\\' then
        let more ← escape
        stringRest escape (more.reverse ++ taken) fuel
      else if b < 0x20 then malformed
      else stringRest escape (b :: taken) fuel

def stringTail : Reader String := do
  return Text.Utf8.lossy (← stringRest escape [] ((← left) + 1))

def skipStringTail : Reader Unit := do
  let _ ← stringRest skippedEscape [] ((← left) + 1)

inductive Number where
  | natural (n : Nat)
  /-- Negative, or with a fraction or an exponent, or of too many digits. -/
  | other
  deriving DecidableEq, Repr

def greatestNatural : Nat := UInt64.size - 1

def wholeDigits : Reader (List UInt8) := do
  match ← peek? with
  | none => cutOff
  | some b =>
    if b == byte '0' then
      skip
      match ← peek? with
      | some d => if isDigit d then malformed else return [b]
      | none => return [b]
    else if isDigit b then digits
    else malformed

def fractionDigits : Reader (List UInt8) := do
  let ds ← digits
  if ds.isEmpty then
    match ← peek? with
    | none => cutOff
    | some _ => malformed
  else return ds

def exponentValue : Reader Int := do
  let sign ← peek?
  if isByte sign '+' || isByte sign '-' then skip
  match ← peek? with
  | none => cutOff
  | some b =>
    if isDigit b then
      let value : Int := digitsValue (← digits)
      return if isByte sign '-' then -value else value
    else malformed

/-- A number beyond the range of floating point is no number at all. -/
def checkRange (significand : Nat) (scale : Int) : Reader Number :=
  match Double.ofDecimal false significand scale with
  | .infinite _ => malformed
  | _ => return .other

def numberTail (negative : Bool) : Reader Number := do
  let whole ← wholeDigits
  let fraction ←
    if isByte (← peek?) '.' then do
      skip
      fractionDigits
    else pure []
  let mark ← peek?
  if isByte mark 'e' || isByte mark 'E' then
    skip
    let scale ← exponentValue
    checkRange (digitsValue (whole ++ fraction)) (scale - fraction.length)
  else if fraction.isEmpty then
    let n := digitsValue whole
    if n ≤ greatestNatural then return if negative then .other else .natural n
    else checkRange n 0
  else checkRange (digitsValue (whole ++ fraction)) (0 - fraction.length)

/-- Passes over a number whose sign is behind; its size does not matter. -/
def skipNumberTail : Reader Unit := do
  match ← peek? with
  | none => malformed
  | some b =>
    if isDigit b then
      let _ ← wholeDigits
    else malformed
  if isByte (← peek?) '.' then
    skip
    if (← digits).isEmpty then malformed
  let mark ← peek?
  if isByte mark 'e' || isByte mark 'E' then
    skip
    let sign ← peek?
    if isByte sign '+' || isByte sign '-' then skip
    if (← digits).isEmpty then malformed

/-- Reads enough of a value of the wrong kind to tell that it is one. -/
def refuse {α : Type} : Reader α := do
  match ← peek? with
  | none => malformed
  | some b =>
    if b == byte 'n' then
      skip
      word ['u', 'l', 'l']
      mismatched
    else if b == byte 't' then
      skip
      word ['r', 'u', 'e']
      mismatched
    else if b == byte 'f' then
      skip
      word ['a', 'l', 's', 'e']
      mismatched
    else if b == byte '-' then
      skip
      let _ ← numberTail true
      mismatched
    else if isDigit b then
      let _ ← numberTail false
      mismatched
    else if b == byte '"' then
      skip
      let _ ← stringTail
      mismatched
    else if b == byte '[' || b == byte '\x7b' then mismatched
    else malformed

/-- Passes over a value that has no parts, or opens one that has; the answer is its bracket. -/
def skipScalar : Reader (Option UInt8) := do
  match ← peekPastSpaces? with
  | none => cutOff
  | some b =>
    if b == byte 'n' then
      skip
      word ['u', 'l', 'l']
      return none
    else if b == byte 't' then
      skip
      word ['r', 'u', 'e']
      return none
    else if b == byte 'f' then
      skip
      word ['a', 'l', 's', 'e']
      return none
    else if b == byte '-' then
      skip
      skipNumberTail
      return none
    else if isDigit b then
      skipNumberTail
      return none
    else if b == byte '"' then
      skip
      skipStringTail
      return none
    else if b == byte '[' || b == byte '\x7b' then
      skip
      return some b
    else malformed

def closing (bracket : UInt8) : UInt8 := if bracket == byte '[' then byte ']' else byte '\x7d'

def skipKey : Reader Unit := do
  match ← peekPastSpaces? with
  | none => cutOff
  | some b =>
    if b == byte '"' then
      skip
      skipStringTail
    else malformed
  match ← peekPastSpaces? with
  | none => cutOff
  | some b => if b == byte ':' then skip else malformed

/-- Closes brackets as far as they close here. The answer holds those still open, the innermost
first; `filled` tells whether it has a member behind it, so that a comma may follow. -/
def skipClosings (filled : Bool) : List UInt8 → Reader (List UInt8)
  | [] => return []
  | bracket :: outer => do
    match ← peekPastSpaces? with
    | none => cutOff
    | some b =>
      if b == closing bracket then
        skip
        skipClosings true outer
      else if filled then
        if b == byte ',' then
          skip
          return bracket :: outer
        else malformed
      else return bracket :: outer

def skipOpen (brackets : List UInt8) : Nat → Reader Unit
  | 0 => cutOff
  | fuel + 1 => do
    match ← skipScalar with
    | some bracket => advance false (bracket :: brackets) fuel
    | none => advance true brackets fuel
where
  advance (filled : Bool) (brackets : List UInt8) (fuel : Nat) : Reader Unit := do
    match ← skipClosings filled brackets with
    | [] => return
    | bracket :: outer =>
      if bracket == byte '\x7b' then skipKey
      skipOpen (bracket :: outer) fuel

def skipValue : Reader Unit := do skipOpen [] ((← left) + 1)

def natural : Reader Nat := do
  match ← peekPastSpaces? with
  | none => cutOff
  | some b =>
    if b == byte '-' then
      skip
      let _ ← numberTail true
      mismatched
    else if isDigit b then
      match ← numberTail false with
      | .natural n => return n
      | .other => mismatched
    else refuse

def flag : Reader Bool := do
  match ← peekPastSpaces? with
  | none => cutOff
  | some b =>
    if b == byte 't' then
      skip
      word ['r', 'u', 'e']
      return true
    else if b == byte 'f' then
      skip
      word ['a', 'l', 's', 'e']
      return false
    else refuse

def text : Reader String := do
  match ← peekPastSpaces? with
  | none => cutOff
  | some b =>
    if b == byte '"' then
      skip
      stringTail
    else refuse

/-- Whether a list has another element here; `first` if none is behind. -/
def anotherElement (first : Bool) : Reader Bool := do
  match ← peekPastSpaces? with
  | none => cutOff
  | some b =>
    if b == byte ']' then return false
    else if first then return true
    else if b == byte ',' then
      skip
      match ← peekPastSpaces? with
      | none => cutOff
      | some b => if b == byte ']' then malformed else return true
    else malformed

def listEnd : Reader Unit := do
  match ← peekPastSpaces? with
  | none => cutOff
  | some b => if b == byte ']' then skip else malformed

def elements {α : Type} (element : Reader α) (first : Bool) : Nat → Reader (List α)
  | 0 => cutOff
  | fuel + 1 => do
    if ← anotherElement first then
      let value ← element
      return value :: (← elements element false fuel)
    else return []

def list {α : Type} (element : Reader α) : Reader (List α) := do
  match ← peekPastSpaces? with
  | none => cutOff
  | some b =>
    if b == byte '[' then
      skip
      let values ← elements element true ((← left) + 1)
      listEnd
      return values
    else refuse

structure Field (α : Type) where
  name : String
  value : Reader α
  /-- What stands for the field where it is absent. -/
  absent : Option α

def anotherKey (first : Bool) : Reader Bool := do
  match ← peekPastSpaces? with
  | none => cutOff
  | some b =>
    if b == byte '\x7d' then return false
    else if first then
      if b == byte '"' then return true else malformed
    else if b == byte ',' then
      skip
      match ← peekPastSpaces? with
      | none => cutOff
      | some b => if b == byte '"' then return true else malformed
    else malformed

def colon : Reader Unit := do
  match ← peekPastSpaces? with
  | none => cutOff
  | some b => if b == byte ':' then skip else malformed

/-- The members of an object from here on, with the values found so far. A field that is given twice
is refused before its value; a member of another name is passed over. -/
def members {α : Type} (fields : List (Field α)) (found : List (String × α)) (first : Bool) :
    Nat → Reader (List (String × α))
  | 0 => cutOff
  | fuel + 1 => do
    if ← anotherKey first then
      skip
      let key ← stringTail
      match fields.find? fun f => f.name == key with
      | some field =>
        if found.any fun entry => entry.1 == key then mismatched
        else
          colon
          let value ← field.value
          members fields ((key, value) :: found) false fuel
      | none =>
        colon
        skipValue
        members fields found false fuel
    else return found

def objectEnd : Reader Unit := do
  match ← peekPastSpaces? with
  | none => cutOff
  | some b => if b == byte '\x7d' then skip else malformed

/-- The values of all fields in order; one that is absent needs a value that stands for it. -/
def complete {α : Type} (fields : List (Field α)) (found : List (String × α)) : Reader (List α) :=
  fields.mapM fun field =>
    match (found.find? fun entry => entry.1 == field.name).map Prod.snd <|> field.absent with
    | some value => pure value
    | none => mismatched

/-- The fields of a record that is written as a list. -/
def inOrder {α : Type} (first : Bool) : List (Field α) → Reader (List α)
  | [] => return []
  | field :: rest => do
    if ← anotherElement first then
      let value ← field.value
      return value :: (← inOrder false rest)
    else complete (field :: rest) []

def record {α : Type} (fields : List (Field α)) : Reader (List α) := do
  match ← peekPastSpaces? with
  | none => cutOff
  | some b =>
    if b == byte '[' then
      skip
      let values ← inOrder true fields
      listEnd
      return values
    else if b == byte '\x7b' then
      skip
      let found ← members fields [] true ((← left) + 1)
      let values ← complete fields found
      objectEnd
      return values
    else refuse

def readAll {α : Type} (reader : Reader α) (source : String) : Except Fault α := do
  let (value, rest) ← StateT.run reader source.toUTF8.toList
  if rest.all isSpace then return value else throw .malformed

end Reader
end PatternScan.Json
