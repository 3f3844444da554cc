import PatternScan.Cache.Statistics
import PatternScan.Number.Shortest
import PatternScan.Text.Unit

namespace PatternScan.Script

open Text (CodeUnit unitsOfString)

/-- What a program can create. -/
inductive Kind where
  | text
  | scanner
  | finder
  deriving DecidableEq, Repr

/-- What a program can ask of an object. -/
inductive Method where
  | content
  | length
  | utf8Bytes
  | hasMultiByte
  | toByte
  | toUnit
  | substring
  | patterns
  | findNow
  | find
  /-- Searches the text object with the given number. -/
  | findInText (text : Nat)
  | dispose
  | source
  | searchNow
  | search
  | testNow
  | test
  | free
  deriving DecidableEq, Repr

mutual

inductive Value where
  | undefined
  | null
  | bool (value : Bool)
  | number (value : Double)
  | bigint (value : Int)
  | string (units : List CodeUnit)
  | symbol (description : String)
  | array (elements : List Value)
  | object (members : List (String × Value))
  /-- An object whose conversion to text gives a value. -/
  | stringAs (value : Value)
  /-- An object whose conversion to text throws a value. -/
  | stringThrows (value : Value)
  | error (isTypeError : Bool) (message : String)
  | function (throws : Bool) (result : Value) (body : List Step)

inductive Step where
  | construct (kind : Kind) (arguments : List Value)
  | call (object : Nat) (method : Method) (arguments : List Value)
  | configure (settings : Value)
  | statistics

end

instance : Inhabited Value := ⟨.undefined⟩

abbrev Outcome := Except Value Value

namespace Value

def ofString (s : String) : Value := .string (unitsOfString s)

def ofNat (n : Nat) : Value := .number (Double.ofNat n)

def typeError (message : String) : Value := .error true message

def isObject : Value → Bool
  | .array _ => true
  | .object _ => true
  | .stringAs _ => true
  | .stringThrows _ => true
  | .error _ _ => true
  | .function _ _ _ => true
  | _ => false

def isFunction : Value → Bool
  | .function _ _ _ => true
  | _ => false

/-- A member of an object by its name; of two of one name the later counts. -/
def member? (v : Value) (name : String) : Option Value :=
  match v with
  | .object members => (members.reverse.find? fun m => m.1 == name).map Prod.snd
  | _ => none

end Value

mutual

/-- How deep functions are nested in a value's steps. -/
def Value.depth : Value → Nat
  | .array elements => Value.depthOfList elements
  | .object members => Value.depthOfMembers members
  | .stringAs value => value.depth
  | .stringThrows value => value.depth
  | .function _ result body => max result.depth (Step.depthOfList body + 1)
  | _ => 0

def Value.depthOfList : List Value → Nat
  | [] => 0
  | v :: rest => max v.depth (Value.depthOfList rest)

def Value.depthOfMembers : List (String × Value) → Nat
  | [] => 0
  | (_, v) :: rest => max v.depth (Value.depthOfMembers rest)

def Step.depth : Step → Nat
  | .construct _ arguments => Value.depthOfList arguments
  | .call _ _ arguments => Value.depthOfList arguments
  | .configure settings => settings.depth
  | .statistics => 0

def Step.depthOfList : List Step → Nat
  | [] => 0
  | step :: rest => max step.depth (Step.depthOfList rest)

end

end PatternScan.Script
