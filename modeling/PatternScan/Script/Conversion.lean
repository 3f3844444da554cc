import PatternScan.Config
import PatternScan.Scanner.Finder
import PatternScan.Script.Value
import PatternScan.Text.StartPosition

namespace PatternScan.Script

open Text (CodeUnit lossyString unitsOfString)

namespace Value

def isAbsent : Value → Bool
  | .undefined => true
  | .null => true
  | _ => false

def isSymbol : Value → Bool
  | .symbol _ => true
  | _ => false

def errorText (isTypeError : Bool) (message : String) : String :=
  let kind := if isTypeError then "TypeError" else "Error"
  if message.isEmpty then kind else kind ++ ": " ++ message

mutual

def text : Value → Except Value (List CodeUnit)
  | .undefined => .ok (unitsOfString "undefined")
  | .null => .ok (unitsOfString "null")
  | .bool value => .ok (unitsOfString (if value then "true" else "false"))
  | .number value => .ok (unitsOfString value.text)
  | .bigint value => .ok (unitsOfString (toString value))
  | .string units => .ok units
  | .symbol description => .ok (unitsOfString ("Symbol(" ++ description ++ ")"))
  | .array elements => joined elements
  | .object _ => .ok (unitsOfString "[object Object]")
  | .stringAs value =>
    if value.isObject then .error (typeError "Cannot convert object to primitive value")
    else text value
  | .stringThrows value => .error value
  | .error isTypeError message => .ok (unitsOfString (errorText isTypeError message))
  | .function _ _ _ => .ok (unitsOfString "function")

/-- The texts of the elements of an array between commas; a symbol there has none. -/
def joined : List Value → Except Value (List CodeUnit)
  | [] => .ok []
  | v :: rest => do
    let first ←
      if v.isAbsent then .ok []
      else if v.isSymbol then .error (typeError "Cannot convert a Symbol value to a string")
      else text v
    if rest.isEmpty then return first
    return first ++ unitsOfString "," ++ (← joined rest)

end

def toOffset (v : Value) : Int :=
  match v with
  | .number value => value.clampedInteger Int64.minValue.toInt Int64.maxValue.toInt
  | _ => 0

def string? : Value → Option String
  | .string units => some (lossyString units)
  | _ => none

def patterns? : Value → Option (List String)
  | .array elements => elements.mapM string?
  | _ => none

def finderSource? : Value → Option FinderSource
  | .string units => some (.pattern (lossyString units))
  | .bool value => some (.literal value)
  | _ => none

def ofFinderSource : FinderSource → Value
  | .pattern source => ofString source
  | .literal value => .bool value

/-- A count that fits 64 bits: a whole number whose neighbours are told apart, or a big integer. -/
def natural? : Value → Option Nat
  | .number value =>
    match value.safeInteger? with
    | some n => if 0 ≤ n then some n.toNat else none
    | none => none
  | .bigint n => if 0 ≤ n && n < UInt64.size then some n.toNat else none
  | _ => none

def units? : Value → Option (List CodeUnit)
  | .string units => some units
  | _ => none

def number? : Value → Option Double
  | .number value => some value
  | _ => none

def bool? : Value → Option Bool
  | .bool value => some value
  | _ => none

def badSettings (reason : String) : Value := typeError ("Invalid scanner config: " ++ reason)

/-- A member of the settings; what is absent keeps its standard value. -/
def setting {α : Type} (v : Value) (name : String) (read : Value → Option α) (standard : α) :
    Except Value α :=
  match v.member? name with
  | none => .ok standard
  | some given =>
    match read given with
    | some value => .ok value
    | none => .error (badSettings ("wrong value for " ++ name))

/-- Settings are the members of any object; without an object they are the standard ones. -/
def toConfig (v : Value) : Except Value Config :=
  if v.isAbsent then .ok .standard
  else if v.isObject && !v.isFunction then do
    let capacity ← setting v "cache_capacity" natural? Config.standard.capacity
    let logEvictions ← setting v "log_evictions" bool? Config.standard.logEvictions
    return ⟨capacity, logEvictions⟩
  else .error (badSettings "not an object")

def captureMembers (c : Capture) : List (String × Value) :=
  [("index", ofNat c.index), ("start", ofNat c.start), ("end", ofNat c.stop),
   ("length", ofNat c.length)]

def ofMatch (m : ScanMatch) : Value :=
  .object [("index", ofNat m.patternIndex),
    ("captureIndices", .array (m.captures.map fun c => .object (captureMembers c)))]

def ofCaptures (captures : List CapturedText) : Value :=
  .array (captures.map fun c => .object (captureMembers c.capture ++ [("match", ofString c.text)]))

def ofCount (n : Nat) : Except Value Value :=
  if n ≤ Double.maxSafeInteger then .ok (ofNat n)
  else .error (ofString s!"Error: {n} can't be represented as a JavaScript number")

def ofStatistics (s : Statistics) (live : Nat) : Except Value Value := do
  let c := s.counters
  let members ← [("hits", c.hits), ("misses", c.misses), ("compilations", c.compilations),
    ("evictions", c.evictions), ("releaseFailures", c.releaseFailures),
    ("liveEntries", s.entries), ("livePatterns", live), ("capacity", s.capacity)].mapM
    fun (name, n) => do return (name, ← ofCount n)
  return .object members

end Value
end PatternScan.Script
