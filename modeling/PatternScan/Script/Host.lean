import PatternScan.Number.Double
import PatternScan.Scanner.Finder
import PatternScan.Text.StartPosition

namespace PatternScan.Script

open Text (CodeUnit lossyString)

/-- The state of a host, and the cache that all objects in it share. -/
structure Scene (S σ : Type) where
  host : S
  shared : SharedCache σ

/-- What gives a value or throws one, and may change the scene either way. -/
abbrev Act (V S σ : Type) := ExceptT V (StateM (Scene S σ))

/-- A host whose values have type `V`. Conversions, calls and the making of results may run programs
of the host, which may change its state and search again. -/
structure Host (V S σ : Type) where
  undefined : V
  null : V
  ofBool : Bool → V
  /-- Whether a value is undefined or null. -/
  isAbsent : V → Bool
  isFunction : V → Bool
  bool? : V → Option Bool
  number? : V → Option Double
  /-- The code units of a string. -/
  units? : V → Option (List CodeUnit)
  /-- The text of any value. -/
  convert : V → Act V S σ (List CodeUnit)
  /-- Calls a function with arguments. -/
  call : V → List V → Act V S σ V
  makeMatch : ScanMatch → Act V S σ V
  makeCaptures : List CapturedText → Act V S σ V
  makeError : (isTypeError : Bool) → (message : String) → S → V × S

namespace Host

variable {V S σ α : Type} (host : Host V S σ)

def throwNew (isTypeError : Bool) (message : String) : Act V S σ α := fun scene =>
  let (e, state) := host.makeError isTypeError message scene.host
  (.error e, { scene with host := state })

def outcomeOf (act : Act V S σ α) : Act V S σ (Except V α) := fun scene =>
  let (outcome, scene) := act scene
  (.ok outcome, scene)

/-- The text to search in: a string as it is, anything else by its text. -/
def toText (v : V) : Act V S σ IndexedText := do
  let units ←
    match host.units? v with
    | some units => pure units
    | none => host.convert v
  return .ofUnits units.toArray

/-- A position to start at: a number as it is, anything else by the number its text begins with. -/
def toPosition (v : V) : Act V S σ Nat := do
  match host.number? v with
  | some n => return StartPosition.ofDouble n
  | none =>
    if host.isAbsent v then return 0
    else return StartPosition.ofString (lossyString (← host.convert v))

def makeMatch? : Option ScanMatch → Act V S σ V
  | some found => host.makeMatch found
  | none => return host.null

def makeCaptures? : Option (List CapturedText) → Act V S σ V
  | some captures => host.makeCaptures captures
  | none => return host.null

def onCache (use : SharedCache σ → Except Failure α × SharedCache σ) : Act V S σ α := do
  let scene ← get
  let (result, shared) := use scene.shared
  set { scene with shared }
  match result with
  | .ok value => return value
  | .error failure => host.throwNew failure.isInvalidArgument failure.message

/-- The position and the callback: a function in the place of the position is the callback. -/
def splitCallback (start callback : V) : V × Option V :=
  if host.isFunction start then (host.undefined, some start)
  else (start, if host.isFunction callback then some callback else none)

/-- What a callback is given: nothing and a result, or what was thrown. -/
def handed : Except V V → List V
  | .ok result => [host.null, result]
  | .error e => [e]

/-- Hands an outcome to a callback. What the callback returns is dropped; what it throws is not. -/
def deliver (callback : V) (outcome : Except V V) : Act V S σ Unit := do
  let _ ← host.call callback (host.handed outcome)

/-- A search in its callback form. Without a callback nothing is searched. -/
def withCallback (start callback : V) (search : V → Act V S σ V) : Act V S σ Unit := do
  match host.splitCallback start callback with
  | (_, none) => host.throwNew true "callback is not a function"
  | (start, some callback) => host.deliver callback (← outcomeOf (search start))

section

variable [Engine σ]

def newText (v : V) : Act V S σ IndexedText :=
  match host.units? v with
  | some units => return .ofUnits units.toArray
  | none => host.throwNew true "Argument must be a string"

def findNow (scanner : Scanner) (text start : V) : Act V S σ V := do
  let text ← host.toText text
  let start ← host.toPosition start
  let found ← host.onCache (scanner.findNext text start)
  host.makeMatch? found

def findInText (scanner : Scanner) (text : IndexedText) (start : V) : Act V S σ V := do
  let start ← host.toPosition start
  let found ← host.onCache (scanner.findNext text start)
  host.makeMatch? found

def find (scanner : Scanner) (text start callback : V) : Act V S σ Unit :=
  host.withCallback start callback (host.findNow scanner text)

def searchNow (finder : Finder) (text start : V) : Act V S σ V := do
  let text ← host.toText text
  let start ← host.toPosition start
  let captures ← host.onCache (finder.search text start)
  host.makeCaptures? captures

def search (finder : Finder) (text start callback : V) : Act V S σ Unit :=
  host.withCallback start callback (host.searchNow finder text)

/-- A finder's test; only true and false are compared by value. -/
def testNow (finder : Finder) (subject : V) : Act V S σ V := do
  let subject ←
    match host.bool? subject with
    | some value => pure (Subject.literal value)
    | none => Subject.text <$> host.toText subject
  return host.ofBool (← host.onCache (finder.test subject))

/-- The callback form of a finder's test. Without a callback the result is dropped. -/
def test (finder : Finder) (subject callback : V) : Act V S σ Unit := do
  let outcome ← outcomeOf (host.testNow finder subject)
  if host.isFunction callback then host.deliver callback outcome

def dispose (scanner : Scanner) : Act V S σ V := do
  return host.ofBool (← host.onCache scanner.dispose)

end

end Host
end PatternScan.Script
