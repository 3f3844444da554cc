import PatternScan.Engine.Arena
import PatternScan.Script.Conversion
import PatternScan.Script.Host

namespace PatternScan.Script

/-- The answer to one step: its outcome, and its callback's calls with their arguments and with the
answers to the steps that ran inside. -/
inductive Answer where
  | mk (outcome : Outcome) (calls : List (List Value × List Answer))

inductive Object where
  | text (text : IndexedText)
  | scanner (scanner : Scanner)
  | finder (finder : Finder)
  | freed

structure Stock where
  objects : Array Object := #[]
  nextId : ScannerId := ⟨1⟩
  /-- The calls of functions in the current step, the latest first. -/
  calls : List (List Value × List Answer) := []

abbrev World := Scene Stock Arena

def World.fresh : World := ⟨{}, { cache := Cache.new .empty Config.defaultCapacity }⟩

/-- Runs the steps inside a callback. -/
abbrev Runner := List Step → World → List Answer × World

/-- Calls a function with arguments: its steps are run, then it returns or throws. -/
def invoke (inner : Runner) (callback : Value) (arguments : List Value) :
    Act Value Stock Arena Value := fun w =>
  match callback with
  | .function throws result body =>
    let (answers, w) := inner body w
    (if throws then .error result else .ok result,
      { w with host := { w.host with calls := (arguments, answers) :: w.host.calls } })
  | _ => (.error (.typeError "not a function"), w)

/-- The host whose functions run their steps with the given runner. -/
def valueHost (inner : Runner) : Host Value Stock Arena where
  undefined := .undefined
  null := .null
  ofBool := .bool
  isAbsent := Value.isAbsent
  isFunction := Value.isFunction
  bool? := Value.bool?
  number? := Value.number?
  units? := Value.units?
  convert v w := (v.text, w)
  call := invoke inner
  makeMatch m := return .ofMatch m
  makeCaptures captures := return .ofCaptures captures
  makeError isTypeError message stock := (.error isTypeError message, stock)

abbrev Doing := Act Value Stock Arena

section

variable (inner : Runner)

def add (object : Object) : Doing Value := fun w =>
  (.ok (.ofNat w.host.objects.size),
    { w with host := { w.host with objects := w.host.objects.push object } })

def takeId : Doing ScannerId := fun w =>
  (.ok w.host.nextId, { w with host := { w.host with nextId := w.host.nextId.next } })

def construct (kind : Kind) (argument : Value) : Doing Value := do
  match kind with
  | .text => add (.text (← (valueHost inner).newText argument))
  | .scanner =>
    match argument.patterns? with
    | some patterns => add (.scanner ⟨← takeId, patterns⟩)
    | none =>
      (valueHost inner).throwNew true
        "First parameter to OnigScanner constructor must be array of (pattern) strings"
  | .finder =>
    match argument.finderSource? with
    | some source => add (.finder (.new (← takeId) source))
    | none =>
      (valueHost inner).throwNew true
        "First parameter to OnigRegExp constructor must be a pattern string"

def configure (settings : Value) : Doing Value := do
  match settings.toConfig with
  | .error e => throw e
  | .ok config =>
    (valueHost inner).onCache (·.configure config)
    return .undefined

def statistics : Doing Value := do
  match (← get).shared.read fun cache => (cache.statistics, cache.liveCount) with
  | .error failure => (valueHost inner).throwNew failure.isInvalidArgument failure.message
  | .ok (statistics, live) =>
    match Value.ofStatistics statistics live with
    | .ok value => return value
    | .error e => throw e

def free (number : Nat) (object : Object) : Doing Value := fun w =>
  let shared :=
    match object with
    | .scanner scanner => scanner.drop w.shared
    | .finder finder => finder.drop w.shared
    | _ => w.shared
  (.ok .undefined,
    ⟨{ w.host with objects := w.host.objects.setIfInBounds number .freed }, shared⟩)

def noSuchMethod : Doing Value := throw (.typeError "not a function")

def silent (act : Doing Unit) : Doing Value := do
  act
  return .undefined

def callText (text : IndexedText) (method : Method) (argument : Nat → Value) : Doing Value :=
  match method with
  | .content => return .string text.units.toList
  | .length => return .ofNat text.size
  | .utf8Bytes => return .array (text.terminated.toList.map fun b => .ofNat b.toNat)
  | .hasMultiByte => return .bool text.hasMultiByte
  | .toByte => return .ofNat (text.toByte (argument 0).toOffset)
  | .toUnit => return .ofNat (text.toUnit (argument 0).toOffset)
  | .substring =>
    let a := (argument 0).toOffset.toNat
    let b := (argument 1).toOffset.toNat
    return .ofString (text.substring a b)
  | _ => noSuchMethod

def callScanner (scanner : Scanner) (method : Method) (argument : Nat → Value) : Doing Value := do
  match method with
  | .patterns => return .array (scanner.sources.map .ofString)
  | .findNow => (valueHost inner).findNow scanner (argument 0) (argument 1)
  | .find => silent ((valueHost inner).find scanner (argument 0) (argument 1) (argument 2))
  | .findInText number =>
    match (← get).host.objects[number]? with
    | some (.text text) => (valueHost inner).findInText scanner text (argument 0)
    | _ => noSuchMethod
  | .dispose => (valueHost inner).dispose scanner
  | _ => noSuchMethod

def callFinder (finder : Finder) (method : Method) (argument : Nat → Value) : Doing Value :=
  match method with
  | .source => return .ofFinderSource finder.source
  | .searchNow => (valueHost inner).searchNow finder (argument 0) (argument 1)
  | .search => silent ((valueHost inner).search finder (argument 0) (argument 1) (argument 2))
  | .testNow => (valueHost inner).testNow finder (argument 0)
  | .test => silent ((valueHost inner).test finder (argument 0) (argument 1))
  | _ => noSuchMethod

/-- What one step does; an argument that is not given is undefined. -/
def perform (step : Step) : Doing Value := do
  match step with
  | .construct kind arguments => construct inner kind (arguments.getD 0 .undefined)
  | .configure settings => configure inner settings
  | .statistics => statistics inner
  | .call number method arguments =>
    let argument (i : Nat) : Value := arguments.getD i .undefined
    match (← get).host.objects[number]? with
    | none => noSuchMethod
    | some object =>
      if method == .free then free number object
      else
        match object with
        | .text text => callText text method argument
        | .scanner scanner => callScanner inner scanner method argument
        | .finder finder => callFinder inner finder method argument
        | .freed => noSuchMethod

def runStep (step : Step) (w : World) : Answer × World :=
  let (outcome, after) := perform inner step { w with host := { w.host with calls := [] } }
  (.mk outcome after.host.calls.reverse,
    { after with host := { after.host with calls := w.host.calls } })

end

def runEach (inner : Runner) : Runner
  | [], w => ([], w)
  | step :: rest, w =>
    let (answer, w) := runStep inner step w
    let (answers, w) := runEach inner rest w
    (answer :: answers, w)

/-- Runs steps in which functions are nested at most `depth` deep. -/
def runNested : Nat → Runner
  | 0 => runEach fun _ w => ([], w)
  | depth + 1 => runEach (runNested depth)

/-- Runs a program in a world, whatever its functions do. -/
def run (steps : List Step) (w : World) : List Answer × World :=
  runNested (Step.depthOfList steps) steps w

end PatternScan.Script
