import PatternScan.Engine.Basic
import PatternScan.Engine.Regex
import PatternScan.Text.Utf8

namespace PatternScan

/-- An engine over a library of regular expressions. It keeps compiled expressions in a row of slots
and hands out the numbers of the slots. -/
structure RegexArena (ρ : Type) where
  slots : Array (Option ρ) := #[]
  /-- The empty slots, the one freed last at the front. -/
  free : List SlotNumber := []
  live : Nat := 0
  lastError : String := ""

def Captures.improve (captures : Captures) : Option Found → Bool
  | none => true
  | some best =>
    match captures.start?, best.captures.start? with
    | some new, some old => new < old
    | some _, none => true
    | none, _ => false

/-- The best match of compiled expressions from the given place in their list on; one that is
missing is passed over. A match that begins at `start` ends the search, since none begins earlier.
-/
def bestFrom {ρ : Type} [Regex ρ] (text : Array UInt8) (start index : Nat) (best : Option Found) :
    List (Option ρ) → Option Found
  | [] => best
  | r :: rest =>
    match r.bind fun r => Regex.capturesAt r text start with
    | none => bestFrom text start (index + 1) best rest
    | some captures =>
      if captures.improve best then
        let found : Found := ⟨index, captures⟩
        if captures.start? == some start then some found
        else bestFrom text start (index + 1) (some found) rest
      else bestFrom text start (index + 1) best rest

namespace RegexArena

variable {ρ : Type}

def empty : RegexArena ρ := {}

def regex? (a : RegexArena ρ) (h : Handle) : Option ρ := a.slots[h.slot.val]?.join

def isLive (a : RegexArena ρ) (h : Handle) : Bool := (a.regex? h).isSome

/-- Puts an expression into a slot: the one freed last, or a new one. The number of a new slot is
cut to 32 bits. -/
def store (a : RegexArena ρ) (r : ρ) : Handle × RegexArena ρ :=
  match a.free with
  | slot :: free =>
    (⟨slot⟩, { a with slots := a.slots.setIfInBounds slot (some r), free, live := a.live + 1 })
  | [] =>
    (⟨Fin.ofNat _ a.slots.size⟩, { a with slots := a.slots.push (some r), live := a.live + 1 })

def withoutTerminator (pattern : List UInt8) : List UInt8 :=
  if pattern.getLast? == some 0 then pattern.dropLast else pattern

def compile [Regex ρ] (a : RegexArena ρ) (pattern : List UInt8) :
    Except Status Handle × RegexArena ρ :=
  match Text.Utf8.validate (withoutTerminator pattern) with
  | .error fault =>
    (.error .invalidInput, { a with lastError := "Pattern is not valid UTF-8: " ++ fault.message })
  | .ok source =>
    match Regex.compile (ρ := ρ) source with
    | .error message => (.error .compileFailed, { a with lastError := message })
    | .ok r =>
      let (handle, a) := a.store r
      (.ok handle, a)

def findBest [Regex ρ] (a : RegexArena ρ) (handles : List Handle) (text : Array UInt8)
    (start : Nat) : Except Status (Option Found) × RegexArena ρ :=
  match handles.find? fun h => !a.isLive h with
  | some h =>
    (.error .invalidHandle, { a with lastError := s!"Invalid pattern handle {h.slot.val}" })
  | none =>
    if text.size < start then (.ok none, a)
    else (.ok (bestFrom text start 0 none (handles.map a.regex?)), a)

/-- The first handle that is not live or repeats one of those `before` it. -/
def firstBad? (a : RegexArena ρ) (before : List Handle) : List Handle → Option Handle
  | [] => none
  | h :: rest =>
    if before.contains h || !a.isLive h then some h else firstBad? a (h :: before) rest

def freeSlot (a : RegexArena ρ) (h : Handle) : RegexArena ρ :=
  { a with
    slots := a.slots.setIfInBounds h.slot none
    free := h.slot :: a.free
    live := a.live - 1 }

def dispose (a : RegexArena ρ) (handles : List Handle) : Except Status Unit × RegexArena ρ :=
  match a.firstBad? [] handles with
  | some h =>
    (.error .invalidHandle, { a with lastError := s!"Pattern handle {h.slot.val} is not live" })
  | none => (.ok (), handles.foldl freeSlot a)

instance [Regex ρ] : Engine (RegexArena ρ) where
  compile := compile
  findBest := findBest
  dispose := dispose
  lastError a := a.lastError.toUTF8.toList
  liveCount a := a.live

end RegexArena
end PatternScan
