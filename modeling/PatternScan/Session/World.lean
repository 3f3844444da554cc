import PatternScan.Scanner.Finder

namespace PatternScan.Session

/-- A cache, and whether it went out of use. -/
structure Cell (σ : Type) where
  shared : SharedCache σ
  closed : Bool := false

/-- A reference of the program to a cell, and whether the program gave it up. -/
structure Reference where
  cell : Nat
  released : Bool := false
  deriving DecidableEq, Repr

inductive Object where
  | scanner (scanner : Scanner) (cell : Nat)
  | finder (finder : Finder) (cell : Nat)
  /-- An identity without a scanner. -/
  | identity (id : ScannerId)
  deriving DecidableEq, Repr

namespace Object

def id? : Object → Option ScannerId
  | .scanner s _ => some s.id
  | .finder _ _ => none
  | .identity id => some id

/-- The cell that an object keeps in use. -/
def cell? : Object → Option Nat
  | .scanner _ cell => some cell
  | .finder f cell => f.scanner?.map fun _ => cell
  | .identity _ => none

end Object

structure Slot where
  object : Object
  dropped : Bool := false
  deriving DecidableEq, Repr

structure World (σ : Type) where
  /-- The cell with number 0 belongs to everybody and never goes out of use. -/
  cells : List (Cell σ)
  references : List Reference := []
  slots : List Slot := []
  texts : List IndexedText := []
  nextId : ScannerId := ⟨1⟩

namespace World

variable {σ α : Type}

def commonCell : Nat := 0

/-- A world that holds nothing but the common cache. -/
def fresh (engine : σ) : World σ :=
  { cells := [{ shared := { cache := Cache.new engine Config.defaultCapacity } }] }

def cellOf? (w : World σ) (reference : Nat) : Option Nat :=
  match w.references[reference]? with
  | some r => if r.released then none else some r.cell
  | none => none

def object? (w : World σ) (number : Nat) : Option Object := w.slots[number]?.map Slot.object

/-- An object that was not dropped. -/
def living? (w : World σ) (number : Nat) : Option Object :=
  match w.slots[number]? with
  | some slot => if slot.dropped then none else some slot.object
  | none => none

def addReference (w : World σ) (cell : Nat) : World σ :=
  { w with references := w.references ++ [⟨cell, false⟩] }

def addCell (w : World σ) (cache : Cache σ) : World σ :=
  addReference { w with cells := w.cells ++ [{ shared := { cache } }] } w.cells.length

def addObject (w : World σ) (object : Object) : World σ :=
  { w with slots := w.slots ++ [⟨object, false⟩] }

def addText (w : World σ) (text : IndexedText) : World σ := { w with texts := w.texts ++ [text] }

def takeId (w : World σ) : ScannerId × World σ := (w.nextId, { w with nextId := w.nextId.next })

def setShared (w : World σ) (cell : Nat) (shared : SharedCache σ) : World σ :=
  { w with cells := w.cells.modify cell fun c => { c with shared } }

/-- Works on the cache of a cell; `none` if there is no such cell. -/
def onCell (w : World σ) (cell : Nat) (use : SharedCache σ → α × SharedCache σ) :
    Option α × World σ :=
  match w.cells[cell]? with
  | none => (none, w)
  | some c =>
    let (result, shared) := use c.shared
    (some result, w.setShared cell shared)

def holdOf (w : World σ) (cell : Nat) : Hold :=
  match w.cells[cell]? with
  | some c => c.shared.hold
  | none => .free

def setHold (w : World σ) (cell : Nat) (hold : Hold) : World σ :=
  { w with cells := w.cells.modify cell fun c => { c with shared := { c.shared with hold } } }

/-- Whether somebody still needs a cell. -/
def inUse (w : World σ) (cell : Nat) : Bool :=
  cell == commonCell ||
  w.references.any (fun r => r.cell == cell && !r.released) ||
  w.slots.any (fun s => s.object.cell? == some cell && !s.dropped) ||
  w.holdOf cell != .free

section

variable [Engine σ]

/-- Closes a cell that nobody needs any more. -/
def settle (w : World σ) (cell : Nat) : World σ :=
  if w.inUse cell then w
  else
    { w with cells := w.cells.modify cell fun c =>
        if c.closed then c
        else { shared := { c.shared with cache := c.shared.cache.close }, closed := true } }

def release (w : World σ) (reference : Nat) : World σ :=
  match w.cellOf? reference with
  | none => w
  | some cell =>
    { w with references := w.references.modify reference fun r => { r with released := true } }
      |>.settle cell

/-- What an object's end leaves of a cache. -/
def leave (object : Object) (shared : SharedCache σ) : SharedCache σ :=
  match object with
  | .scanner scanner _ => scanner.drop shared
  | .finder finder _ => finder.drop shared
  | .identity _ => shared

/-- Drops an object. Its entry goes first, then the cache if that was its last use. -/
def drop (w : World σ) (number : Nat) : World σ :=
  match w.slots[number]? with
  | none => w
  | some slot =>
    if slot.dropped then w
    else
      let dropped := w.slots.set number { slot with dropped := true }
      match slot.object.cell? with
      | none => { w with slots := dropped }
      | some cell =>
        let (_, w) := w.onCell cell fun shared => ((), leave slot.object shared)
        { w with slots := dropped }.settle cell

/-- The end of a program: its objects go in the order of their creation, then its references. -/
def finish (w : World σ) : World σ :=
  let w := (List.range w.slots.length).foldl drop w
  (List.range w.references.length).foldl release w

end

end World
end PatternScan.Session
