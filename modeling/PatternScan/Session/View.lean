import PatternScan.Engine.Backend
import PatternScan.Session.Run

namespace PatternScan.Session

inductive View where
  /-- The program gave it up. -/
  | gone
  /-- Somebody holds it and may be changing it. -/
  | busy
  /-- Its statistics, its engine's count, and the numbers of the objects with an entry. -/
  | shown (statistics : Statistics) (live : Nat) (owners : List Nat)
  deriving DecidableEq, Repr

structure EngineView where
  calls : List EngineCall
  live : Nat
  deriving DecidableEq, Repr

namespace World

variable {σ : Type}

def owners (w : World σ) (cache : Cache σ) : List Nat :=
  (List.range w.slots.length).filter fun number =>
    match (w.object? number).bind Object.id? with
    | some id => cache.contains id
    | none => false

def view [Engine σ] (w : World σ) (reference : Reference) : View :=
  if reference.released then .gone
  else
    match w.cells[reference.cell]? with
    | none => .gone
    | some c =>
      match c.shared.read fun cache => View.shown cache.statistics cache.liveCount (w.owners cache)
      with
      | .ok seen => seen
      | .error _ => .busy

/-- Looks at an engine; a scripted engine starts a new log. -/
def watchEngine : Backend → Option EngineView × Backend
  | .arena a => (none, .arena a)
  | .scripted s =>
    let (calls, s) := s.takeLog
    (some ⟨calls, s.inner.live⟩, .scripted s)

/-- Looks at the engine behind a reference, also while the cache is held or after its end. -/
def watchReference (w : World Backend) (reference : Reference) :
    (View × Option EngineView) × World Backend :=
  let seen := w.view reference
  let (engine, w) := w.onCell reference.cell fun shared =>
    let (engine, backend) := watchEngine shared.cache.engine
    (engine, { shared with cache := { shared.cache with engine := backend } })
  ((seen, engine.join), w)

def watchAll (w : World Backend) :
    List Reference → List (View × Option EngineView) × World Backend
  | [] => ([], w)
  | reference :: rest =>
    let (seen, w) := w.watchReference reference
    let (others, w) := watchAll w rest
    (seen :: others, w)

/-- Looks at all caches that the program ever referred to. -/
def watch (w : World Backend) : List (View × Option EngineView) × World Backend :=
  w.watchAll w.references

end World
end PatternScan.Session
