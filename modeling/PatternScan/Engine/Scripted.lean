import PatternScan.Engine.Arena

namespace PatternScan

inductive SearchPlan where
  | forward
  | answer (found : Option Found)
  | fail (account : List UInt8)

inductive CallPlan where
  | forward
  | fail (account : List UInt8)

inductive EngineCall where
  | compile (pattern : List UInt8)
  | findBest (handles : List Handle) (textSize start : Nat)
  | dispose (handles : List Handle)
  deriving DecidableEq, Repr

structure Plan where
  compiling : List CallPlan := []
  searching : List SearchPlan := []
  disposing : List CallPlan := []

def Plan.append (p q : Plan) : Plan :=
  ⟨p.compiling ++ q.compiling, p.searching ++ q.searching, p.disposing ++ q.disposing⟩

structure Scripted where
  inner : Arena := .empty
  plan : Plan := {}
  lastError : List UInt8 := []
  /-- The calls so far, the latest first. -/
  log : List EngineCall := []

namespace Scripted

def record (s : Scripted) (call : EngineCall) : Scripted := { s with log := call :: s.log }

/-- Takes over the outcome of a call that went on to the arena. -/
def forwarded {α : Type} (s : Scripted) (outcome : Except Status α × Arena) :
    Except Status α × Scripted :=
  match outcome with
  | (.ok value, inner) => (.ok value, { s with inner })
  | (.error status, inner) =>
    (.error status, { s with inner, lastError := inner.lastError.toUTF8.toList })

def compile (s : Scripted) (pattern : List UInt8) : Except Status Handle × Scripted :=
  let s := s.record (.compile pattern)
  match s.plan.compiling with
  | [] => s.forwarded (s.inner.compile pattern)
  | next :: rest =>
    let s := { s with plan := { s.plan with compiling := rest } }
    match next with
    | .forward => s.forwarded (s.inner.compile pattern)
    | .fail account => (.error .compileFailed, { s with lastError := account })

def findBest (s : Scripted) (handles : List Handle) (text : Array UInt8) (start : Nat) :
    Except Status (Option Found) × Scripted :=
  let s := s.record (.findBest handles text.size start)
  match s.plan.searching with
  | [] => s.forwarded (s.inner.findBest handles text start)
  | next :: rest =>
    let s := { s with plan := { s.plan with searching := rest } }
    match next with
    | .forward => s.forwarded (s.inner.findBest handles text start)
    | .answer found => (.ok found, s)
    | .fail account => (.error .invalidInput, { s with lastError := account })

def dispose (s : Scripted) (handles : List Handle) : Except Status Unit × Scripted :=
  let s := s.record (.dispose handles)
  match s.plan.disposing with
  | [] => s.forwarded (s.inner.dispose handles)
  | next :: rest =>
    let s := { s with plan := { s.plan with disposing := rest } }
    match next with
    | .forward => s.forwarded (s.inner.dispose handles)
    | .fail account => (.error .invalidHandle, { s with lastError := account })

instance : Engine Scripted where
  compile := compile
  findBest := findBest
  dispose := dispose
  lastError s := s.lastError
  liveCount s := s.inner.live

def extend (s : Scripted) (plan : Plan) : Scripted := { s with plan := s.plan.append plan }

def takeLog (s : Scripted) : List EngineCall × Scripted := (s.log.reverse, { s with log := [] })

end Scripted
end PatternScan
