import PatternScan.Engine.Basic

namespace PatternScan

inductive EngineEvent where
  | compile (pattern : List UInt8) (outcome : Except Status Handle)
  | findBest (handles : List Handle) (text : Array UInt8) (start : Nat)
      (outcome : Except Status (Option Found))
  | dispose (handles : List Handle) (outcome : Except Status Unit)

/-- An engine with the record of its calls, the earliest first. -/
structure Recorded (σ : Type) where
  inner : σ
  log : List EngineEvent := []

namespace Recorded

variable {σ : Type} [Engine σ]

def compile (r : Recorded σ) (pattern : List UInt8) : Except Status Handle × Recorded σ :=
  let (outcome, inner) := Engine.compile r.inner pattern
  (outcome, ⟨inner, r.log ++ [.compile pattern outcome]⟩)

def findBest (r : Recorded σ) (handles : List Handle) (text : Array UInt8) (start : Nat) :
    Except Status (Option Found) × Recorded σ :=
  let (outcome, inner) := Engine.findBest r.inner handles text start
  (outcome, ⟨inner, r.log ++ [.findBest handles text start outcome]⟩)

def dispose (r : Recorded σ) (handles : List Handle) : Except Status Unit × Recorded σ :=
  let (outcome, inner) := Engine.dispose r.inner handles
  (outcome, ⟨inner, r.log ++ [.dispose handles outcome]⟩)

instance : Engine (Recorded σ) where
  compile := compile
  findBest := findBest
  dispose := dispose
  lastError r := Engine.lastError r.inner
  liveCount r := Engine.liveCount r.inner

variable (r : Recorded σ)

theorem log_compile (pattern : List UInt8) : (Engine.compile r pattern).2.log =
    r.log ++ [.compile pattern (Engine.compile r pattern).1] := rfl

theorem log_findBest (handles : List Handle) (text : Array UInt8) (start : Nat) :
    (Engine.findBest r handles text start).2.log =
      r.log ++ [.findBest handles text start (Engine.findBest r handles text start).1] := rfl

theorem log_dispose (handles : List Handle) : (Engine.dispose r handles).2.log =
    r.log ++ [.dispose handles (Engine.dispose r handles).1] := rfl

end Recorded

/-- A map between the states of two engines under which all calls look the same. -/
structure Engine.Agrees {σ τ : Type} [Engine σ] [Engine τ] (f : σ → τ) : Prop where
  compile : ∀ s pattern, Engine.compile (f s) pattern = (Engine.compile s pattern).map id f
  findBest : ∀ s handles text start,
    Engine.findBest (f s) handles text start = (Engine.findBest s handles text start).map id f
  dispose : ∀ s handles, Engine.dispose (f s) handles = (Engine.dispose s handles).map id f
  lastError : ∀ s, Engine.lastError (f s) = Engine.lastError s

theorem Recorded.agrees {σ : Type} [Engine σ] : Engine.Agrees (Recorded.inner (σ := σ)) :=
  ⟨fun _ _ => rfl, fun _ _ _ _ => rfl, fun _ _ => rfl, fun _ => rfl⟩

end PatternScan
