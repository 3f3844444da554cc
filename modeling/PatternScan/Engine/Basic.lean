import PatternScan.Span

namespace PatternScan

abbrev SlotNumber := Fin UInt32.size

/-- The engine's number for a compiled pattern. -/
structure Handle where
  slot : SlotNumber
  deriving DecidableEq, Repr

structure Found where
  patternIndex : Nat
  captures : Captures
  deriving DecidableEq, Repr

inductive Status where
  | compileFailed
  | invalidHandle
  | invalidInput
  deriving DecidableEq, Repr

/-- The calls of an engine whose state has type `σ`. A failed call may change the state too. -/
class Engine (σ : Type) where
  /-- Compiles a pattern given in UTF-8 and closed by a zero byte. -/
  compile : σ → List UInt8 → Except Status Handle × σ
  /-- The earliest match at or after a byte; of matches that begin together, the first pattern's. -/
  findBest : σ → List Handle → Array UInt8 → Nat → Except Status (Option Found) × σ
  /-- Takes compiled patterns back. -/
  dispose : σ → List Handle → Except Status Unit × σ
  /-- The account of the latest failure, in UTF-8. -/
  lastError : σ → List UInt8
  /-- How many compiled patterns the engine holds. -/
  liveCount : σ → Nat

end PatternScan
