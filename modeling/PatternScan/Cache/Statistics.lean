namespace PatternScan

structure Counters where
  hits : Nat := 0
  misses : Nat := 0
  /-- Pattern sets that compiled. -/
  compilations : Nat := 0
  /-- Entries that made room for others or no longer fitted. -/
  evictions : Nat := 0
  releaseFailures : Nat := 0
  deriving DecidableEq, Repr

structure Statistics where
  counters : Counters
  entries : Nat
  capacity : Nat
  deriving DecidableEq, Repr

end PatternScan
