namespace PatternScan

/-- One capture of a match; number 0 is the whole match. -/
structure Capture where
  index : Nat
  start : Nat
  stop : Nat
  length : Nat
  deriving DecidableEq, Repr

def Capture.between (index start stop : Nat) : Capture := ⟨index, start, stop, stop - start⟩

structure ScanMatch where
  patternIndex : Nat
  captures : List Capture
  deriving DecidableEq, Repr

structure CapturedText where
  capture : Capture
  text : String
  deriving DecidableEq, Repr

end PatternScan
