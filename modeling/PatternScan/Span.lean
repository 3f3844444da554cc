namespace PatternScan

/-- The bytes from `start` up to but not including `stop`. -/
structure Span where
  start : Nat
  stop : Nat
  deriving DecidableEq, Repr

/-- The whole match, then one entry per group; a group that took no part has none. -/
abbrev Captures := List (Option Span)

def Captures.start? (captures : Captures) : Option Nat := captures.head?.join.map Span.start

end PatternScan
