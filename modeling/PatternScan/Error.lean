import PatternScan.Text.Quoted

namespace PatternScan

inductive Failure where
  /-- A value that no operation accepts reached the library. -/
  | invalidArgument (reason : String)
  /-- The engine refused a pattern; nothing was cached for its scanner. -/
  | compilation (patternIndex : Nat) (account : String)
  /-- The engine failed while it searched. -/
  | searching (account : String)
  /-- Handing compiled patterns back failed; their entry is gone all the same. -/
  | release (account : String)
  /-- The shared cache is in use. -/
  | cacheBusy
  deriving DecidableEq, Repr

namespace Failure

def message : Failure → String
  | .invalidArgument reason => reason
  | .compilation _ account => account
  | .searching account => account
  | .release account => account
  | .cacheBusy => "Pattern cache is already in use"

def isInvalidArgument : Failure → Bool
  | .invalidArgument _ => true
  | _ => false

def description : Failure → String
  | .invalidArgument reason => s!"InvalidArgument({Text.quoted reason})"
  | .compilation index account =>
    s!"Compilation \x7b pattern_index: {index}, message: {Text.quoted account} \x7d"
  | .searching account => s!"Match({Text.quoted account})"
  | .release account => s!"ResourceRelease({Text.quoted account})"
  | .cacheBusy => "CacheUnavailable"

def zeroCapacity : Failure := .invalidArgument "cache_capacity must be at least 1"

def noPattern : Failure := .invalidArgument "regular expression source is not a pattern string"

end Failure
end PatternScan
