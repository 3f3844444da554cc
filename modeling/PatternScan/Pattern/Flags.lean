import PatternScan.Pattern.Expr

namespace PatternScan.Pattern

structure Flags where
  ignoreCase : Bool := false
  /-- The anchors also match at line ends. -/
  multiLine : Bool := true
  dotMatchesAll : Bool := false
  /-- Repetitions are lazy, and greedy when marked. -/
  swapGreed : Bool := false
  unicode : Bool := true
  carriageReturns : Bool := false
  /-- Blanks and comments in the pattern are skipped. -/
  verbose : Bool := false
  deriving DecidableEq, Repr

namespace Flags

def set? (flags : Flags) (letter : Char) (value : Bool) : Option Flags :=
  match letter with
  | 'i' => some { flags with ignoreCase := value }
  | 'm' => some { flags with multiLine := value }
  | 's' => some { flags with dotMatchesAll := value }
  | 'U' => some { flags with swapGreed := value }
  | 'u' => some { flags with unicode := value }
  | 'R' => some { flags with carriageReturns := value }
  | 'x' => some { flags with verbose := value }
  | _ => none

def wordRule (flags : Flags) : WordRule := if flags.unicode then .unicode else .ascii

def lineRule (flags : Flags) : LineRule :=
  if flags.carriageReturns then .carriageReturn else .lineFeed

def domain (flags : Flags) : Domain := if flags.unicode then .scalars else .bytes

def lineStart (flags : Flags) : Look :=
  if flags.multiLine then .lineStart flags.lineRule else .textStart

def lineEnd (flags : Flags) : Look :=
  if flags.multiLine then .lineEnd flags.lineRule else .textEnd

/-- One item of a set: a character, or a byte where Unicode is off. -/
def ofSet (flags : Flags) (set : CodeSet) : Expr :=
  if flags.unicode then .char set else .byte set

def dotExcludes (flags : Flags) : CodeSet :=
  if flags.dotMatchesAll then []
  else if flags.carriageReturns then [⟨0x0A, 0x0A⟩, ⟨0x0D, 0x0D⟩]
  else [⟨0x0A, 0x0A⟩]

def dot (flags : Flags) : Expr := flags.ofSet (flags.domain.complement flags.dotExcludes)

end Flags
end PatternScan.Pattern
