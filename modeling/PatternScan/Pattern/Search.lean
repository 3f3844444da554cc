import Std.Data.TreeSet.Basic
import PatternScan.Pattern.Look
import PatternScan.Pattern.Parser
import PatternScan.Pattern.Program
import PatternScan.Span

namespace PatternScan.Pattern

/-- A way to go on: an instruction, a position, and the positions recorded so far. -/
structure Job where
  address : Nat
  position : Nat
  marks : Array (Option Nat)

abbrev Tried := Std.TreeSet Nat

namespace Program

/-- The recorded positions in pairs. -/
def spans (marks : Array (Option Nat)) (groups : Nat) : Captures :=
  (List.range groups).map fun group =>
    match marks[2 * group]?.join, marks[2 * group + 1]?.join with
    | some start, some stop => some ⟨start, stop⟩
    | _, _ => none

/-- The ways to go on after an instruction, the preferred one first; it does not accept here. -/
def successors (inst : Inst) (text : Array UInt8) (job : Job) : List Job :=
  match inst with
  | .accept => []
  | .dead => []
  | .char set next =>
    match Text.Utf8.charAt? text job.position with
    | some (c, length) =>
      if CodeSet.contains set c.toNat then
        [{ job with address := next, position := job.position + length }]
      else []
    | none => []
  | .byte set next =>
    match text[job.position]? with
    | some b =>
      if CodeSet.contains set b.toNat then
        [{ job with address := next, position := job.position + 1 }]
      else []
    | none => []
  | .look test next => if test.holds text job.position then [{ job with address := next }] else []
  | .mark slot next =>
    [{ job with address := next, marks := job.marks.setIfInBounds slot (some job.position) }]
  | .fork nexts => nexts.map fun next => { job with address := next }

/-- Tries the jobs in order until one reaches the end of the pattern. No instruction is tried twice
at one position, as it would fail again. -/
def explore (p : Program) (text : Array UInt8) (jobs : List Job) (tried : Tried) :
    Nat → Option Job
  | 0 => none
  | fuel + 1 =>
    match jobs with
    | [] => none
    | job :: rest =>
      let place := job.address * (text.size + 1) + job.position
      if tried.contains place then explore p text rest tried fuel
      else
        match p.insts[job.address]? with
        | none => explore p text rest (tried.insert place) fuel
        | some .accept => some job
        | some inst =>
          explore p text (successors inst text job ++ rest) (tried.insert place) fuel

/-- How many jobs one attempt can lead to: every instruction is tried once at most at each position.
-/
def effort (p : Program) (text : Array UInt8) : Nat :=
  p.insts.foldr (fun inst ways => inst.degree + ways) 0 * (text.size + 1) + 1

/-- The captures of the preferred match that begins at a position. -/
def matchAt? (p : Program) (text : Array UInt8) (start : Nat) : Option Captures :=
  let job : Job := ⟨p.entry, start, Array.replicate (2 * p.groups) none⟩
  (p.explore text [job] ∅ (p.effort text)).map fun done =>
    some ⟨start, done.position⟩ :: (spans done.marks p.groups).tail

/-- The captures at the first of `count` positions from `start` on where there is a match. -/
def searchFrom? (p : Program) (text : Array UInt8) (start : Nat) : Nat → Option Captures
  | 0 => none
  | count + 1 =>
    match p.matchAt? text start with
    | some captures => some captures
    | none => searchFrom? p text (start + 1) count

def search? (p : Program) (text : Array UInt8) (start : Nat) : Option Captures :=
  p.searchFrom? text start (text.size + 1 - start)

def ofSource (source : String) : Except Fault Program :=
  (Expr.ofSource source).map Program.ofExpr

end Program
end PatternScan.Pattern
