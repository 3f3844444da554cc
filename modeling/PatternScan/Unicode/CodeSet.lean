namespace PatternScan

structure CodeRange where
  low : Nat
  high : Nat
  deriving DecidableEq, Repr

abbrev CodeSet := List CodeRange

namespace CodeSet

def single (code : Nat) : CodeSet := [⟨code, code⟩]

def range (low high : Nat) : CodeSet := [⟨low, high⟩]

/-- Joins ranges, sorted by their low ends, that touch or overlap. -/
def coalesce : List CodeRange → CodeSet
  | [] => []
  | [r] => [r]
  | r :: s :: rest =>
    if s.low ≤ r.high + 1 then coalesce (⟨r.low, max r.high s.high⟩ :: rest)
    else r :: coalesce (s :: rest)
termination_by ranges => ranges.length

def ofRanges (ranges : List CodeRange) : CodeSet :=
  coalesce (ranges.mergeSort fun r s => r.low ≤ s.low)

def contains (set : CodeSet) (code : Nat) : Bool :=
  match set with
  | [] => false
  | r :: rest => if code ≤ r.high then r.low ≤ code else contains rest code

def union (a b : CodeSet) : CodeSet := ofRanges (a ++ b)

def gapsFrom (last : Nat) (start : Nat) : CodeSet → CodeSet
  | [] => if start ≤ last then [⟨start, last⟩] else []
  | r :: rest =>
    if start < r.low then ⟨start, r.low - 1⟩ :: gapsFrom last (r.high + 1) rest
    else gapsFrom last (r.high + 1) rest

def clip (r : CodeRange) (set : CodeSet) : CodeSet :=
  set.filterMap fun s =>
    let low := max r.low s.low
    let high := min r.high s.high
    if low ≤ high then some ⟨low, high⟩ else none

def inter (a b : CodeSet) : CodeSet := a.flatMap fun r => clip r b

end CodeSet

inductive Domain where
  | scalars
  | bytes
  deriving DecidableEq, Repr

namespace Domain

/-- The surrogates are code points but no scalar values. -/
def all : Domain → CodeSet
  | .scalars => [⟨0, 0xD7FF⟩, ⟨0xE000, 0x10FFFF⟩]
  | .bytes => [⟨0, 0xFF⟩]

def complement (u : Domain) (set : CodeSet) : CodeSet :=
  CodeSet.inter u.all (CodeSet.gapsFrom 0x10FFFF 0 set)

def difference (u : Domain) (a b : CodeSet) : CodeSet := CodeSet.inter a (u.complement b)

def symmetricDifference (u : Domain) (a b : CodeSet) : CodeSet :=
  u.difference (CodeSet.union a b) (CodeSet.inter a b)

end Domain
end PatternScan
