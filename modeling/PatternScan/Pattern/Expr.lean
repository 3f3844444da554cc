import PatternScan.Unicode.CodeSet

namespace PatternScan.Pattern

inductive WordRule where
  | ascii
  | unicode
  deriving DecidableEq, Repr

/-- What ends a line: a line feed, or also a carriage return, the two together counting once. -/
inductive LineRule where
  | lineFeed
  | carriageReturn
  deriving DecidableEq, Repr

inductive Look where
  | textStart
  | textEnd
  | lineStart (rule : LineRule)
  | lineEnd (rule : LineRule)
  | boundary (rule : WordRule)
  | notBoundary (rule : WordRule)
  | wordStart (rule : WordRule)
  | wordEnd (rule : WordRule)
  /-- No word character before. -/
  | wordStartHalf (rule : WordRule)
  /-- No word character after. -/
  | wordEndHalf (rule : WordRule)
  deriving DecidableEq, Repr

inductive Expr where
  | empty
  | literal (bytes : List UInt8)
  /-- One character of the set, in UTF-8. -/
  | char (set : CodeSet)
  /-- One byte of the set. -/
  | byte (set : CodeSet)
  | look (test : Look)
  | repetition (least : Nat) (most : Option Nat) (greedy : Bool) (body : Expr)
  | group (index : Nat) (body : Expr)
  | sequence (parts : List Expr)
  | choice (branches : List Expr)
  deriving Repr

namespace Expr

def codeLength (code : Nat) : Nat :=
  if code < 0x80 then 1 else if code < 0x800 then 2 else if code < 0x10000 then 3 else 4

mutual

/-- The least number of bytes that a match has; absent where nothing matches. -/
def minLength : Expr → Option Nat
  | .empty => some 0
  | .literal bytes => some bytes.length
  | .char set => set.head?.map fun r => codeLength r.low
  | .byte set => set.head?.map fun _ => 1
  | .look _ => some 0
  | .repetition least _ _ body => (minLength body).map (· * least)
  | .group _ body => minLength body
  | .sequence parts => minLengthSum parts
  | .choice branches => minLengthLeast branches

def minLengthSum : List Expr → Option Nat
  | [] => some 0
  | part :: rest =>
    match minLength part, minLengthSum rest with
    | some m, some n => some (m + n)
    | _, _ => none

def minLengthLeast : List Expr → Option Nat
  | [] => none
  | [branch] => minLength branch
  | branch :: rest =>
    match minLength branch, minLengthLeast rest with
    | some m, some n => some (min m n)
    | _, _ => none

end

mutual

def isEmptyOnly : Expr → Bool
  | .empty => true
  | .literal bytes => bytes.isEmpty
  | .char _ => false
  | .byte _ => false
  | .look _ => true
  | .repetition _ most _ body => most.isSome && isEmptyOnly body
  | .group _ body => isEmptyOnly body
  | .sequence parts => allEmptyOnly parts
  | .choice branches => allEmptyOnly branches

def allEmptyOnly : List Expr → Bool
  | [] => true
  | part :: rest => isEmptyOnly part && allEmptyOnly rest

end

mutual

def lastGroup : Expr → Nat
  | .repetition _ _ _ body => lastGroup body
  | .group index body => max index (lastGroup body)
  | .sequence parts => lastGroupOf parts
  | .choice branches => lastGroupOf branches
  | _ => 0

def lastGroupOf : List Expr → Nat
  | [] => 0
  | part :: rest => max (lastGroup part) (lastGroupOf rest)

end

/-- Repeating what matches nothing but the empty text gains nothing after the first time. What is
repeated no times is dropped together with its groups. -/
def repeated (least : Nat) (most : Option Nat) (greedy : Bool) (body : Expr) : Expr :=
  let (least, most) : Nat × Option Nat :=
    if isEmptyOnly body then (min least 1, some (min (most.getD 1) 1)) else (least, most)
  match least, most with
  | 0, some 0 => .empty
  | 1, some 1 => body
  | least, most => .repetition least most greedy body

def inSequence : List Expr → Expr
  | [] => .empty
  | [part] => part
  | parts => .sequence parts

def oneOf : List Expr → Expr
  | [branch] => branch
  | branches => .choice branches

end Expr
end PatternScan.Pattern
