import PatternScan.Pattern.NamedSet
import PatternScan.Text.Utf8

namespace PatternScan.Pattern

open Text (Utf8.charAt? Utf8.isContinuation)

inductive Neighbour where
  | none
  | char (c : Char)
  | broken
  deriving DecidableEq, Repr

def Neighbour.isWord : Neighbour → Bool
  | .char c => CodeSet.contains Unicode.wordSet c.toNat
  | _ => false

def Neighbour.isBroken : Neighbour → Bool
  | .broken => true
  | _ => false

namespace Look

def isLineFeed (b : Option UInt8) : Bool := b == some 0x0A

def isReturn (b : Option UInt8) : Bool := b == some 0x0D

def isAsciiWord (b : Option UInt8) : Bool :=
  match b with
  | some b => CodeSet.contains asciiWord b.toNat
  | none => false

def byteBefore (text : Array UInt8) (here : Nat) : Option UInt8 :=
  match here with
  | 0 => none
  | i + 1 => text[i]?

/-- Where a character that ends before a position may begin: at most three bytes further back than
the last byte, past continuation bytes only. -/
def beginning (text : Array UInt8) (start : Nat) : Nat → Nat
  | 0 => start
  | steps + 1 =>
    match start, text[start]? with
    | i + 1, some b => if Utf8.isContinuation b then beginning text i steps else start
    | _, _ => start

def neighbourBefore (text : Array UInt8) (here : Nat) : Neighbour :=
  match here with
  | 0 => .none
  | i + 1 =>
    let start := beginning text i 3
    match Utf8.charAt? text start with
    | some (c, length) => if start + length ≤ here then .char c else .broken
    | none => .broken

def neighbourAfter (text : Array UInt8) (here : Nat) : Neighbour :=
  if text.size ≤ here then .none
  else
    match Utf8.charAt? text here with
    | some (c, _) => .char c
    | none => .broken

def lineStarts (rule : LineRule) (text : Array UInt8) (here : Nat) : Bool :=
  let before := byteBefore text here
  here == 0 || isLineFeed before ||
    (rule == .carriageReturn && isReturn before && !isLineFeed text[here]?)

def lineEnds (rule : LineRule) (text : Array UInt8) (here : Nat) : Bool :=
  let after := text[here]?
  match rule with
  | .lineFeed => here == text.size || isLineFeed after
  | .carriageReturn =>
    here == text.size || isReturn after ||
      (isLineFeed after && !isReturn (byteBefore text here))

/-- Whether a word character stands before and after, and whether either side is broken. -/
def wordSides (rule : WordRule) (text : Array UInt8) (here : Nat) : Bool × Bool × Bool × Bool :=
  match rule with
  | .ascii => (isAsciiWord (byteBefore text here), isAsciiWord text[here]?, false, false)
  | .unicode =>
    let before := neighbourBefore text here
    let after := neighbourAfter text here
    (before.isWord, after.isWord, before.isBroken, after.isBroken)

def holds (test : Look) (text : Array UInt8) (here : Nat) : Bool :=
  match test with
  | .textStart => here == 0
  | .textEnd => here == text.size
  | .lineStart rule => lineStarts rule text here
  | .lineEnd rule => lineEnds rule text here
  | .boundary rule =>
    let (before, after, _, _) := wordSides rule text here
    before != after
  | .notBoundary rule =>
    let (before, after, brokenBefore, brokenAfter) := wordSides rule text here
    !brokenBefore && !brokenAfter && before == after
  | .wordStart rule =>
    let (before, after, _, _) := wordSides rule text here
    !before && after
  | .wordEnd rule =>
    let (before, after, _, _) := wordSides rule text here
    before && !after
  | .wordStartHalf rule =>
    let (before, _, brokenBefore, _) := wordSides rule text here
    !brokenBefore && !before
  | .wordEndHalf rule =>
    let (_, after, _, brokenAfter) := wordSides rule text here
    !brokenAfter && !after

end Look
end PatternScan.Pattern
