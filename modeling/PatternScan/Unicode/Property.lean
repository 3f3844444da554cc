import PatternScan.Unicode.CategoryRanges
import PatternScan.Unicode.PropertyRanges

namespace PatternScan.Unicode

open Ranges

/-- The code points of a range from its first on, or from its second on, by two. -/
def everyOther (offset : Nat) (r : CodeRange) : List CodeRange :=
  (List.range ((r.high - r.low + 1) / 2)).map fun k =>
    ⟨r.low + offset + 2 * k, r.low + offset + 2 * k⟩

def uppercase : List CodeRange := uppercaseLetter ++ alternatingCase.flatMap (everyOther 0)

def lowercase : List CodeRange := lowercaseLetter ++ alternatingCase.flatMap (everyOther 1)

def casedLetter : List CodeRange :=
  uppercaseLetter ++ lowercaseLetter ++ titlecaseLetter ++ alternatingCase

def letter : List CodeRange := casedLetter ++ modifierLetter ++ otherLetter

def mark : List CodeRange := nonspacingMark ++ spacingMark ++ enclosingMark

def number : List CodeRange := decimalNumber ++ letterNumber ++ otherNumber

def punctuation : List CodeRange :=
  connectorPunctuation ++ dashPunctuation ++ openPunctuation ++ closePunctuation ++
    initialPunctuation ++ finalPunctuation ++ otherPunctuation

def symbol : List CodeRange := mathSymbol ++ currencySymbol ++ modifierSymbol ++ otherSymbol

def separator : List CodeRange := spaceSeparator ++ lineSeparator ++ paragraphSeparator

/-- The assigned code points that are no letters, marks, numbers, punctuation, symbols or spaces. -/
def assignedOther : List CodeRange := control ++ format ++ surrogate ++ privateUse

def assigned : List CodeRange :=
  letter ++ mark ++ number ++ punctuation ++ symbol ++ separator ++ assignedOther

def unassigned : List CodeRange := CodeSet.gapsFrom 0x10FFFF 0 (CodeSet.ofRanges assigned)

def category? (name : String) : Option (List CodeRange) :=
  match name with
  | "l" | "letter" => some letter
  | "lc" | "casedletter" => some casedLetter
  | "lu" | "uppercaseletter" => some uppercase
  | "ll" | "lowercaseletter" => some lowercase
  | "lt" | "titlecaseletter" => some titlecaseLetter
  | "lm" | "modifierletter" => some modifierLetter
  | "lo" | "otherletter" => some otherLetter
  | "m" | "mark" | "combiningmark" => some mark
  | "mn" | "nonspacingmark" => some nonspacingMark
  | "mc" | "spacingmark" => some spacingMark
  | "me" | "enclosingmark" => some enclosingMark
  | "n" | "number" => some number
  | "nd" | "decimalnumber" | "digit" => some decimalNumber
  | "nl" | "letternumber" => some letterNumber
  | "no" | "othernumber" => some otherNumber
  | "p" | "punctuation" | "punct" => some punctuation
  | "pc" | "connectorpunctuation" => some connectorPunctuation
  | "pd" | "dashpunctuation" => some dashPunctuation
  | "ps" | "openpunctuation" => some openPunctuation
  | "pe" | "closepunctuation" => some closePunctuation
  | "pi" | "initialpunctuation" => some initialPunctuation
  | "pf" | "finalpunctuation" => some finalPunctuation
  | "po" | "otherpunctuation" => some otherPunctuation
  | "s" | "symbol" => some symbol
  | "sm" | "mathsymbol" => some mathSymbol
  | "sc" | "currencysymbol" => some currencySymbol
  | "sk" | "modifiersymbol" => some modifierSymbol
  | "so" | "othersymbol" => some otherSymbol
  | "z" | "separator" => some separator
  | "zs" | "spaceseparator" => some spaceSeparator
  | "zl" | "lineseparator" => some lineSeparator
  | "zp" | "paragraphseparator" => some paragraphSeparator
  | "c" | "other" => some (assignedOther ++ unassigned)
  | "cc" | "control" | "cntrl" => some control
  | "cf" | "format" => some format
  | "cs" | "surrogate" => some surrogate
  | "co" | "privateuse" => some privateUse
  | "cn" | "unassigned" => some unassigned
  | "any" => some [⟨0, 0x10FFFF⟩]
  | "assigned" => some assigned
  | "ascii" => some [⟨0, 0x7F⟩]
  | _ => none

def script? (name : String) : Option (List CodeRange) :=
  match name with
  | "greek" | "grek" => some greek
  | _ => none

def binary? (name : String) : Option (List CodeRange) :=
  match name with
  | "whitespace" | "wspace" | "space" => some whiteSpace
  | "alphabetic" | "alpha" => some (letter ++ letterNumber ++ otherAlphabetic)
  | "joincontrol" | "joinc" => some joinControl
  | "graphemeextend" | "grext" => some (nonspacingMark ++ enclosingMark ++ otherGraphemeExtend)
  | _ => none

def scalarSet (ranges : List CodeRange) : CodeSet :=
  CodeSet.inter Domain.scalars.all (CodeSet.ofRanges ranges)

/-- Letters, marks, digits, connecting punctuation and what else keeps a word together. -/
def wordSet : CodeSet :=
  scalarSet (letter ++ letterNumber ++ otherAlphabetic ++ mark ++ decimalNumber ++
    connectorPunctuation ++ joinControl)

def alphabeticSet : CodeSet :=
  scalarSet (letter ++ letterNumber ++ otherAlphabetic)

def numericSet : CodeSet := scalarSet number

def digitSet : CodeSet := scalarSet decimalNumber

def blankSet : CodeSet := scalarSet whiteSpace

def printableSet : CodeSet :=
  scalarSet (letter ++ mark ++ number ++ punctuation ++ symbol ++ [⟨0x20, 0x20⟩])

def extendingSet : CodeSet := scalarSet (nonspacingMark ++ enclosingMark ++ otherGraphemeExtend)

end PatternScan.Unicode
