namespace PatternScan.Pattern

inductive Fault where
  | backreference
  | classEscape
  | classRange
  | classRangeEnds
  | classUnclosed
  | countMissing
  | countRange
  | countTooLarge
  | countUnclosed
  | escapeEnd
  | escapeHexDigit
  | escapeHexEmpty
  | escapeHexValue
  | escapeUnknown
  | flagDangling
  | flagEnd
  | flagRepeated
  | flagUnknown
  | groupName
  | groupNameRepeated
  | groupUnclosed
  | groupUnopened
  | lookAround
  | propertyUnknown
  | repetitionMissing
  | unicodeNotAllowed
  | wordBoundaryUnclosed
  | wordBoundaryUnknown
  deriving DecidableEq, Repr

namespace Fault

def reason : Fault → String
  | .backreference => "backreferences are not supported"
  | .classEscape => "invalid escape sequence found in character class"
  | .classRange => "invalid character class range, the start must be <= the end"
  | .classRangeEnds => "invalid range boundary, must be a literal"
  | .classUnclosed => "unclosed character class"
  | .countMissing => "repetition quantifier expects a valid decimal"
  | .countRange => "invalid repetition count range, the start must be <= the end"
  | .countTooLarge => "decimal literal invalid"
  | .countUnclosed => "unclosed counted repetition"
  | .escapeEnd => "incomplete escape sequence, reached end of pattern prematurely"
  | .escapeHexDigit => "invalid hexadecimal digit"
  | .escapeHexEmpty => "hexadecimal literal empty"
  | .escapeHexValue => "hexadecimal literal is not a Unicode scalar value"
  | .escapeUnknown => "unrecognized escape sequence"
  | .flagDangling => "dangling flag negation operator"
  | .flagEnd => "expected flag but got end of regex"
  | .flagRepeated => "duplicate flag"
  | .flagUnknown => "unrecognized flag"
  | .groupName => "invalid capture group name"
  | .groupNameRepeated => "duplicate capture group name"
  | .groupUnclosed => "unclosed group"
  | .groupUnopened => "unopened group"
  | .lookAround => "look-around, including look-ahead and look-behind, is not supported"
  | .propertyUnknown => "Unicode property not found"
  | .repetitionMissing => "repetition operator missing expression"
  | .unicodeNotAllowed => "Unicode not allowed here"
  | .wordBoundaryUnclosed =>
    "special word boundary assertion is unclosed or has an invalid character"
  | .wordBoundaryUnknown => "unrecognized special word boundary assertion"

def message (fault : Fault) : String := "regex parse error: " ++ fault.reason

end Fault
end PatternScan.Pattern
