import PatternScan.Pattern.Flags
import PatternScan.Unicode.CaseFold
import PatternScan.Unicode.Property

namespace PatternScan.Pattern

def asciiDigits : CodeSet := [⟨0x30, 0x39⟩]

def asciiBlanks : CodeSet := [⟨0x09, 0x0D⟩, ⟨0x20, 0x20⟩]

def asciiWord : CodeSet := [⟨0x30, 0x39⟩, ⟨0x41, 0x5A⟩, ⟨0x5F, 0x5F⟩, ⟨0x61, 0x7A⟩]

def asciiClass? (name : String) : Option CodeSet :=
  match name with
  | "alnum" => some [⟨0x30, 0x39⟩, ⟨0x41, 0x5A⟩, ⟨0x61, 0x7A⟩]
  | "alpha" => some [⟨0x41, 0x5A⟩, ⟨0x61, 0x7A⟩]
  | "ascii" => some [⟨0x00, 0x7F⟩]
  | "blank" => some [⟨0x09, 0x09⟩, ⟨0x20, 0x20⟩]
  | "cntrl" => some [⟨0x00, 0x1F⟩, ⟨0x7F, 0x7F⟩]
  | "digit" => some asciiDigits
  | "graph" => some [⟨0x21, 0x7E⟩]
  | "lower" => some [⟨0x61, 0x7A⟩]
  | "print" => some [⟨0x20, 0x7E⟩]
  | "punct" => some [⟨0x21, 0x2F⟩, ⟨0x3A, 0x40⟩, ⟨0x5B, 0x60⟩, ⟨0x7B, 0x7E⟩]
  | "space" => some asciiBlanks
  | "upper" => some [⟨0x41, 0x5A⟩]
  | "word" => some asciiWord
  | "xdigit" => some [⟨0x30, 0x39⟩, ⟨0x41, 0x46⟩, ⟨0x61, 0x66⟩]
  | _ => none

namespace Flags

def fold (flags : Flags) (set : CodeSet) : CodeSet :=
  if flags.ignoreCase then
    if flags.unicode then Unicode.CaseFold.closure set else Unicode.CaseFold.asciiClosure set
  else set

def negateIf (flags : Flags) (negated : Bool) (set : CodeSet) : CodeSet :=
  if negated then flags.domain.complement set else set

/-- The set of an escape of one letter; a capital letter stands for the complement. -/
def letterClass? (flags : Flags) (letter : Char) : Option CodeSet :=
  let (digits, blanks, word) :=
    if flags.unicode then (Unicode.digitSet, Unicode.blankSet, Unicode.wordSet)
    else (asciiDigits, asciiBlanks, asciiWord)
  match letter with
  | 'd' => some digits
  | 's' => some blanks
  | 'w' => some word
  | 'D' => some (flags.negateIf true digits)
  | 'S' => some (flags.negateIf true blanks)
  | 'W' => some (flags.negateIf true word)
  | _ => none

end Flags

/-- Whether a property name begins with `is`, which adds nothing to it. -/
def hasIsPrefix : List Char → Bool
  | a :: b :: _ => a.toLower == 'i' && b.toLower == 's'
  | _ => false

def isNameMark (c : Char) : Bool := c.toNat < 0x80 && c != ' ' && c != '-' && c != '_'

/-- A property name without what its spellings differ in: a leading `is`, case, blanks, hyphens and
underscores. The one abbreviation that itself begins with `is` keeps it. -/
def propertyKey (name : List Char) : String :=
  if hasIsPrefix name then
    match ((name.drop 2).filter isNameMark).map Char.toLower with
    | ['c'] => "isc"
    | kept => String.ofList kept
  else String.ofList ((name.filter isNameMark).map Char.toLower)

def property? (name : List Char) : Option CodeSet :=
  let key := propertyKey name
  (Unicode.binary? key <|> Unicode.category? key <|> Unicode.script? key).map Unicode.scalarSet

def propertyValue? (name value : List Char) : Option CodeSet :=
  let key := propertyKey value
  match propertyKey name with
  | "gc" | "generalcategory" => (Unicode.category? key).map Unicode.scalarSet
  | "sc" | "script" => (Unicode.script? key).map Unicode.scalarSet
  | _ => none

end PatternScan.Pattern
