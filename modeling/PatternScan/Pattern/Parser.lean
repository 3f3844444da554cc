import PatternScan.Pattern.Fault
import PatternScan.Pattern.NamedSet
import PatternScan.Text.Blank

namespace PatternScan.Pattern

structure Parser.State where
  rest : List Char
  flags : Flags
  groups : Nat
  names : List (List Char)

abbrev Parser := StateT Parser.State (Except Fault)

namespace Parser

def fail {α : Type} (fault : Fault) : Parser α := throw fault

def peek? : Parser (Option Char) := do return (← get).rest.head?

def skip : Parser Unit := modify fun s => { s with rest := s.rest.tail }

def flags : Parser Flags := do return (← get).flags

def setFlags (flags : Flags) : Parser Unit := modify fun s => { s with flags }

def withoutFiller : List Char → List Char
  | [] => []
  | c :: rest => if Text.isBlank c then withoutFiller rest else
      if c == '#' then inComment rest else c :: rest
where
  inComment : List Char → List Char
    | [] => []
    | c :: rest => if c == '\n' then withoutFiller rest else inComment rest

def skipFiller : Parser Unit := modify fun s =>
  { s with rest := if s.flags.verbose then withoutFiller s.rest else s.rest }

def skipWithFiller : Parser Unit := do
  skip
  skipFiller

def accept (expected : List Char) : Parser Bool := do
  let s ← get
  if expected.isPrefixOf s.rest then
    set { s with rest := s.rest.drop expected.length }
    return true
  else return false

def need (fault : Fault) : Parser Char := do
  match ← peek? with
  | some c => return c
  | none => fail fault

/-- The number of characters left, which bounds every loop. -/
def left : Parser Nat := do return (← get).rest.length

/-- What one escape or one plain character stands for. -/
inductive Atom where
  /-- A character; `byte` if it was written as a byte by two hexadecimal digits. -/
  | char (c : Char) (byte : Bool)
  | set (members : CodeSet)
  | look (test : Look)
  | dot

def hexDigit? (c : Char) : Option Nat :=
  if c.isDigit then some (c.toNat - '0'.toNat)
  else if 'a' ≤ c && c ≤ 'f' then some (c.toNat - 'a'.toNat + 10)
  else if 'A' ≤ c && c ≤ 'F' then some (c.toNat - 'A'.toNat + 10)
  else none

def scalar (code : Nat) : Parser Char :=
  if code < 0xD800 || (0xE000 ≤ code && code ≤ 0x10FFFF) then return Char.ofNat code
  else fail .escapeHexValue

def fixedHex (value : Nat) : Nat → Parser Nat
  | 0 => return value
  | count + 1 => do
    match hexDigit? (← need .escapeEnd) with
    | none => fail .escapeHexDigit
    | some d =>
      skipWithFiller
      fixedHex (value * 16 + d) count

def bracedHex (digits : List Nat) : Nat → Parser Nat
  | 0 => fail .escapeEnd
  | fuel + 1 => do
    let c ← need .escapeEnd
    if c == '\x7d' then
      skipWithFiller
      if digits.isEmpty then fail .escapeHexEmpty
      else return digits.foldr (fun d n => n * 16 + d) 0
    else
      match hexDigit? c with
      | none => fail .escapeHexDigit
      | some d =>
        skipWithFiller
        bracedHex (d :: digits) fuel

def hexEscape (letter : Char) : Parser Atom := do
  skipWithFiller
  if (← need .escapeEnd) == '\x7b' then
    skipWithFiller
    return .char (← scalar (← bracedHex [] ((← left) + 1))) false
  else
    let count := if letter == 'x' then 2 else if letter == 'u' then 4 else 8
    return .char (← scalar (← fixedHex 0 count)) (letter == 'x')

def bracedName (taken : List Char) : Nat → Parser (List Char)
  | 0 => fail .escapeEnd
  | fuel + 1 => do
    let c ← need .escapeEnd
    if c == '\x7d' then
      skip
      return taken.reverse
    else
      skipWithFiller
      bracedName (c :: taken) fuel

def splitAt? (mark : List Char) : List Char → Option (List Char × List Char)
  | [] => none
  | c :: rest =>
    if mark.isPrefixOf (c :: rest) then some ([], (c :: rest).drop mark.length)
    else (splitAt? mark rest).map fun (before, after) => (c :: before, after)

/-- The members of the property in braces. Its name and value are separated by a colon or by an
equals sign; an exclamation mark before the equals sign makes no difference. -/
def namedProperty? (name : List Char) : Option CodeSet :=
  match splitAt? ['!', '='] name <|> splitAt? [':'] name <|> splitAt? ['='] name with
  | some (name, value) => propertyValue? name value
  | none => property? name

def propertyEscape (negated : Bool) : Parser Atom := do
  skipWithFiller
  let c ← need .escapeEnd
  let found ←
    if c == '\x7b' then do
      skipWithFiller
      let name ← bracedName [] ((← left) + 1)
      pure (namedProperty? name)
    else if c == '\\' then fail .propertyUnknown
    else do
      skipWithFiller
      pure (property? [c])
  let flags ← flags
  if !flags.unicode then fail .unicodeNotAllowed
  match found with
  | some members => return .set (flags.negateIf negated (flags.fold members))
  | none => fail .propertyUnknown

def isNameLetter (c : Char) : Bool :=
  ('a' ≤ c && c ≤ 'z') || ('A' ≤ c && c ≤ 'Z') || c == '-'

def boundaryName (taken : List Char) : Nat → Parser (List Char)
  | 0 => return taken.reverse
  | fuel + 1 => do
    match ← peek? with
    | some c =>
      if isNameLetter c then
        skipWithFiller
        boundaryName (c :: taken) fuel
      else return taken.reverse
    | none => return taken.reverse

/-- A word boundary, whose name in braces may follow. Other braces are left for a repetition. -/
def boundaryEscape : Parser Atom := do
  let rule := (← flags).wordRule
  let before ← get
  if !(← accept ['\x7b']) then return .look (.boundary rule)
  skipFiller
  if !isNameLetter (← need .wordBoundaryUnclosed) then
    set before
    return .look (.boundary rule)
  let name ← boundaryName [] ((← left) + 1)
  if !(← accept ['\x7d']) then fail .wordBoundaryUnclosed
  match String.ofList name with
  | "start" => return .look (.wordStart rule)
  | "end" => return .look (.wordEnd rule)
  | "start-half" => return .look (.wordStartHalf rule)
  | "end-half" => return .look (.wordEndHalf rule)
  | _ => fail .wordBoundaryUnknown

def isEscapable (c : Char) : Bool := c.toNat < 0x80 && !c.isAlphanum && c != '<' && c != '>'

def controlEscape? (c : Char) : Option Char :=
  match c with
  | 'a' => some '\x07'
  | 'f' => some '\x0c'
  | 't' => some '\t'
  | 'n' => some '\n'
  | 'r' => some '\r'
  | 'v' => some '\x0b'
  | _ => none

def lookEscape? (flags : Flags) (c : Char) : Option Look :=
  match c with
  | 'A' => some .textStart
  | 'z' => some .textEnd
  | 'B' => some (.notBoundary flags.wordRule)
  | '<' => some (.wordStart flags.wordRule)
  | '>' => some (.wordEnd flags.wordRule)
  | _ => none

def escape : Parser Atom := do
  skip
  let c ← need .escapeEnd
  let flags ← flags
  if c.isDigit then fail .backreference
  else if c == 'x' || c == 'u' || c == 'U' then hexEscape c
  else if c == 'p' || c == 'P' then propertyEscape (c == 'P')
  else
    skip
    match flags.letterClass? c, controlEscape? c, lookEscape? flags c with
    | some members, _, _ => return .set members
    | _, some control, _ => return .char control false
    | _, _, some test => return .look test
    | none, none, none =>
      if c == 'b' then boundaryEscape
      else if isEscapable c then return .char c false
      else fail .escapeUnknown

inductive Combination where
  | intersection
  | difference
  | symmetricDifference

def combine (flags : Flags) (pending : Option (Combination × CodeSet)) (set : CodeSet) : CodeSet :=
  match pending with
  | none => set
  | some (combination, other) =>
    let a := flags.fold other
    let b := flags.fold set
    match combination with
    | .intersection => CodeSet.inter a b
    | .difference => flags.domain.difference a b
    | .symmetricDifference => flags.domain.symmetricDifference a b

def combination? (rest : List Char) : Option Combination :=
  match rest with
  | '&' :: '&' :: _ => some .intersection
  | '-' :: '-' :: _ => some .difference
  | '~' :: '~' :: _ => some .symmetricDifference
  | _ => none

/-- The code by which a character is a member of a set. -/
def memberCode (c : Char) (byte : Bool) : Parser Nat := do
  if (← flags).unicode || byte || c.toNat < 0x80 then return c.toNat
  else fail .unicodeNotAllowed

def rangeEnd (atom : Atom) : Parser Nat :=
  match atom with
  | .char c byte => memberCode c byte
  | _ => fail .classRangeEnds

def memberAtom : Parser Atom := do
  let c ← need .classUnclosed
  if c == '\\' then escape
  else
    skip
    return .char c false

/-- The members that an atom stands for when it is not the end of a range. -/
def membersOf (atom : Atom) : Parser CodeSet :=
  match atom with
  | .char c byte => do return CodeSet.single (← memberCode c byte)
  | .set members => return members
  | _ => fail .classEscape

/-- The character by which a hyphen before it is judged. In a verbose pattern blanks do not count,
nor does the sign of a comment, but the comment itself does. -/
def judging? (verbose : Bool) (rest : List Char) : Option Char :=
  if verbose then
    match rest.dropWhile Text.isBlank with
    | '#' :: comment => (comment.dropWhile Text.isBlank).head?
    | rest => rest.head?
  else rest.head?

/-- Whether a hyphen comes next that makes a range: not one before a bracket or another hyphen. -/
def startsRange (s : State) : Bool :=
  match s.rest with
  | '-' :: rest =>
    let next := judging? s.flags.verbose rest
    next != some ']' && next != some '-'
  | _ => false

def memberRange : Parser CodeSet := do
  let first ← memberAtom
  skipFiller
  let _ ← need .classUnclosed
  if startsRange (← get) then
    skipWithFiller
    let last ← memberAtom
    let low ← rangeEnd first
    let high ← rangeEnd last
    if low ≤ high then return CodeSet.range low high else fail .classRange
  else membersOf first

/-- A named ASCII class whose opening bracket comes next; nothing is taken if there is none. -/
def asciiClass : Parser (Option CodeSet) := do
  let before ← get
  if !(← accept ['[', ':']) then return none
  let negated ← accept ['^']
  let rest := (← get).rest
  let name := rest.takeWhile (· != ':')
  modify fun s => { s with rest := rest.drop name.length }
  let closed ← accept [':', ']']
  match asciiClass? (String.ofList name) with
  | some members =>
    if closed then
      let flags ← flags
      return some (flags.negateIf negated (flags.fold members))
    else
      set before
      return none
  | none =>
    set before
    return none

def leadingHyphens (members : CodeSet) : Nat → Parser CodeSet
  | 0 => return members
  | fuel + 1 => do
    if (← need .classUnclosed) == '-' then
      skipWithFiller
      leadingHyphens (CodeSet.single '-'.toNat) fuel
    else return members

/-- The opening bracket of a set, with a circumflex if it is negated, and the members that can only
stand at its front: hyphens, or a closing bracket. -/
def classOpening : Parser (Bool × CodeSet) := do
  skipWithFiller
  let negated := (← need .classUnclosed) == '^'
  if negated then skipWithFiller
  let members ← leadingHyphens [] ((← left) + 1)
  let c ← need .classUnclosed
  if members.isEmpty && c == ']' then
    skipWithFiller
    let _ ← need .classUnclosed
    return (negated, CodeSet.single ']'.toNat)
  else return (negated, members)

def classMembers (pending : Option (Combination × CodeSet)) (members : CodeSet) :
    Nat → Parser CodeSet
  | 0 => fail .classUnclosed
  | fuel + 1 => do
    skipFiller
    let c ← need .classUnclosed
    let flags ← flags
    if c == '[' then
      match ← asciiClass with
      | some more => classMembers pending (members.union more) fuel
      | none =>
        let (negated, first) ← classOpening
        let inner ← classMembers none first fuel
        let more := flags.negateIf negated (flags.fold inner)
        classMembers pending (members.union more) fuel
    else if c == ']' then
      skip
      return combine flags pending members
    else
      match combination? (← get).rest with
      | some combination =>
        skip
        skip
        classMembers (some (combination, combine flags pending members)) [] fuel
      | none => classMembers pending (members.union (← memberRange)) fuel

def bracketed : Parser Expr := do
  let (negated, first) ← classOpening
  let members ← classMembers none first ((← left) + 1)
  let flags ← flags
  return flags.ofSet (flags.negateIf negated (flags.fold members))

/-- Blanks around a number are skipped in every mode. -/
def skipBlanks : Parser Unit := do
  modify fun s => { s with rest := s.rest.dropWhile Text.isBlank }

def decimalDigits (taken : List Char) : Nat → Parser (List Char)
  | 0 => return taken.reverse
  | fuel + 1 => do
    match ← peek? with
    | some c =>
      if c.isDigit then
        skipWithFiller
        decimalDigits (c :: taken) fuel
      else return taken.reverse
    | none => return taken.reverse

def decimal? : Parser (Option Nat) := do
  skipBlanks
  let digits ← decimalDigits [] ((← left) + 1)
  skipBlanks
  skipFiller
  if digits.isEmpty then return none
  let value := digits.foldl (fun n c => n * 10 + (c.toNat - '0'.toNat)) 0
  if value < UInt32.size then return some value else fail .countTooLarge

def countRange : Parser (Nat × Option Nat) := do
  skipWithFiller
  let _ ← need .countUnclosed
  let least ← decimal?
  let c ← need .countUnclosed
  let range ←
    if c == ',' then do
      skipWithFiller
      let c ← need .countUnclosed
      match least with
      | none => fail .countMissing
      | some least =>
        if c == '\x7d' then pure (least, none)
        else
          match ← decimal? with
          | some most => pure (least, some most)
          | none => fail .countMissing
    else
      match least with
      | none => fail .countMissing
      | some least => pure (least, some least)
  if (← need .countUnclosed) == '\x7d' then
    skip
    return range
  else fail .countUnclosed

def lazyMark : Parser Bool := accept ['?']

def repetition (operator : Char) : Parser (Nat × Option Nat × Bool) := do
  let (least, most) ←
    if operator == '\x7b' then do
      let range ← countRange
      skipFiller
      pure range
    else do
      skip
      pure (if operator == '?' then (0, some 1)
        else if operator == '*' then (0, none)
        else (1, none))
  let marked ← lazyMark
  match most with
  | some most => if most < least then fail .countRange
  | none => pure ()
  return (least, most, (← flags).swapGreed == marked)

def flagLetters (flags : Flags) (negated dangling : Bool) (seen : List Char) :
    Nat → Parser (Flags × List Char)
  | 0 => fail .flagEnd
  | fuel + 1 => do
    let c ← need .flagEnd
    if c == ':' || c == ')' then
      if dangling then fail .flagDangling else return (flags, seen)
    else if seen.contains c then fail .flagRepeated
    else if c == '-' then
      skip
      flagLetters flags true true (c :: seen) fuel
    else
      match flags.set? c (!negated) with
      | some flags =>
        skip
        flagLetters flags negated false (c :: seen) fuel
      | none => fail .flagUnknown

def isNameStart (c : Char) : Bool := c == '_' || CodeSet.contains Unicode.alphabeticSet c.toNat

def isNamePart (c : Char) : Bool :=
  isNameStart c || c == '.' || c == '[' || c == ']' || CodeSet.contains Unicode.numericSet c.toNat

/-- The name of a group, up to its closing angle bracket; no two groups have the same. -/
def groupName : Parser Unit := do
  let rest := (← get).rest
  let name := rest.takeWhile (· != '>')
  match name with
  | [] => fail .groupName
  | first :: others =>
    if name.length == rest.length || !isNameStart first || !others.all isNamePart then
      fail .groupName
  if (← get).names.contains name then fail .groupNameRepeated
  modify fun s => { s with rest := rest.drop (name.length + 1), names := name :: s.names }

def nextGroup : Parser Nat := do
  modify fun s => { s with groups := s.groups + 1 }
  return (← get).groups

inductive Opening where
  | capturing (index : Nat)
  | plain
  /-- Only modes were switched; there is no group. -/
  | directive

/-- The opening of a group, with the modes that hold inside it in force. -/
def opening : Parser Opening := do
  skipWithFiller
  let rest := (← get).rest
  let isLookAround := [['?', '='], ['?', '!'], ['?', '<', '='], ['?', '<', '!']].any fun mark =>
    mark.isPrefixOf rest
  if isLookAround then fail .lookAround
  if (← accept ['?', 'P', '<']) || (← accept ['?', '<']) then
    let index ← nextGroup
    groupName
    return .capturing index
  else if ← accept ['?'] then
    let (newFlags, letters) ← flagLetters (← flags) false false [] ((← left) + 1)
    let c ← need .groupUnclosed
    skip
    if c == ')' then
      if letters.isEmpty then fail .repetitionMissing
      setFlags newFlags
      return .directive
    else
      setFlags newFlags
      return .plain
  else return .capturing (← nextGroup)

def ofAtom (flags : Flags) : Atom → Expr
  | .char c byte =>
    if byte && !flags.unicode && 0x80 ≤ c.toNat then .literal [UInt8.ofNat c.toNat]
    else
      let folded := flags.fold (CodeSet.single c.toNat)
      if folded == CodeSet.single c.toNat || (!flags.unicode && 0x80 ≤ c.toNat) then
        .literal (String.utf8EncodeChar c)
      else flags.ofSet folded
  | .set members => flags.ofSet members
  | .look test => .look test
  | .dot => flags.dot

def primitive (c : Char) : Parser Expr := do
  let flags ← flags
  if c == '\\' then
    let atom ← escape
    return ofAtom flags atom
  else
    skip
    if c == '.' then return ofAtom flags .dot
    else if c == '^' then return .look flags.lineStart
    else if c == '$' then return .look flags.lineEnd
    else return ofAtom flags (.char c false)

structure Draft where
  branches : List Expr
  parts : List Expr
  /-- Whether the last part can be repeated. -/
  repeatable : Bool

namespace Draft

def new : Draft := ⟨[], [], false⟩

def push (draft : Draft) (part : Expr) : Draft :=
  { draft with parts := part :: draft.parts, repeatable := true }

def repeatLast? (draft : Draft) (wrap : Expr → Expr) : Option Draft :=
  match draft.parts with
  | part :: others =>
    if draft.repeatable then some { draft with parts := wrap part :: others } else none
  | [] => none

/-- A switch of modes cannot be repeated. -/
def pushDirective (draft : Draft) : Draft := { draft with repeatable := false }

def closeBranch (draft : Draft) : Draft :=
  ⟨Expr.inSequence draft.parts.reverse :: draft.branches, [], false⟩

def finish (draft : Draft) : Expr := Expr.oneOf draft.closeBranch.branches.reverse

end Draft

/-- The branches from here to the parenthesis that closes them, or to the end of the source. -/
def branches (draft : Draft) : Nat → Parser Expr
  | 0 => fail .groupUnclosed
  | fuel + 1 => do
    skipFiller
    match ← peek? with
    | none => return draft.finish
    | some c =>
      if c == ')' then return draft.finish
      else if c == '|' then
        skip
        branches draft.closeBranch fuel
      else if c == '(' then
        let outside ← flags
        match ← opening with
        | .directive => branches draft.pushDirective fuel
        | .plain =>
          let body ← branches .new fuel
          if !(← accept [')']) then fail .groupUnclosed
          setFlags outside
          branches (draft.push body) fuel
        | .capturing index =>
          let body ← branches .new fuel
          if !(← accept [')']) then fail .groupUnclosed
          setFlags outside
          branches (draft.push (.group index body)) fuel
      else if c == '?' || c == '*' || c == '+' || c == '\x7b' then
        if (draft.repeatLast? id).isNone then fail .repetitionMissing
        let (least, most, greedy) ← repetition c
        match draft.repeatLast? (Expr.repeated least most greedy) with
        | some draft => branches draft fuel
        | none => fail .repetitionMissing
      else if c == '[' then
        let set ← bracketed
        branches (draft.push set) fuel
      else
        let part ← primitive c
        branches (draft.push part) fuel

def pattern : Parser Expr := do
  let expr ← branches .new ((← left) + 1)
  match ← peek? with
  | none => return expr
  | some _ => fail .groupUnopened

end Parser

def Expr.ofSource (source : String) : Except Fault Expr :=
  StateT.run' Parser.pattern ⟨source.toList, {}, 0, []⟩

end PatternScan.Pattern
