import PatternScan.Scanner.Basic

namespace PatternScan

/-- The source of a finder. -/
inductive FinderSource where
  | pattern (source : String)
  | literal (value : Bool)
  deriving DecidableEq, Repr

inductive Finder where
  | pattern (id : ScannerId) (source : String)
  | literal (value : Bool)
  deriving DecidableEq, Repr

inductive Subject where
  | text (text : IndexedText)
  | literal (value : Bool)

namespace Finder

variable {σ : Type} [Engine σ]

def new (id : ScannerId) : FinderSource → Finder
  | .pattern source => .pattern id source
  | .literal value => .literal value

def source : Finder → FinderSource
  | .pattern _ source => .pattern source
  | .literal value => .literal value

def scanner? : Finder → Option Scanner
  | .pattern id source => some ⟨id, [source]⟩
  | .literal _ => none

def withText (text : IndexedText) (found : ScanMatch) : List CapturedText :=
  found.captures.map fun c => ⟨c, text.substring c.start c.stop⟩

/-- The captures of the first match at or after a code unit. -/
def search (f : Finder) (text : IndexedText) (start : Nat) (shared : SharedCache σ) :
    Except Failure (Option (List CapturedText)) × SharedCache σ :=
  match f.scanner? with
  | none => (.error .noPattern, shared)
  | some scanner =>
    let (result, shared) := scanner.findNext text start shared
    (result.map fun found => found.map (withText text), shared)

/-- Whether the pattern matches anywhere in a text. A yes-or-no value equals itself only. -/
def test (f : Finder) (subject : Subject) (shared : SharedCache σ) :
    Except Failure Bool × SharedCache σ :=
  match f, subject with
  | .literal a, .literal b => (.ok (a == b), shared)
  | .literal _, .text _ => (.ok false, shared)
  | .pattern _ _, .literal _ => (.ok false, shared)
  | .pattern _ _, .text text =>
    let (result, shared) := f.search text 0 shared
    (result.map Option.isSome, shared)

def drop (f : Finder) (shared : SharedCache σ) : SharedCache σ :=
  match f.scanner? with
  | some scanner => scanner.drop shared
  | none => shared

end Finder
end PatternScan
