import PatternScan.Session.World

namespace PatternScan.Session

/-- A text that is given on the spot or prepared before. -/
inductive TextRef where
  | given (text : IndexedText)
  | prepared (number : Nat)

inductive SubjectRef where
  | text (text : TextRef)
  | literal (value : Bool)

inductive Query where
  | find (object : Nat) (text : TextRef) (start : Nat)
  | search (object : Nat) (text : TextRef) (start : Nat)
  | test (object : Nat) (subject : SubjectRef)

/-- What a program does in one go. Caches, objects and prepared texts have numbers, in the order of
their creation. A missing cache number means the common cache. -/
inductive Action (σ : Type) where
  | newCache (engine : σ) (capacity : Nat)
  | newConfigured (engine : σ) (config : Config)
  | useCommon
  | release (cache : Nat)
  | newScanner (sources : List String) (cache : Option Nat)
  | newFinder (source : FinderSource) (cache : Option Nat)
  | newIdentity
  | newText (text : IndexedText)
  | ask (query : Query)
  | source (object : Nat)
  | sources (object : Nat)
  | searchesWith (object cache : Nat)
  | dispose (object : Nat)
  | drop (object : Nat)
  /-- A search on behalf of an object, whatever its own patterns are. -/
  | findOnBehalf (cache object : Nat) (patterns : List String) (text : Array UInt8) (start : Nat)
  | evict (cache object : Nat)
  | clear (cache : Nat)
  | resize (cache capacity : Nat)
  | setLog (cache : Nat) (on : Bool)
  | describe (cache : Nat)
  | configure (config : Config)
  | statistics
  /-- Reaches through to the engine, even if the cache is held or the reference was given up. -/
  | instruct (cache : Nat) (instruction : σ → σ)

inductive Step (σ : Type) where
  | act (action : Action σ)
  /-- A search that hands its result on; the steps are what happens then. -/
  | call (query : Query) (body : List (Step σ))
  /-- Steps during which the program holds a cache. -/
  | hold (cache : Nat) (mode : Hold) (body : List (Step σ))

/-- What an action answers. -/
inductive Reply where
  | nothing
  | number (n : Nat)
  | flag (value : Bool)
  | text (text : String)
  | source (source : FinderSource)
  | sources (sources : List String)
  | found (found : Option ScanMatch)
  | captures (captures : Option (List CapturedText))
  | best (found : Option Found)
  | statistics (statistics : Statistics)
  deriving DecidableEq, Repr

/-- The answer to a step, with what was observed after it. -/
inductive Answer (ρ : Type) where
  | reply (reply : Except Failure Reply) (observed : ρ)
  | called (result : Except Failure Reply) (body : List (Answer ρ)) (observed : ρ)
  | held (body : List (Answer ρ)) (observed : ρ)

end PatternScan.Session
