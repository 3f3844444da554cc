import PatternScan.Cache.RecencyList
import PatternScan.Cache.Statistics
import PatternScan.Config
import PatternScan.Text.Indexed
import PatternScan.Text.Utf8

namespace PatternScan

/-- A cache of compiled patterns. It owns its engine: what leaves the list is handed back to the
engine, once only, whether or not the engine takes it. -/
structure Cache (σ : Type) extends RecencyList where
  engine : σ
  logEvictions : Bool := false
  counters : Counters := {}

namespace Cache

variable {σ : Type}

/-- A capacity of 0 is taken as 1. -/
def new (engine : σ) (capacity : Nat) : Cache σ :=
  { toRecencyList := .empty (max capacity 1) (by omega), engine }

def withConfig (engine : σ) (config : Config) : Except Failure (Cache σ) := do
  config.validate
  return { new engine config.capacity with logEvictions := config.logEvictions }

def size (c : Cache σ) : Nat := c.entries.length

def isEmpty (c : Cache σ) : Bool := c.entries.isEmpty

def lookup? (c : Cache σ) (id : ScannerId) : Option Entry := c.peek id

/-- Whether a scanner has compiled patterns; looking does not count as using them. -/
def contains (c : Cache σ) (id : ScannerId) : Bool := c.entries.any (·.owner == id)

def others (c : Cache σ) (id : ScannerId) : List Entry := c.without id

def setLogEvictions (c : Cache σ) (on : Bool) : Cache σ := { c with logEvictions := on }

def statistics (c : Cache σ) : Statistics := ⟨c.counters, c.size, c.capacity⟩

section

variable [Engine σ]

def liveCount (c : Cache σ) : Nat := Engine.liveCount c.engine

/-- The engine's account of its latest failure, with U+FFFD for what is not UTF-8. -/
def account (engine : σ) : String := Text.Utf8.lossy (Engine.lastError engine)

def countReleaseFailure (c : Cache σ) : Cache σ :=
  { c with counters := { c.counters with releaseFailures := c.counters.releaseFailures + 1 } }

/-- Hands the patterns of an entry back. The engine hears nothing of an entry without patterns. -/
def release (c : Cache σ) (handles : List Handle) : Except Failure Unit × Cache σ :=
  if handles.isEmpty then (.ok (), c)
  else
    match Engine.dispose c.engine handles with
    | (.ok _, engine) => (.ok (), { c with engine })
    | (.error _, engine) =>
      (.error (.release (account engine)), countReleaseFailure { c with engine })

def firstFailure (before released : Except Failure Unit) : Except Failure Unit :=
  match before with
  | .ok _ => released
  | .error e => .error e

/-- Releases the entry of a scanner; false if it has none. -/
def evict (c : Cache σ) (id : ScannerId) : Except Failure Bool × Cache σ :=
  match c.pop id with
  | (none, _) => (.ok false, c)
  | (some entry, rest) =>
    let (released, c) := release { c with toRecencyList := rest } entry.handles
    (released.map fun _ => true, c)

def countEvictions (c : Cache σ) (count : Nat) : Cache σ :=
  { c with counters := { c.counters with evictions := c.counters.evictions + count } }

/-- Releases the entries used longest ago, one after the other, each counted as the given number of
evictions. None is kept because another one failed; the first failure is reported. -/
def releaseLast (c : Cache σ) (counted : Nat) (outcome : Except Failure Unit) :
    Nat → Except Failure Unit × Cache σ
  | 0 => (outcome, c)
  | count + 1 =>
    match c.popLast with
    | (none, _) => (outcome, c)
    | (some entry, rest) =>
      let (released, c) :=
        release (countEvictions { c with toRecencyList := rest } counted) entry.handles
      releaseLast c counted (firstFailure outcome released) count

/-- Releases all entries, the one used longest ago first. -/
def clear (c : Cache σ) : Except Failure Unit × Cache σ := c.releaseLast 0 (.ok ()) c.size

/-- Changes the capacity. The entries used longest ago are released as far as they no longer fit. -/
def resize (c : Cache σ) (capacity : Nat) : Except Failure Unit × Cache σ :=
  if h : capacity = 0 then (.error .zeroCapacity, c)
  else
    let (outcome, c) := c.releaseLast 1 (.ok ()) (c.size - capacity)
    (outcome,
      { c with toRecencyList := c.toRecencyList.resize capacity (Nat.pos_of_ne_zero h) })

/-- The bytes of a pattern as the engine expects them. -/
def patternBytes (pattern : String) : List UInt8 := (IndexedText.ofString pattern).terminated.toList

/-- Hands back what was compiled before a pattern failed. A refusal is counted, not reported. -/
def discard (c : Cache σ) (handles : List Handle) : Cache σ := (c.release handles).2

/-- Compiles patterns from the given index on; `done` holds the handles before, the last one first.
On a failure nothing stays compiled. -/
def compileFrom (c : Cache σ) (index : Nat) (done : List Handle) :
    List String → Except Failure (List Handle) × Cache σ
  | [] => (.ok done.reverse, c)
  | pattern :: rest =>
    match Engine.compile c.engine (patternBytes pattern) with
    | (.ok handle, engine) => compileFrom { c with engine } (index + 1) (handle :: done) rest
    | (.error _, engine) =>
      (.error (.compilation index (account engine)), discard { c with engine } done.reverse)

def compile (c : Cache σ) (patterns : List String) : Except Failure (List Handle) × Cache σ :=
  c.compileFrom 0 [] patterns

/-- Makes room for one more entry. -/
def makeRoom (c : Cache σ) : Except Failure Unit × Cache σ :=
  if c.capacity ≤ c.size then
    match c.popLast with
    | (some entry, rest) =>
      release (countEvictions { c with toRecencyList := rest } 1) entry.handles
    | (none, _) => (.ok (), c)
  else (.ok (), c)

/-- Stores an entry. If making room for it failed, that is reported, and the entry is stored. -/
def insert (c : Cache σ) (entry : Entry) : Except Failure Unit × Cache σ :=
  let (outcome, c) := c.makeRoom
  (outcome, { c with toRecencyList := c.put entry })

def countHit (c : Cache σ) : Cache σ :=
  { c with counters := { c.counters with hits := c.counters.hits + 1 } }

def countMiss (c : Cache σ) : Cache σ :=
  { c with counters := { c.counters with misses := c.counters.misses + 1 } }

def countCompilation (c : Cache σ) : Cache σ :=
  { c with counters := { c.counters with compilations := c.counters.compilations + 1 } }

/-- The handles of a scanner's patterns, which are compiled unless the cache has them. Either way
the scanner's entry is then the one used most recently. -/
def ensureCompiled (c : Cache σ) (id : ScannerId) (patterns : List String) :
    Except Failure (List Handle) × Cache σ :=
  match c.get id with
  | (some entry, moved) => (.ok entry.handles, countHit { c with toRecencyList := moved })
  | (none, _) =>
    match c.countMiss.compile patterns with
    | (.error e, c) => (.error e, c)
    | (.ok handles, c) =>
      let (outcome, c) := c.countCompilation.insert ⟨id, handles⟩
      (outcome.map fun _ => handles, c)

/-- The best match of a scanner's patterns at or after a byte of the text. -/
def findBest (c : Cache σ) (id : ScannerId) (patterns : List String) (text : Array UInt8)
    (start : Nat) : Except Failure (Option Found) × Cache σ :=
  match c.ensureCompiled id patterns with
  | (.error e, c) => (.error e, c)
  | (.ok _, c) =>
    match c.lookup? id with
    | none => (.error (.searching s!"No compiled patterns for scanner {id.text}"), c)
    | some entry =>
      match Engine.findBest c.engine entry.handles text start with
      | (.ok found, engine) => (.ok found, { c with engine })
      | (.error _, engine) => (.error (.searching (account engine)), { c with engine })

def configure (c : Cache σ) (config : Config) : Except Failure Unit × Cache σ :=
  (c.setLogEvictions config.logEvictions).resize config.capacity

/-- What is left when a cache goes out of use: everything is handed back. -/
def close (c : Cache σ) : Cache σ := c.clear.2

end

/-- The cache in one line, for a log. The inner statistics do not know how full it is. -/
def description (c : Cache σ) : String :=
  let n := c.counters
  s!"PatternCache \x7b len: {c.size}, capacity: {c.capacity}, stats: CacheStats \x7b " ++
    s!"hits: {n.hits}, misses: {n.misses}, compilations: {n.compilations}, " ++
    s!"evictions: {n.evictions}, release_failures: {n.releaseFailures}, " ++
    "live_entries: 0, capacity: 0 \x7d \x7d"

end Cache
end PatternScan
