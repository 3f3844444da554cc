import PatternScan.Cache.Basic

namespace PatternScan

inductive Hold where
  | free
  | reading
  | changing
  deriving DecidableEq, Repr

/-- A cache that several parties share. Nobody can change it while somebody else holds it, or read
it while somebody else holds it to change it. -/
structure SharedCache (σ : Type) where
  cache : Cache σ
  hold : Hold := .free

namespace SharedCache

variable {σ α : Type}

def acquire (s : SharedCache σ) : Except Failure (SharedCache σ) :=
  match s.hold with
  | .free => .ok { s with hold := .changing }
  | _ => .error .cacheBusy

def letGo (s : SharedCache σ) : SharedCache σ := { s with hold := .free }

/-- Uses the cache in a way that may change it. It is held meanwhile, and let go whether or not the
use succeeds. -/
def change (s : SharedCache σ) (use : Cache σ → Except Failure α × Cache σ) :
    Except Failure α × SharedCache σ :=
  match s.acquire with
  | .error e => (.error e, s)
  | .ok held =>
    let (result, cache) := use held.cache
    (result, { held with cache }.letGo)

/-- Looks at the cache, unless it is held by someone who changes it. -/
def read (s : SharedCache σ) (look : Cache σ → α) : Except Failure α :=
  match s.hold with
  | .changing => .error .cacheBusy
  | _ => .ok (look s.cache)

/-- Applies settings. Settings that no cache accepts are refused before the cache is asked for. -/
def configure [Engine σ] (s : SharedCache σ) (config : Config) :
    Except Failure Unit × SharedCache σ :=
  match config.validate with
  | .error e => (.error e, s)
  | .ok _ => s.change (·.configure config)

end SharedCache
end PatternScan
