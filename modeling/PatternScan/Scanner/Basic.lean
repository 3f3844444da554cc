import PatternScan.Cache.Shared
import PatternScan.Scanner.Result

namespace PatternScan

structure Scanner where
  id : ScannerId
  sources : List String
  deriving DecidableEq, Repr

namespace Scanner

variable {σ : Type} [Engine σ]

/-- The captures of a match in code units. A group that took no part stands empty at the end of the
text. -/
def captures (text : IndexedText) (found : Captures) : List Capture :=
  let absent : Span := ⟨text.content.size, text.content.size⟩
  found.zipIdx.map fun (span, index) =>
    let span := span.getD absent
    if text.hasMultiByte then Capture.between index (text.toUnit span.start) (text.toUnit span.stop)
    else Capture.between index span.start span.stop

/-- The best match at or after a code unit. Without patterns there is none, and the cache is not
asked for. -/
def findNext (s : Scanner) (text : IndexedText) (start : Nat) (shared : SharedCache σ) :
    Except Failure (Option ScanMatch) × SharedCache σ :=
  if s.sources.isEmpty then (.ok none, shared)
  else
    let (result, shared) := shared.change fun cache =>
      cache.findBest s.id s.sources text.content (text.toByte start)
    (result.map fun found =>
      found.map fun f => ⟨f.patternIndex, captures text f.captures⟩, shared)

def dispose (s : Scanner) (shared : SharedCache σ) : Except Failure Bool × SharedCache σ :=
  shared.change (·.evict s.id)

/-- What a scanner's end leaves of the cache: its entry goes, or stays if the cache is held. -/
def drop (s : Scanner) (shared : SharedCache σ) : SharedCache σ := (s.dispose shared).2

end Scanner
end PatternScan
