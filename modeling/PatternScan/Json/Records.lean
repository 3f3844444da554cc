import PatternScan.Cache.Statistics
import PatternScan.Config
import PatternScan.Json.Reader
import PatternScan.Scanner.Result

namespace PatternScan

namespace Json

def escapedChar (c : Char) : List Char :=
  if c == '"' || c == '\\' then ['\\', c]
  else if c == '\x08' then ['\\', 'b']
  else if c == '\t' then ['\\', 't']
  else if c == '\n' then ['\\', 'n']
  else if c == '\x0c' then ['\\', 'f']
  else if c == '\r' then ['\\', 'r']
  else if c.toNat < 0x20 then
    let digits := Nat.toDigits 16 c.toNat
    ['\\', 'u'] ++ List.replicate (4 - digits.length) '0' ++ digits
  else [c]

def writeString (s : String) : String :=
  String.ofList ('"' :: s.toList.flatMap escapedChar ++ ['"'])

def writeObject (members : List (String × String)) : String :=
  let written := members.map fun m => writeString m.1 ++ ":" ++ m.2
  "\x7b" ++ ",".intercalate written ++ "\x7d"

def writeList (elements : List String) : String := "[" ++ ",".intercalate elements ++ "]"

def requiredNatural (name : String) : Reader.Field Nat := ⟨name, Reader.natural, none⟩

end Json

open Json

namespace Config

def fields : List (Reader.Field (Nat ⊕ Bool)) :=
  [⟨"cache_capacity", Sum.inl <$> Reader.natural, some (.inl standard.capacity)⟩,
   ⟨"log_evictions", Sum.inr <$> Reader.flag, some (.inr standard.logEvictions)⟩]

def reader : Reader Config := do
  match ← Reader.record fields with
  | [.inl capacity, .inr logEvictions] => return ⟨capacity, logEvictions⟩
  | _ => Reader.mismatched

def ofJson (source : String) : Except Fault Config := Reader.readAll reader source

end Config

namespace Capture

def reader : Reader Capture := do
  match ← Reader.record (["index", "start", "end", "length"].map requiredNatural) with
  | [index, start, stop, length] => return ⟨index, start, stop, length⟩
  | _ => Reader.mismatched

def members (c : Capture) : List (String × String) :=
  [("index", toString c.index), ("start", toString c.start), ("end", toString c.stop),
   ("length", toString c.length)]

def toJson (c : Capture) : String := writeObject c.members

def ofJson (source : String) : Except Fault Capture := Reader.readAll reader source

end Capture

namespace ScanMatch

def fields : List (Reader.Field (Nat ⊕ List Capture)) :=
  [⟨"index", Sum.inl <$> Reader.natural, none⟩,
   ⟨"captureIndices", Sum.inr <$> Reader.list Capture.reader, none⟩]

def reader : Reader ScanMatch := do
  match ← Reader.record fields with
  | [.inl patternIndex, .inr captures] => return ⟨patternIndex, captures⟩
  | _ => Reader.mismatched

def toJson (m : ScanMatch) : String :=
  writeObject [("index", toString m.patternIndex),
    ("captureIndices", writeList (m.captures.map Capture.toJson))]

def ofJson (source : String) : Except Fault ScanMatch := Reader.readAll reader source

end ScanMatch

namespace CapturedText

def fields : List (Reader.Field (Nat ⊕ String)) :=
  ["index", "start", "end", "length"].map (fun name => ⟨name, Sum.inl <$> Reader.natural, none⟩) ++
    [⟨"match", Sum.inr <$> Reader.text, none⟩]

def reader : Reader CapturedText := do
  match ← Reader.record fields with
  | [.inl index, .inl start, .inl stop, .inl length, .inr text] =>
    return ⟨⟨index, start, stop, length⟩, text⟩
  | _ => Reader.mismatched

def toJson (c : CapturedText) : String :=
  writeObject (c.capture.members ++ [("match", writeString c.text)])

def ofJson (source : String) : Except Fault CapturedText := Reader.readAll reader source

end CapturedText

namespace Statistics

def fieldNames : List String :=
  ["hits", "misses", "compilations", "evictions", "release_failures", "live_entries", "capacity"]

def reader : Reader Statistics := do
  match ← Reader.record (fieldNames.map requiredNatural) with
  | [hits, misses, compilations, evictions, releaseFailures, entries, capacity] =>
    return ⟨⟨hits, misses, compilations, evictions, releaseFailures⟩, entries, capacity⟩
  | _ => Reader.mismatched

def toJson (s : Statistics) : String :=
  let c := s.counters
  writeObject (fieldNames.zip
    ([c.hits, c.misses, c.compilations, c.evictions, c.releaseFailures, s.entries,
      s.capacity].map toString))

def ofJson (source : String) : Except Fault Statistics := Reader.readAll reader source

end Statistics
end PatternScan
