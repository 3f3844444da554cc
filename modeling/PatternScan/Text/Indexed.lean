import PatternScan.Text.Unit
import PatternScan.Text.PackedOffsets

namespace PatternScan

namespace Text

/-- The offsets of all units from `start` on, relative to the byte at `start`. -/
structure OffsetMap where
  start : Nat
  offsets : PackedOffsets
  deriving DecidableEq, Repr

structure Encoding where
  content : Array UInt8
  map? : Option OffsetMap
  deriving DecidableEq, Repr

/-- An encoding that is being written: the bytes, the units that they stand for, and once a
character is not ASCII also the unit where the table begins and its offsets so far. -/
structure Encoder where
  bytes : Array UInt8 := #[]
  unitIndex : Nat := 0
  table? : Option (Nat × Array UInt32) := none

def Encoder.push (e : Encoder) (p : Piece) : Encoder :=
  let encoded := String.utf8EncodeChar p.char
  let table? :=
    match e.table? with
    | some table => some table
    | none => if 1 < encoded.length || 1 < p.width then some (e.unitIndex, #[]) else none
  { bytes := e.bytes ++ encoded.toArray
    unitIndex := e.unitIndex + p.width
    table? := table?.map fun (start, offsets) =>
      let relative := UInt32.ofNat (e.bytes.size - start)
      (start, offsets ++ Array.replicate p.width relative) }

/-- The encoding of a text, written character by character. -/
def Encoding.ofUnits (units : List CodeUnit) : Encoding :=
  let e := (pieces units).foldl Encoder.push {}
  ⟨e.bytes, e.table?.map fun (start, offsets) =>
    ⟨start, .ofList (offsets.toList.map UInt32.toNat)⟩⟩

end Text

open Text

/-- A text that callers index by code unit and patterns search by byte, together with its encoding.
-/
structure IndexedText where
  units : Array CodeUnit
  encoding : Encoding := Encoding.ofUnits units.toList
  encoding_eq : encoding = Encoding.ofUnits units.toList := by rfl

namespace IndexedText

def ofUnits (units : Array CodeUnit) : IndexedText := { units }

def ofString (s : String) : IndexedText := ofUnits (unitsOfString s).toArray

def size (t : IndexedText) : Nat := t.units.size

def isEmpty (t : IndexedText) : Bool := t.units.isEmpty

/-- The UTF-8 form of the text. -/
def content (t : IndexedText) : Array UInt8 := t.encoding.content

def terminated (t : IndexedText) : Array UInt8 := t.content.push 0

/-- Whether the two indexings differ anywhere. -/
def hasMultiByte (t : IndexedText) : Bool := t.encoding.map?.isSome

instance : BEq IndexedText := ⟨fun a b => a.units == b.units⟩

def toLossyString (t : IndexedText) : String := lossyString t.units.toList

/-- The text between two unit offsets, in either order; offsets past the end mean the end. -/
def substring (t : IndexedText) (a b : Nat) : String :=
  let a := min a t.size
  let b := min b t.size
  lossyString (t.units.extract (min a b) (max a b)).toList

/-- The byte at which the character of a unit begins. -/
def toByte (t : IndexedText) (offset : Int) : Nat :=
  if offset < 0 then 0
  else
    let index := offset.toNat
    if index < t.size then
      match t.encoding.map? with
      | some map =>
        if map.start ≤ index then
          match map.offsets.get? (index - map.start) with
          | some relative => relative + map.start
          | none => t.content.size
        else index
      | none => index
    else t.content.size

/-- The first unit of the character that covers a byte. -/
def toUnit (t : IndexedText) (offset : Int) : Nat :=
  if offset < 0 then 0
  else
    let byte := offset.toNat
    if byte < t.content.size then
      match t.encoding.map? with
      | some map =>
        if map.start ≤ byte then map.offsets.indexOf (byte - map.start) + map.start else byte
      | none => byte
    else t.size

end IndexedText
end PatternScan
