import PatternScan.Text.SortedTable

namespace PatternScan.Text

inductive PackedOffsets where
  | narrow (entries : Array UInt8)
  | medium (entries : Array UInt16)
  | wide (entries : Array UInt32)
  deriving DecidableEq, Repr

namespace PackedOffsets

/-- The width depends on the number of entries alone: a code unit takes at most three bytes. -/
def ofList (offsets : List Nat) : PackedOffsets :=
  let reach := 3 * offsets.length
  if reach ≤ 0xFF then .narrow (offsets.map UInt8.ofNat).toArray
  else if reach ≤ 0xFFFF then .medium (offsets.map UInt16.ofNat).toArray
  else .wide (offsets.map UInt32.ofNat).toArray

def toList : PackedOffsets → List Nat
  | .narrow entries => entries.toList.map UInt8.toNat
  | .medium entries => entries.toList.map UInt16.toNat
  | .wide entries => entries.toList.map UInt32.toNat

def size : PackedOffsets → Nat
  | .narrow entries => entries.size
  | .medium entries => entries.size
  | .wide entries => entries.size

def isEmpty (t : PackedOffsets) : Bool := t.size == 0

def get? (t : PackedOffsets) (index : Nat) : Option Nat :=
  match t with
  | .narrow entries => entries[index]?.map UInt8.toNat
  | .medium entries => entries[index]?.map UInt16.toNat
  | .wide entries => entries[index]?.map UInt32.toNat

/-- The first code unit of the character that covers a byte. -/
def indexOf (t : PackedOffsets) (byte : Nat) : Nat :=
  match t with
  | .narrow entries => SortedTable.locate UInt8.toNat entries byte
  | .medium entries => SortedTable.locate UInt16.toNat entries byte
  | .wide entries => SortedTable.locate UInt32.toNat entries byte

theorem getElem?_toList (t : PackedOffsets) (index : Nat) : t.toList[index]? = t.get? index := by
  cases t <;> simp [toList, get?]

end PackedOffsets
end PatternScan.Text
