namespace PatternScan.Text.SortedTable

variable {α : Type}

def isBelow (value : α → Nat) (table : Array α) (target index : Nat) : Bool :=
  match table[index]? with
  | some entry => value entry < target
  | none => false

/-- Halves the part of the table that begins at `base` until one entry is left: the last one below
the target, or the first of the part if none is below it. -/
def narrowDown (value : α → Nat) (table : Array α) (target base size : Nat) : Nat :=
  if 1 < size then
    let middle := base + size / 2
    narrowDown value table target (if isBelow value table target middle then middle else base)
      (size - size / 2)
  else base
termination_by size

def lowerBound (value : α → Nat) (table : Array α) (target : Nat) : Nat :=
  let index := narrowDown value table target 0 table.size
  if isBelow value table target index then index + 1 else index

def reached (value : α → Nat) (table : Array α) (target index : Nat) : Bool :=
  match table[index]? with
  | some entry => value entry ≤ target
  | none => false

/-- The last index up to the given one whose entry does not exceed the target, or 0. -/
def walkBack (value : α → Nat) (table : Array α) (target : Nat) : Nat → Nat
  | 0 => 0
  | index + 1 =>
    if reached value table target (index + 1) then index + 1
    else walkBack value table target index

def repeats (value : α → Nat) (table : Array α) : Nat → Bool
  | 0 => false
  | index + 1 => table[index + 1]?.map value == table[index]?.map value

/-- The index whose entry covers the target; 0 in an empty table. -/
def locate (value : α → Nat) (table : Array α) (target : Nat) : Nat :=
  if table.isEmpty then 0
  else
    let index := walkBack value table target (lowerBound value table target)
    if repeats value table index then index - 1 else index

end PatternScan.Text.SortedTable
