import PatternScan.Engine.Basic

namespace PatternScan

structure ScannerId where
  number : Nat
  deriving DecidableEq, Repr

def ScannerId.next (id : ScannerId) : ScannerId := ⟨id.number + 1⟩

def ScannerId.text (id : ScannerId) : String := s!"#{id.number}"

structure Entry where
  owner : ScannerId
  handles : List Handle
  deriving DecidableEq, Repr

/-- Entries of different scanners, no more than `capacity`; the one used most recently comes first.
-/
structure RecencyList where
  entries : List Entry := []
  capacity : Nat
  capacity_pos : 0 < capacity
  owners_nodup : (entries.map Entry.owner).Nodup
  length_le : entries.length ≤ capacity

namespace RecencyList

def empty (capacity : Nat) (h : 0 < capacity) : RecencyList :=
  ⟨[], capacity, h, .nil, Nat.zero_le _⟩

def peek (l : RecencyList) (id : ScannerId) : Option Entry := l.entries.find? (·.owner == id)

def without (l : RecencyList) (id : ScannerId) : List Entry := l.entries.filter (·.owner != id)

def keep (l : RecencyList) (rest : List Entry) (h : rest.Sublist l.entries) : RecencyList :=
  { l with
    entries := rest
    owners_nodup := l.owners_nodup.sublist (h.map _)
    length_le := Nat.le_trans h.length_le l.length_le }

def pop (l : RecencyList) (id : ScannerId) : Option Entry × RecencyList :=
  (l.peek id, l.keep (l.without id) List.filter_sublist)

def popLast (l : RecencyList) : Option Entry × RecencyList :=
  (l.entries.getLast?, l.keep l.entries.dropLast (List.dropLast_sublist _))

theorem notMem_owners_without (l : RecencyList) (id : ScannerId) :
    id ∉ (l.without id).map Entry.owner := by
  simp [without]

/-- Puts an entry first, in place of the scanner's entry if it has one. In a full list the entry
used longest ago goes otherwise. -/
def put (l : RecencyList) (entry : Entry) : RecencyList :=
  { l with
    entries := (entry :: l.without entry.owner).take l.capacity
    owners_nodup := by
      have hkept := List.filter_sublist (l := l.entries) (p := (·.owner != entry.owner))
      have hrest := l.owners_nodup.sublist (hkept.map Entry.owner)
      exact (List.nodup_cons.mpr ⟨l.notMem_owners_without _, hrest⟩).sublist
        ((List.take_sublist _ _).map _)
    length_le := List.length_take_le _ _ }

def get (l : RecencyList) (id : ScannerId) : Option Entry × RecencyList :=
  match l.peek id with
  | some entry => (some entry, l.put entry)
  | none => (none, l)

/-- Another capacity. The entries used longest ago go as far as they no longer fit. -/
def resize (l : RecencyList) (capacity : Nat) (h : 0 < capacity) : RecencyList where
  entries := l.entries.take capacity
  capacity := capacity
  capacity_pos := h
  owners_nodup := l.owners_nodup.sublist ((List.take_sublist _ _).map _)
  length_le := List.length_take_le _ _

end RecencyList
end PatternScan
