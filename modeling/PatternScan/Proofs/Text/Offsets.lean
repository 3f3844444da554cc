import Mathlib.Algebra.Order.Ring.Nat
import PatternScan.Proofs.Text.Pieces
import PatternScan.Proofs.Text.SortedTable

namespace PatternScan.Text

def byteCount : List Piece → Nat
  | [] => 0
  | p :: rest => p.char.utf8Size + byteCount rest

/-- How many units spell the characters that lie entirely before the one that covers a byte; all of
them if there is no such character. -/
def unitsBefore : List Piece → Nat → Nat
  | [], _ => 0
  | p :: rest, byte =>
    if byte < p.char.utf8Size then 0 else p.width + unitsBefore rest (byte - p.char.utf8Size)

theorem unitCount_append (a b : List Piece) : unitCount (a ++ b) = unitCount a + unitCount b := by
  induction a with
  | nil => rw [List.nil_append, unitCount, Nat.zero_add]
  | cons p rest ih => rw [List.cons_append, unitCount, unitCount, ih, Nat.add_assoc]

theorem byteCount_append (a b : List Piece) : byteCount (a ++ b) = byteCount a + byteCount b := by
  induction a with
  | nil => rw [List.nil_append, byteCount, Nat.zero_add]
  | cons p rest ih => rw [List.cons_append, byteCount, byteCount, ih, Nat.add_assoc]

theorem length_utf8Bytes (units : List CodeUnit) :
    (utf8Bytes units).length = byteCount (pieces units) := by
  unfold utf8Bytes
  induction pieces units with
  | nil => rfl
  | cons p rest ih =>
    rw [List.flatMap_cons, List.length_append, String.length_utf8EncodeChar, ih, byteCount]

theorem unitsBefore_append (a b : List Piece) {byte : Nat} (h : byteCount a ≤ byte) :
    unitsBefore (a ++ b) byte = unitCount a + unitsBefore b (byte - byteCount a) := by
  induction a generalizing byte with
  | nil => rw [List.nil_append, unitCount, byteCount, Nat.zero_add, Nat.sub_zero]
  | cons p rest ih =>
    rw [byteCount] at h
    have hrest := ih (show byteCount rest ≤ byte - p.char.utf8Size by omega)
    rw [List.cons_append, unitsBefore, if_neg (by omega), hrest, unitCount, byteCount, Nat.sub_sub,
      Nat.add_assoc]

theorem unitsBefore_of_split {before after : List Piece} {p : Piece} {byte : Nat}
    (hle : byteCount before ≤ byte) (hlt : byte < byteCount before + p.char.utf8Size) :
    unitsBefore (before ++ p :: after) byte = unitCount before := by
  rw [unitsBefore_append before (p :: after) hle, unitsBefore, if_pos (by omega), Nat.add_zero]

/-- Between characters, the units before a byte are those of the characters before it. -/
theorem unitsBefore_byteCount (before after : List Piece) :
    unitsBefore (before ++ after) (byteCount before) = unitCount before := by
  cases after with
  | nil =>
    rw [unitsBefore_append _ _ (Nat.le_refl _)]
    rfl
  | cons p rest =>
    exact unitsBefore_of_split (Nat.le_refl _) (Nat.lt_add_of_pos_right p.char.utf8Size_pos)

theorem unitCount_eq_sum (ps : List Piece) : unitCount ps = (ps.map Piece.width).sum := by
  induction ps with
  | nil => rfl
  | cons p rest ih => rw [unitCount, ih, List.map_cons, List.sum_cons]

theorem byteCount_eq_sum (ps : List Piece) :
    byteCount ps = (ps.map fun p => p.char.utf8Size).sum := by
  induction ps with
  | nil => rfl
  | cons p rest ih => rw [byteCount, ih, List.map_cons, List.sum_cons]

/-- A place in a text belongs to one of the characters that share it out. -/
theorem exists_split_of_lt_sum (size : Piece → Nat) {ps : List Piece} {place : Nat}
    (h : place < (ps.map size).sum) :
    ∃ before p after, ps = before ++ p :: after ∧ (before.map size).sum ≤ place ∧
      place < (before.map size).sum + size p := by
  induction ps generalizing place with
  | nil => simp at h
  | cons p rest ih =>
    by_cases hp : place < size p
    · exact ⟨[], p, rest, rfl, by simp, by simpa using hp⟩
    · rw [List.map_cons, List.sum_cons] at h
      obtain ⟨before, q, after, rfl, hle, hlt⟩ :=
        ih (show place - size p < (rest.map size).sum by omega)
      refine ⟨p :: before, q, after, rfl, ?_, ?_⟩
      · rw [List.map_cons, List.sum_cons]
        omega
      · rw [List.map_cons, List.sum_cons]
        omega

theorem exists_split {ps : List Piece} {byte : Nat} (h : byte < byteCount ps) :
    ∃ before p after, ps = before ++ p :: after ∧ byteCount before ≤ byte ∧
      byte < byteCount before + p.char.utf8Size := by
  simp only [byteCount_eq_sum] at h ⊢
  exact exists_split_of_lt_sum _ h

/-- Every unit belongs to a character. -/
theorem exists_split_unit {ps : List Piece} {unit : Nat} (h : unit < unitCount ps) :
    ∃ before p after, ps = before ++ p :: after ∧ unitCount before ≤ unit ∧
      unit < unitCount before + p.width := by
  simp only [unitCount_eq_sum] at h ⊢
  exact exists_split_of_lt_sum _ h

theorem unitsBefore_eq_unitCount {ps : List Piece} {byte : Nat} (h : byteCount ps ≤ byte) :
    unitsBefore ps byte = unitCount ps := by
  have hall := unitsBefore_append ps [] h
  rwa [List.append_nil, unitsBefore, Nat.add_zero] at hall

theorem unitsBefore_le (ps : List Piece) (byte : Nat) : unitsBefore ps byte ≤ unitCount ps := by
  induction ps generalizing byte with
  | nil => exact Nat.le_refl _
  | cons p rest ih =>
    rw [unitsBefore, unitCount]
    have hrest := ih (byte - p.char.utf8Size)
    split
    · exact Nat.zero_le _
    · omega

theorem unitsBefore_mono (ps : List Piece) {a b : Nat} (h : a ≤ b) :
    unitsBefore ps a ≤ unitsBefore ps b := by
  induction ps generalizing a b with
  | nil => exact Nat.le_refl _
  | cons p rest ih =>
    rw [unitsBefore, unitsBefore]
    have hrest := ih (show a - p.char.utf8Size ≤ b - p.char.utf8Size by omega)
    split
    · exact Nat.zero_le _
    · rw [if_neg (by omega)]
      omega

/-- A unit alone takes at most three bytes, a pair four. -/
structure Piece.Fits (p : Piece) : Prop where
  width : p.width = 1 ∨ p.width = 2
  bytes_le : p.char.utf8Size ≤ 3 * p.width

theorem toNat_ofNat_le (n : Nat) : (Char.ofNat n).toNat ≤ n := by
  unfold Char.ofNat
  by_cases h : n.isValidChar
  · rw [dif_pos h]
    exact Nat.le_refl _
  · rw [dif_neg h]
    exact Nat.zero_le _

theorem utf8Size_le_three {c : Char} (h : c.toNat < 0x10000) : c.utf8Size ≤ 3 := by
  have hle := Char.utf8Size_le_four c
  have hne : c.utf8Size ≠ 4 := by
    intro hfour
    have hgt : 0xFFFF < c.toNat := UInt32.lt_iff_toNat_lt.mp (Char.utf8Size_eq_four_iff.mp hfour)
    omega
  omega

theorem utf8Size_alone_le (u : CodeUnit) : u.alone.utf8Size ≤ 3 := by
  unfold CodeUnit.alone
  split
  · decide
  · exact utf8Size_le_three (Nat.lt_of_le_of_lt (toNat_ofNat_le _) u.toNat_lt)

theorem utf8Size_alone_ascii {u : CodeUnit} (h : u.isAscii = true) : u.alone.utf8Size = 1 := by
  have hlt : u.toNat < 0x80 := UInt16.lt_iff_toNat_lt.mp (of_decide_eq_true h)
  have hhigh : u.isHigh = false := by
    rw [Bool.eq_false_iff, ne_eq, isHigh_iff]
    omega
  have hlow : u.isLow = false := by
    rw [Bool.eq_false_iff, ne_eq, isLow_iff]
    omega
  have hchar : (Char.ofNat u.toNat).toNat ≤ 127 := by
    have hle := toNat_ofNat_le u.toNat
    omega
  rw [CodeUnit.alone, hhigh, hlow, Char.utf8Size_eq_one_iff]
  exact UInt32.le_iff_toNat_le.mpr hchar

theorem fits_of_mem_pieces {units : List CodeUnit} {p : Piece} (h : p ∈ pieces units) : p.Fits := by
  have hpair : ∀ u v, Piece.Fits ⟨CodeUnit.pair u v, 2⟩ := fun u v =>
    ⟨Or.inr rfl, Nat.le_trans (Char.utf8Size_le_four _) (Nat.le_add_right 4 2)⟩
  have halone : ∀ u, Piece.Fits ⟨CodeUnit.alone u, 1⟩ := fun u => ⟨Or.inl rfl, utf8Size_alone_le u⟩
  fun_induction pieces units with
  | case1 => cases h
  | case2 u =>
    obtain rfl := List.mem_singleton.mp h
    exact halone u
  | case3 u v rest hp ih =>
    rcases List.mem_cons.mp h with rfl | h
    · exact hpair u v
    · exact ih h
  | case4 u v rest hp ih =>
    rcases List.mem_cons.mp h with rfl | h
    · exact halone u
    · exact ih h

theorem byteCount_le {ps : List Piece} (hf : ∀ p ∈ ps, p.Fits) :
    byteCount ps ≤ 3 * unitCount ps := by
  induction ps with
  | nil => exact Nat.le_refl _
  | cons p rest ih =>
    obtain ⟨hp, hrest⟩ := List.forall_mem_cons.mp hf
    have hle := hp.bytes_le
    have hall := ih hrest
    rw [byteCount, unitCount]
    omega

theorem length_beginnings (origin : Nat) (ps : List Piece) :
    (beginnings origin ps).length = unitCount ps := by
  induction ps generalizing origin with
  | nil => rfl
  | cons p rest ih => rw [beginnings, List.length_append, List.length_replicate, ih, unitCount]

theorem beginnings_append (origin : Nat) (a b : List Piece) :
    beginnings origin (a ++ b) = beginnings origin a ++ beginnings (origin + byteCount a) b := by
  induction a generalizing origin with
  | nil => rfl
  | cons p rest ih =>
    rw [List.cons_append, beginnings, ih, beginnings, byteCount, List.append_assoc, Nat.add_assoc]

theorem mem_beginnings {origin v : Nat} {ps : List Piece} (h : v ∈ beginnings origin ps) :
    origin ≤ v ∧ v < origin + byteCount ps := by
  induction ps generalizing origin with
  | nil => cases h
  | cons p rest ih =>
    have hpos := p.char.utf8Size_pos
    rw [beginnings] at h
    rw [byteCount]
    rcases List.mem_append.mp h with h | h
    · obtain rfl := List.eq_of_mem_replicate h
      omega
    · have hrest := ih h
      omega

theorem beginnings_split (before after : List Piece) (p : Piece) :
    beginnings 0 (before ++ p :: after) = beginnings 0 before ++
      (List.replicate p.width (byteCount before) ++
        beginnings (byteCount before + p.char.utf8Size) after) := by
  rw [beginnings_append, beginnings, Nat.zero_add]

theorem map_map_eq_self {α : Type} {pack : Nat → α} {value : α → Nat} {offsets : List Nat}
    (h : ∀ v ∈ offsets, value (pack v) = v) : (offsets.map pack).map value = offsets := by
  rw [List.map_map]
  exact (List.map_congr_left h).trans (List.map_id offsets)

/-- Offsets that so many code units can reach fit the width that is chosen by their number. -/
theorem PackedOffsets.toList_ofList {offsets : List Nat}
    (h : ∀ v ∈ offsets, v ≤ 3 * offsets.length ∧ v < 2 ^ 32) :
    (PackedOffsets.ofList offsets).toList = offsets := by
  unfold PackedOffsets.ofList
  dsimp only
  split
  · rename_i hreach
    apply map_map_eq_self
    intro v hv
    have hle := (h v hv).1
    rw [UInt8.toNat_ofNat']
    omega
  · split
    · rename_i hreach
      apply map_map_eq_self
      intro v hv
      have hle := (h v hv).1
      rw [UInt16.toNat_ofNat']
      omega
    · apply map_map_eq_self
      intro v hv
      rw [UInt32.toNat_ofNat']
      exact Nat.mod_eq_of_lt (h v hv).2

theorem PackedOffsets.indexOf_of_split {t : PackedOffsets} {before after : List Nat}
    {entry width byte : Nat} (ht : t.toList = before ++ (List.replicate width entry ++ after))
    (hbefore : ∀ v ∈ before, v < entry) (hentry : entry ≤ byte) (hafter : ∀ v ∈ after, byte < v)
    (hwidth : width = 1 ∨ width = 2) : t.indexOf byte = before.length := by
  cases t with
  | narrow entries => exact SortedTable.locate_of_split ht hbefore hentry hafter hwidth
  | medium entries => exact SortedTable.locate_of_split ht hbefore hentry hafter hwidth
  | wide entries => exact SortedTable.locate_of_split ht hbefore hentry hafter hwidth

section

variable {ps : List Piece} (hf : ∀ p ∈ ps, p.Fits) (hb : byteCount ps < 2 ^ 32)

include hf hb

theorem toList_ofList_beginnings :
    (PackedOffsets.ofList (beginnings 0 ps)).toList = beginnings 0 ps := by
  apply PackedOffsets.toList_ofList
  intro v hv
  have hlt := (mem_beginnings hv).2
  have hle := byteCount_le hf
  rw [length_beginnings]
  omega

theorem indexOf_beginnings {byte : Nat} (h : byte < byteCount ps) :
    (PackedOffsets.ofList (beginnings 0 ps)).indexOf byte = unitsBefore ps byte := by
  obtain ⟨before, p, after, rfl, hle, hlt⟩ := exists_split h
  have ht := (toList_ofList_beginnings hf hb).trans (beginnings_split before after p)
  have hbefore : ∀ v ∈ beginnings 0 before, v < byteCount before := by
    intro v hv
    have hv := (mem_beginnings hv).2
    rwa [Nat.zero_add] at hv
  have hafter : ∀ v ∈ beginnings (byteCount before + p.char.utf8Size) after, byte < v := fun v hv =>
    Nat.lt_of_lt_of_le hlt (mem_beginnings hv).1
  have hwidth : p.width = 1 ∨ p.width = 2 := (hf p (by simp)).width
  rw [unitsBefore_of_split hle hlt, ← length_beginnings 0 before]
  exact PackedOffsets.indexOf_of_split ht hbefore hle hafter hwidth

theorem get?_beginnings {before after : List Piece} {p : Piece} (hs : ps = before ++ p :: after)
    {offset : Nat} (ho : offset < p.width) :
    (PackedOffsets.ofList (beginnings 0 ps)).get? (unitCount before + offset) =
      some (byteCount before) := by
  rw [← PackedOffsets.getElem?_toList, toList_ofList_beginnings hf hb, hs, beginnings_split,
    ← length_beginnings 0 before]
  exact SortedTable.getElem?_middle _ _ _ ho

end

def asciiPieces (front : List CodeUnit) : List Piece := front.map fun u => ⟨u.alone, 1⟩

theorem isHigh_of_isAscii {u : CodeUnit} (h : u.isAscii = true) : u.isHigh = false := by
  have hlt : u.toNat < 0x80 := UInt16.lt_iff_toNat_lt.mp (of_decide_eq_true h)
  rw [Bool.eq_false_iff, ne_eq, isHigh_iff]
  omega

variable {front : List CodeUnit} (ha : ∀ u ∈ front, u.isAscii = true)

include ha

theorem pieces_ascii_append (rest : List CodeUnit) :
    pieces (front ++ rest) = asciiPieces front ++ pieces rest := by
  induction front with
  | nil => rfl
  | cons u front ih =>
    obtain ⟨hu, hfront⟩ := List.forall_mem_cons.mp ha
    rw [List.cons_append, pieces_alone _ (isHigh_of_isAscii hu), ih hfront]
    rfl

theorem byteCount_asciiPieces : byteCount (asciiPieces front) = front.length := by
  induction front with
  | nil => rfl
  | cons u front ih =>
    obtain ⟨hu, hfront⟩ := List.forall_mem_cons.mp ha
    have hrest : byteCount (asciiPieces front) = front.length := ih hfront
    change u.alone.utf8Size + byteCount (asciiPieces front) = _
    rw [utf8Size_alone_ascii hu, hrest, List.length_cons, Nat.add_comm]

theorem unitsBefore_asciiPieces (ps : List Piece) {byte : Nat} (h : byte < front.length) :
    unitsBefore (asciiPieces front ++ ps) byte = byte := by
  induction front generalizing byte with
  | nil => exact absurd h (Nat.not_lt_zero byte)
  | cons u front ih =>
    obtain ⟨hu, hfront⟩ := List.forall_mem_cons.mp ha
    change unitsBefore (⟨u.alone, 1⟩ :: (asciiPieces front ++ ps)) byte = byte
    rw [unitsBefore, utf8Size_alone_ascii hu]
    cases byte with
    | zero => rfl
    | succ byte =>
      have hrest : unitsBefore (asciiPieces front ++ ps) byte = byte :=
        ih hfront (Nat.lt_of_succ_lt_succ h)
      rw [if_neg (by omega), Nat.add_sub_cancel, hrest, Nat.add_comm]

omit ha

theorem unitCount_asciiPieces (front : List CodeUnit) :
    unitCount (asciiPieces front) = front.length := by
  induction front with
  | nil => rfl
  | cons u front ih =>
    change 1 + unitCount (asciiPieces front) = _
    rw [ih, List.length_cons, Nat.add_comm]

/-- The table that a text should have. -/
def OffsetMap.ofUnits? (units : List CodeUnit) : Option OffsetMap :=
  let start := (units.takeWhile CodeUnit.isAscii).length
  let rest := units.dropWhile CodeUnit.isAscii
  if rest.isEmpty then none
  else some ⟨start, PackedOffsets.ofList (beginnings 0 (pieces rest))⟩

theorem exists_ascii_front (units : List CodeUnit) :
    ∃ front rest, units = front ++ rest ∧ (∀ u ∈ front, u.isAscii = true) ∧
      OffsetMap.ofUnits? units = if rest = [] then none
        else some ⟨front.length, PackedOffsets.ofList (beginnings 0 (pieces rest))⟩ := by
  refine ⟨units.takeWhile CodeUnit.isAscii, units.dropWhile CodeUnit.isAscii,
    List.takeWhile_append_dropWhile.symm, List.all_eq_true.mp List.all_takeWhile, ?_⟩
  unfold OffsetMap.ofUnits?
  simp only [List.isEmpty_iff]

end PatternScan.Text
