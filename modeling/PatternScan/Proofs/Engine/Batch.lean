import Mathlib.Data.List.Basic
import PatternScan.Engine.Arena
import PatternScan.Proofs.Engine.Slots

namespace PatternScan.RegexArena

variable {ρ : Type} {a : RegexArena ρ} {h : Handle} {hs : List Handle}

theorem exists_split_of_firstBad? {before : List Handle} (hb : a.firstBad? before hs = some h) :
    ∃ front back, hs = front ++ h :: back ∧ a.firstBad? before front = none ∧
      (h ∈ before ∨ h ∈ front ∨ a.isLive h = false) := by
  induction hs generalizing before with
  | nil => cases hb
  | cons g rest ih =>
    unfold firstBad? at hb
    split at hb
    · rename_i hbad
      obtain rfl := Option.some.inj hb
      refine ⟨[], rest, rfl, rfl, ?_⟩
      simp only [List.contains_eq_mem, Bool.or_eq_true, decide_eq_true_eq,
        Bool.not_eq_true'] at hbad
      exact hbad.imp_right Or.inr
    · rename_i hgood
      obtain ⟨front, back, rfl, hfront, hh⟩ := ih hb
      refine ⟨g :: front, back, rfl, ?_, ?_⟩
      · rw [firstBad?, if_neg hgood]
        exact hfront
      · -- A handle that repeats `g` is now one that repeats a handle of the batch.
        rcases hh with hm | hm | hdead
        · rcases List.mem_cons.mp hm with rfl | hm
          · exact Or.inr (Or.inl List.mem_cons_self)
          · exact Or.inl hm
        · exact Or.inr (Or.inl (List.mem_cons_of_mem g hm))
        · exact Or.inr (Or.inr hdead)

/-- The first handle of a batch that is not live or repeats one before it. -/
def FirstBad (a : RegexArena ρ) (hs : List Handle) (h : Handle) : Prop :=
  ∃ front back, hs = front ++ h :: back ∧ front.Nodup ∧ (∀ g ∈ front, a.isLive g = true) ∧
    (h ∈ front ∨ a.isLive h = false)

theorem firstBad_of_firstBad? (hb : a.firstBad? [] hs = some h) : a.FirstBad hs h := by
  obtain ⟨front, back, rfl, hfront, hh⟩ := exists_split_of_firstBad? hb
  obtain ⟨hn, hl, -⟩ := (firstBad?_eq_none_iff a [] front).mp hfront
  exact ⟨front, back, rfl, hn, hl, hh.resolve_left List.not_mem_nil⟩

theorem getElem?_slots_freeSlot (a : RegexArena ρ) (h : Handle) (slot : SlotNumber) :
    (a.freeSlot h).slots[slot.val]? =
      if (⟨slot⟩ : Handle) = h then a.slots[slot.val]?.map fun _ => none
      else a.slots[slot.val]? := by
  rw [freeSlot]
  by_cases hi : (⟨slot⟩ : Handle) = h
  · subst hi
    rw [if_pos rfl, Array.getElem?_setIfInBounds_self]
    split
    · rename_i hlt
      rw [Array.getElem?_eq_getElem hlt]
      rfl
    · rename_i hge
      rw [Array.getElem?_eq_none (Nat.not_lt.mp hge)]
      rfl
  · rw [if_neg hi, Array.getElem?_setIfInBounds_ne fun he => hi (Handle.eq_of_val he.symm)]

theorem getElem?_slots_foldl_freeSlot (a : RegexArena ρ) (hs : List Handle) (slot : SlotNumber) :
    (hs.foldl freeSlot a).slots[slot.val]? =
      if (⟨slot⟩ : Handle) ∈ hs then a.slots[slot.val]?.map fun _ => none
      else a.slots[slot.val]? := by
  induction hs generalizing a with
  | nil => rfl
  | cons h rest ih =>
    rw [List.foldl_cons, ih, getElem?_slots_freeSlot]
    by_cases hi : (⟨slot⟩ : Handle) = h <;> by_cases hr : (⟨slot⟩ : Handle) ∈ rest <;>
      simp [hi, hr, Option.map_map, Function.comp_def]

theorem getElem?_slots_beyond (a : RegexArena ρ) (hs : List Handle) {i : Nat}
    (h : UInt32.size ≤ i) :
    (hs.foldl freeSlot a).slots[i]? = a.slots[i]? := by
  induction hs generalizing a with
  | nil => rfl
  | cons g rest ih =>
    have hne : g.slot.val ≠ i := Nat.ne_of_lt (Nat.lt_of_lt_of_le g.slot.isLt h)
    rw [List.foldl_cons, ih, freeSlot, Array.getElem?_setIfInBounds_ne hne]

theorem free_foldl_freeSlot (a : RegexArena ρ) (hs : List Handle) :
    (hs.foldl freeSlot a).free = (hs.map Handle.slot).reverse ++ a.free := by
  induction hs generalizing a with
  | nil => rfl
  | cons h rest ih =>
    rw [List.foldl_cons, ih, List.map_cons, List.reverse_cons, List.append_assoc]
    rfl

theorem live_foldl_freeSlot (a : RegexArena ρ) (hs : List Handle) :
    (hs.foldl freeSlot a).live = a.live - hs.length := by
  induction hs generalizing a with
  | nil => rfl
  | cons h rest ih =>
    have hfreed : (a.freeSlot h).live = a.live - 1 := rfl
    rw [List.foldl_cons, ih, hfreed, List.length_cons]
    omega

theorem lastError_foldl_freeSlot (a : RegexArena ρ) (hs : List Handle) :
    (hs.foldl freeSlot a).lastError = a.lastError := by
  induction hs generalizing a with
  | nil => rfl
  | cons h rest ih => exact ih _

/-- What an arena is when a batch of its handles was disposed of. The slots of the batch are empty
and will be used first, the last one freed before all others. -/
structure Emptied (a : RegexArena ρ) (hs : List Handle) (b : RegexArena ρ) : Prop
    extends a.Without hs b where
  slots : ∀ slot : SlotNumber, b.slots[slot.val]? =
    if (⟨slot⟩ : Handle) ∈ hs then some none else a.slots[slot.val]?
  beyond : ∀ i, UInt32.size ≤ i → b.slots[i]? = a.slots[i]?
  free : b.free = (hs.map Handle.slot).reverse ++ a.free
  live : b.live + hs.length = a.live
  lastError : b.lastError = a.lastError

theorem Sound.emptied (ha : a.Sound) (hn : hs.Nodup) (hl : ∀ h ∈ hs, a.isLive h = true) :
    a.Emptied hs (hs.foldl RegexArena.freeSlot a) where
  sound := ha.foldl_freeSlot hn hl
  regex? := regex?_foldl_freeSlot a hs
  slots slot := by
    rw [getElem?_slots_foldl_freeSlot]
    split
    · rename_i hm
      obtain ⟨r, hr⟩ := isLive_iff.mp (hl ⟨slot⟩ hm)
      rw [show a.slots[slot.val]? = some (some r) from hr]
      rfl
    · rfl
  beyond _ := a.getElem?_slots_beyond hs
  free := free_foldl_freeSlot a hs
  live := by
    have := ha.length_le_live hn hl
    rw [live_foldl_freeSlot]
    omega
  lastError := lastError_foldl_freeSlot a hs

/-- In any arena that calls can produce, a batch is disposed of just when all its handles are live
and none of them is repeated; then its slots are empty and everything else stays. A batch that is
refused changes nothing but the account of the latest failure, which names the first handle that is
not live or repeats one before it. -/
theorem dispose_all_or_nothing [Regex ρ] (ha : a.Reachable) (hs : List Handle) :
    let (outcome, b) := a.dispose hs
    (outcome = .ok () ↔ hs.Nodup ∧ ∀ h ∈ hs, a.isLive h = true) ∧
    (outcome = .ok () ∧ a.Emptied hs b ∨
      ∃ h, a.FirstBad hs h ∧ outcome = .error .invalidHandle ∧
        b = { a with lastError := s!"Pattern handle {h.slot.val} is not live" }) := by
  have hgood := firstBad?_eq_none_iff a [] hs
  unfold dispose
  cases hb : a.firstBad? [] hs with
  | none =>
    obtain ⟨hn, hl, -⟩ := hgood.mp hb
    exact ⟨⟨fun _ => ⟨hn, hl⟩, fun _ => rfl⟩, Or.inl ⟨rfl, ha.sound.emptied hn hl⟩⟩
  | some h =>
    refine ⟨⟨fun hok => ?_, fun ⟨hn, hl⟩ => ?_⟩, Or.inr ⟨h, firstBad_of_firstBad? hb, rfl, rfl⟩⟩
    · cases hok
    · rw [hgood.mpr ⟨hn, hl, fun g _ => List.not_mem_nil⟩] at hb
      cases hb

/-- A live handle given twice stays live, and a batch that gives it once empties the arena. -/
theorem dispose_all_or_nothing_repeating :
    let a := ((empty : Arena).compile []).2
    a.dispose [⟨0⟩, ⟨0⟩] =
      (.error .invalidHandle, { a with lastError := "Pattern handle 0 is not live" }) ∧
    (a.dispose [⟨0⟩]).1 = .ok () ∧ (a.dispose [⟨0⟩]).2.live + 1 = a.live := by
  have ha : Reachable ((empty : Arena).compile []).2 := .compile .empty []
  have hlive : ((empty : Arena).compile []).2.isLive ⟨0⟩ = true := by decide +kernel
  refine ⟨?_, ?_⟩
  · obtain ⟨hiff, ⟨hok, -⟩ | ⟨h, ⟨front, back, hs, -⟩, hrefused, hleft⟩⟩ :=
      dispose_all_or_nothing ha [⟨0⟩, ⟨0⟩]
    · simpa using (hiff.mp hok).1
    · have hm : h ∈ [(⟨0⟩ : Handle), ⟨0⟩] := hs ▸ List.mem_append_right front List.mem_cons_self
      obtain rfl : h = ⟨0⟩ := by simpa using hm
      exact Prod.ext hrefused hleft
  · obtain ⟨hiff, ⟨hok, hempty⟩ | ⟨h, -, hrefused, -⟩⟩ := dispose_all_or_nothing ha [⟨0⟩]
    · exact ⟨hok, hempty.live⟩
    · rw [hiff.mpr ⟨by simp, by simpa using hlive⟩] at hrefused
      cases hrefused

end PatternScan.RegexArena
