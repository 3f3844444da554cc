import Mathlib.Data.List.Perm.Subperm
import PatternScan.Engine.RegexArena
import PatternScan.Proofs.Text.Utf8

namespace PatternScan.RegexArena

variable {ρ : Type} {a : RegexArena ρ} {h : Handle} {r : ρ} {hs : List Handle}

/-- Every slot has a number of its own. -/
def Roomy (a : RegexArena ρ) : Prop := a.slots.size ≤ UInt32.size

instance (a : RegexArena ρ) : Decidable a.Roomy := inferInstanceAs (Decidable (_ ≤ _))

/-- The free slots are the empty ones, each listed once, and the others are counted. -/
structure Sound (a : RegexArena ρ) : Prop where
  free_nodup : a.free.Nodup
  mem_free : ∀ slot : SlotNumber, slot ∈ a.free ↔ a.slots[slot.val]? = some none
  live_eq : a.live = a.slots.countP Option.isSome

theorem sound_empty : (empty : RegexArena ρ).Sound :=
  ⟨List.nodup_nil, fun slot => by simp [empty], rfl⟩

theorem isLive_iff : a.isLive h = true ↔ ∃ r, a.slots[h.slot.val]? = some (some r) := by
  simp [isLive, regex?, Option.isSome_iff_exists, Option.join_eq_some_iff]

theorem Handle.eq_of_val {g h : Handle} (he : g.slot.val = h.slot.val) : g = h :=
  congrArg Handle.mk (Fin.ext he)

/-- The latest account is no part of what makes an arena sound. -/
theorem Sound.fail (hs : a.Sound) (message : String) : ({ a with lastError := message }).Sound :=
  ⟨hs.free_nodup, hs.mem_free, hs.live_eq⟩

theorem isLive_congr {b : RegexArena ρ} (hr : b.regex? h = a.regex? h) : b.isLive h = a.isLive h :=
  congrArg Option.isSome hr

def occupied (a : RegexArena ρ) : List Nat :=
  (List.range a.slots.size).filter fun i => a.slots[i]?.join.isSome

theorem mem_occupied_iff {i : Nat} : i ∈ a.occupied ↔ ∃ r, a.slots[i]? = some (some r) := by
  rw [occupied, List.mem_filter, List.mem_range, Option.isSome_iff_exists]
  simp only [Option.join_eq_some_iff]
  exact ⟨And.right, fun ⟨r, hr⟩ => ⟨(Array.getElem?_eq_some_iff.mp hr).1, r, hr⟩⟩

theorem nodup_occupied (a : RegexArena ρ) : a.occupied.Nodup := List.nodup_range.filter _

theorem Sound.live_eq_length_occupied (ha : a.Sound) : a.live = a.occupied.length := by
  have hslots : a.slots.toList = (List.range a.slots.size).map fun i => a.slots[i]?.join := by
    apply List.ext_getElem
    · simp
    · intro i hi hi'
      simp only [List.length_map, List.length_range] at hi'
      simp [hi']
  rw [ha.live_eq, ← Array.countP_toList, hslots, List.countP_map, List.countP_eq_length_filter]
  rfl

theorem nodup_places (hn : hs.Nodup) : (hs.map fun h => h.slot.val).Nodup :=
  List.Pairwise.map _ (fun _ _ hne he => hne (Handle.eq_of_val he)) hn

theorem mem_occupied_of_isLive (hl : a.isLive h = true) : h.slot.val ∈ a.occupied :=
  mem_occupied_iff.mpr (isLive_iff.mp hl)

/-- There are at least as many live expressions as a list has different live handles. -/
theorem Sound.length_le_live (ha : a.Sound) (hn : hs.Nodup) (hl : ∀ h ∈ hs, a.isLive h = true) :
    hs.length ≤ a.live := by
  rw [ha.live_eq_length_occupied, ← List.length_map (fun h : Handle => h.slot.val)]
  refine (List.subperm_of_subset (nodup_places hn) ?_).length_le
  intro i hi
  obtain ⟨h, hm, rfl⟩ := List.mem_map.mp hi
  exact mem_occupied_of_isLive (hl h hm)

theorem Sound.live_eq_length (ha : a.Sound) (hroom : a.Roomy) (hn : hs.Nodup)
    (hl : ∀ h, a.isLive h = true ↔ h ∈ hs) : a.live = hs.length := by
  have hp : a.occupied.Perm (hs.map fun h => h.slot.val) := by
    apply (List.perm_ext_iff_of_nodup a.nodup_occupied (nodup_places hn)).mpr
    intro i
    rw [List.mem_map]
    constructor
    · intro hi
      obtain ⟨r, hr⟩ := mem_occupied_iff.mp hi
      have hlt : i < UInt32.size := Nat.lt_of_lt_of_le (Array.getElem?_eq_some_iff.mp hr).1 hroom
      exact ⟨⟨⟨i, hlt⟩⟩, (hl _).mp (isLive_iff.mpr ⟨r, hr⟩), rfl⟩
    · rintro ⟨h, hm, rfl⟩
      exact mem_occupied_of_isLive ((hl h).mpr hm)
  rw [ha.live_eq_length_occupied, hp.length_eq, List.length_map]

theorem exists_live (a : RegexArena ρ) : ∃ hs : List Handle,
    hs.Nodup ∧ ∀ h, a.isLive h = true ↔ h ∈ hs := by
  refine ⟨((List.finRange UInt32.size).map Handle.mk).filter a.isLive, ?_, ?_⟩
  · refine List.Pairwise.filter _ (List.Pairwise.map Handle.mk ?_ (List.nodup_finRange _))
    exact fun i j hne he => hne (congrArg Handle.slot he)
  · intro h
    rw [List.mem_filter]
    exact ⟨fun hlive => ⟨List.mem_map.mpr ⟨h.slot, List.mem_finRange _, rfl⟩, hlive⟩, And.right⟩

theorem val_ofNat_size (hroom : ({ a with slots := a.slots.push (some r) } : RegexArena ρ).Roomy) :
    (Fin.ofNat UInt32.size a.slots.size).val = a.slots.size := by
  have hlt : a.slots.size + 1 ≤ UInt32.size := by simpa [Roomy] using hroom
  exact Nat.mod_eq_of_lt hlt

theorem isLive_store (hs : a.Sound) (hroom : (a.store r).2.Roomy) :
    a.isLive (a.store r).1 = false := by
  rw [Bool.eq_false_iff, ne_eq, isLive_iff]
  rintro ⟨q, hq⟩
  cases hf : a.free with
  | nil =>
    simp only [store, hf] at hq hroom
    rw [val_ofNat_size hroom] at hq
    simp at hq
  | cons slot free =>
    have hempty := (hs.mem_free slot).mp (by simp [hf])
    simp [store, hf, hempty] at hq

theorem regex?_store (hs : a.Sound) (hroom : (a.store r).2.Roomy) (h : Handle) :
    (a.store r).2.regex? h = if h = (a.store r).1 then some r else a.regex? h := by
  cases hf : a.free with
  | nil =>
    simp only [store, hf] at hroom
    have hval := val_ofNat_size hroom
    simp only [store, hf, regex?, Array.getElem?_push]
    by_cases hh : h.slot.val = a.slots.size
    · have he : h = ⟨Fin.ofNat _ a.slots.size⟩ := Handle.eq_of_val (hh.trans hval.symm)
      rw [if_pos hh, if_pos he]
      rfl
    · have hne : h ≠ ⟨Fin.ofNat _ a.slots.size⟩ := fun he => hh (he ▸ hval)
      rw [if_neg hh, if_neg hne]
  | cons slot free =>
    have hempty := (hs.mem_free slot).mp (by simp [hf])
    have hlt : slot.val < a.slots.size := (Array.getElem?_eq_some_iff.mp hempty).1
    simp only [store, hf, regex?]
    by_cases hh : h.slot = slot
    · simp [hlt, show h = ⟨slot⟩ from congrArg Handle.mk hh]
    · have hne : slot.val ≠ h.slot.val := fun he => hh (Fin.ext he.symm)
      rw [Array.getElem?_setIfInBounds_ne hne, if_neg fun he => hh (congrArg Handle.slot he)]

theorem Sound.store (hs : a.Sound) (r : ρ) : (a.store r).2.Sound := by
  cases hf : a.free with
  | nil =>
    simp only [RegexArena.store, hf]
    refine ⟨List.nodup_nil, ?_, ?_⟩
    · intro slot
      have hnone := hs.mem_free slot
      simp only [hf, List.not_mem_nil, false_iff] at hnone
      simp only [List.not_mem_nil, Array.getElem?_push, false_iff]
      split <;> simp_all
    · simp [hs.live_eq]
  | cons slot free =>
    have hempty := (hs.mem_free slot).mp (by simp [hf])
    obtain ⟨hlt, hslot⟩ := Array.getElem?_eq_some_iff.mp hempty
    have hn := List.nodup_cons.mp (hf ▸ hs.free_nodup)
    simp only [RegexArena.store, hf]
    refine ⟨hn.2, ?_, ?_⟩
    · intro other
      have hother := hs.mem_free other
      simp only [hf, List.mem_cons] at hother
      by_cases he : slot = other
      · subst he
        simp [hn.1, hlt]
      · rw [Array.getElem?_setIfInBounds_ne fun hv => he (Fin.ext hv), ← hother]
        exact ⟨Or.inr, fun hm => hm.resolve_left (Ne.symm he)⟩
    · simp [Array.setIfInBounds, hlt, Array.countP_set, hslot, hs.live_eq]

section

variable [Regex ρ]

theorem compile_encode (a : RegexArena ρ) (source : String) :
    a.compile (Text.Utf8.encode source.toList ++ [0]) =
      match Regex.compile (ρ := ρ) source with
      | .error message => (.error .compileFailed, { a with lastError := message })
      | .ok r => (.ok (a.store r).1, (a.store r).2) := by
  have ht : withoutTerminator (Text.Utf8.encode source.toList ++ [0]) =
      Text.Utf8.encode source.toList := by
    simp [withoutTerminator]
  have hv : Text.Utf8.validate (withoutTerminator (Text.Utf8.encode source.toList ++ [0])) =
      .ok source := by
    rw [ht, Text.Utf8.validate_encode, String.ofList_toList]
  unfold compile
  generalize Text.Utf8.validate _ = checked at hv ⊢
  subst hv
  rfl

def regexOf? (pattern : List UInt8) : Option ρ :=
  match Text.Utf8.validate (withoutTerminator pattern) with
  | .error _ => none
  | .ok source => (Regex.compile source).toOption

theorem compile_cases (a : RegexArena ρ) (pattern : List UInt8) :
    (∃ r : ρ, regexOf? pattern = some r ∧
      a.compile pattern = (.ok (a.store r).1, (a.store r).2)) ∨
    ((regexOf? pattern : Option ρ) = none ∧ ∃ status message,
      a.compile pattern = (.error status, { a with lastError := message })) := by
  unfold compile regexOf?
  cases Text.Utf8.validate (withoutTerminator pattern) with
  | error fault => exact Or.inr ⟨rfl, _, _, rfl⟩
  | ok source =>
    dsimp only
    cases Regex.compile (ρ := ρ) source with
    | error message => exact Or.inr ⟨rfl, _, _, rfl⟩
    | ok r => exact Or.inl ⟨r, rfl, rfl⟩

theorem Sound.compile (hs : a.Sound) (pattern : List UInt8) : (a.compile pattern).2.Sound := by
  rcases a.compile_cases pattern with ⟨r, -, hc⟩ | ⟨-, status, message, hc⟩
  · rw [hc]
    exact hs.store r
  · rw [hc]
    exact hs.fail message

end

theorem regex?_freeSlot (a : RegexArena ρ) (h g : Handle) :
    (a.freeSlot h).regex? g = if g = h then none else a.regex? g := by
  simp only [freeSlot, regex?]
  by_cases hg : g = h
  · subst hg
    rw [Array.getElem?_setIfInBounds_self]
    split <;> simp
  · have hslot : h.slot.val ≠ g.slot.val := fun he => hg (Handle.eq_of_val he.symm)
    rw [Array.getElem?_setIfInBounds_ne hslot, if_neg hg]

theorem Sound.freeSlot (hs : a.Sound) (hl : a.isLive h = true) : (a.freeSlot h).Sound := by
  obtain ⟨r, hr⟩ := isLive_iff.mp hl
  obtain ⟨hlt, hslot⟩ := Array.getElem?_eq_some_iff.mp hr
  have hfull : h.slot ∉ a.free := fun hm => by simp [(hs.mem_free _).mp hm] at hr
  refine ⟨List.nodup_cons.mpr ⟨hfull, hs.free_nodup⟩, ?_, ?_⟩
  · intro other
    simp only [RegexArena.freeSlot, List.mem_cons]
    by_cases he : h.slot = other
    · subst he
      simp [hlt]
    · rw [Array.getElem?_setIfInBounds_ne fun hv => he (Fin.ext hv), ← hs.mem_free]
      exact ⟨fun hm => hm.resolve_left (Ne.symm he), Or.inr⟩
  · simp [RegexArena.freeSlot, Array.setIfInBounds, hlt, Array.countP_set, hslot, hs.live_eq]

theorem firstBad?_eq_none_iff (a : RegexArena ρ) (before hs : List Handle) :
    a.firstBad? before hs = none ↔
      hs.Nodup ∧ (∀ h ∈ hs, a.isLive h = true) ∧ ∀ h ∈ hs, h ∉ before := by
  induction hs generalizing before with
  | nil => simp [firstBad?]
  | cons h rest ih =>
    simp only [firstBad?, List.contains_eq_mem, Bool.or_eq_true, decide_eq_true_eq,
      Bool.not_eq_true', List.nodup_cons, List.forall_mem_cons]
    split
    · rename_i hbad
      simp only [reduceCtorEq, false_iff]
      rintro ⟨-, ⟨hl, -⟩, hnot, -⟩
      exact hbad.elim hnot (by simp [hl])
    · rename_i hgood
      simp only [not_or, Bool.not_eq_false] at hgood
      simp only [ih, List.mem_cons, not_or]
      constructor
      · rintro ⟨hn, hl, hb⟩
        exact ⟨⟨fun hm => (hb h hm).1 rfl, hn⟩, ⟨hgood.2, hl⟩, hgood.1, fun g hg => (hb g hg).2⟩
      · rintro ⟨⟨hm, hn⟩, ⟨-, hl⟩, -, hb⟩
        exact ⟨hn, hl, fun g hg => ⟨fun he => hm (he ▸ hg), hb g hg⟩⟩

theorem regex?_foldl_freeSlot (a : RegexArena ρ) (hs : List Handle) (g : Handle) :
    (hs.foldl freeSlot a).regex? g = if g ∈ hs then none else a.regex? g := by
  induction hs generalizing a with
  | nil => simp
  | cons h rest ih =>
    rw [List.foldl_cons, ih, regex?_freeSlot]
    by_cases hr : g ∈ rest <;> by_cases hh : g = h <;> simp [hr, hh]

theorem Sound.foldl_freeSlot (hsound : a.Sound) (hn : hs.Nodup)
    (hl : ∀ h ∈ hs, a.isLive h = true) : (hs.foldl RegexArena.freeSlot a).Sound := by
  induction hs generalizing a with
  | nil => exact hsound
  | cons h rest ih =>
    obtain ⟨hm, hn⟩ := List.nodup_cons.mp hn
    apply ih (hsound.freeSlot (hl h (by simp))) hn
    intro g hg
    have hne : g ≠ h := fun he => hm (he ▸ hg)
    rw [isLive_congr ((regex?_freeSlot a h g).trans (if_neg hne))]
    exact hl g (by simp [hg])

/-- What is left of an arena when a batch of handles is gone. -/
structure Without (a : RegexArena ρ) (hs : List Handle) (b : RegexArena ρ) : Prop where
  sound : b.Sound
  regex? : ∀ h, b.regex? h = if h ∈ hs then none else a.regex? h

/-- A batch of distinct live handles is disposed of, and nothing else is. -/
theorem dispose_live (hsound : a.Sound) (hn : hs.Nodup) (hl : ∀ h ∈ hs, a.isLive h = true) :
    ∃ b, a.dispose hs = (.ok (), b) ∧ a.Without hs b := by
  have hgood := (firstBad?_eq_none_iff a [] hs).mpr ⟨hn, hl, fun h _ => List.not_mem_nil⟩
  exact ⟨hs.foldl RegexArena.freeSlot a, by rw [dispose, hgood],
    hsound.foldl_freeSlot hn hl, regex?_foldl_freeSlot a hs⟩

theorem dispose_cases (a : RegexArena ρ) (hs : List Handle) :
    (hs.Nodup ∧ (∀ h ∈ hs, a.isLive h = true) ∧ a.dispose hs = (.ok (), hs.foldl freeSlot a)) ∨
    ∃ message, a.dispose hs = (.error .invalidHandle, { a with lastError := message }) := by
  have hgood := firstBad?_eq_none_iff a [] hs
  unfold dispose
  cases hb : a.firstBad? [] hs with
  | none =>
    obtain ⟨hn, hl, -⟩ := hgood.mp hb
    exact Or.inl ⟨hn, hl, rfl⟩
  | some h => exact Or.inr ⟨_, rfl⟩

theorem Sound.dispose (hsound : a.Sound) (hs : List Handle) : (a.dispose hs).2.Sound := by
  rcases a.dispose_cases hs with ⟨hn, hl, hd⟩ | ⟨message, hd⟩
  · rw [hd]
    exact hsound.foldl_freeSlot hn hl
  · rw [hd]
    exact hsound.fail message

theorem size_le_store (a : RegexArena ρ) (r : ρ) : a.slots.size ≤ (a.store r).2.slots.size := by
  unfold store
  split <;> simp

theorem size_foldl_freeSlot (a : RegexArena ρ) (hs : List Handle) :
    (hs.foldl freeSlot a).slots.size = a.slots.size := by
  induction hs generalizing a with
  | nil => rfl
  | cons h rest ih =>
    rw [List.foldl_cons, ih]
    exact Array.size_setIfInBounds

theorem size_dispose (a : RegexArena ρ) (handles : List Handle) :
    (a.dispose handles).2.slots.size = a.slots.size := by
  rcases a.dispose_cases handles with ⟨-, -, hd⟩ | ⟨message, hd⟩
  · rw [hd]
    exact a.size_foldl_freeSlot handles
  · rw [hd]

section

variable [Regex ρ]

/-- An arena that calls with whatever patterns, handles and texts have produced. -/
inductive Reachable : RegexArena ρ → Prop where
  | empty : Reachable .empty
  | compile {a : RegexArena ρ} (ha : Reachable a) (pattern : List UInt8) :
    Reachable (a.compile pattern).2
  | findBest {a : RegexArena ρ} (ha : Reachable a) (handles : List Handle) (text : Array UInt8)
      (start : Nat) : Reachable (a.findBest handles text start).2
  | dispose {a : RegexArena ρ} (ha : Reachable a) (handles : List Handle) :
    Reachable (a.dispose handles).2

theorem findBest_cases (a : RegexArena ρ) (handles : List Handle) (text : Array UInt8)
    (start : Nat) :
    (∃ found, a.findBest handles text start = (.ok found, a)) ∨
    ∃ message, a.findBest handles text start =
      (.error .invalidHandle, { a with lastError := message }) := by
  unfold findBest
  split
  · exact Or.inr ⟨_, rfl⟩
  · split <;> exact Or.inl ⟨_, rfl⟩

theorem Sound.findBest (hs : a.Sound) (handles : List Handle) (text : Array UInt8) (start : Nat) :
    (a.findBest handles text start).2.Sound := by
  rcases a.findBest_cases handles text start with ⟨found, hf⟩ | ⟨message, hf⟩
  · rw [hf]
    exact hs
  · rw [hf]
    exact hs.fail message

theorem Reachable.sound (ha : a.Reachable) : a.Sound := by
  induction ha with
  | empty => exact sound_empty
  | compile _ pattern ih => exact ih.compile pattern
  | findBest _ handles text start ih => exact ih.findBest handles text start
  | dispose _ handles ih => exact ih.dispose handles

theorem size_le_compile (a : RegexArena ρ) (pattern : List UInt8) :
    a.slots.size ≤ (a.compile pattern).2.slots.size := by
  rcases a.compile_cases pattern with ⟨r, -, hc⟩ | ⟨-, status, message, hc⟩
  · rw [hc]
    exact a.size_le_store r
  · exact Nat.le_of_eq (congrArg (fun outcome => outcome.2.slots.size) hc).symm

theorem size_findBest (a : RegexArena ρ) (handles : List Handle) (text : Array UInt8)
    (start : Nat) : (a.findBest handles text start).2.slots.size = a.slots.size := by
  rcases a.findBest_cases handles text start with ⟨found, hf⟩ | ⟨message, hf⟩ <;> rw [hf]

end

end PatternScan.RegexArena
