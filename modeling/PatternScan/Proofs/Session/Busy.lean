import PatternScan.Proofs.Cache.Departure
import PatternScan.Proofs.Session.Apart
import PatternScan.Proofs.Session.Moves

namespace PatternScan.Session

open Cache (Request)

variable {σ ρ α : Type}

def Action.ends : Action σ → Bool
  | .drop _ => true
  | .release _ => true
  | _ => false

def Move.Spares (n : Nat) : Move σ → Prop
  | .act action => ¬ action.Instructs
  | .hold cell _ => cell ≠ n
  | .settle cell => cell ≠ n

def Move.Forgets (number : Nat) : Move σ → Prop
  | .act action => ¬ action.Instructs ∧
    ∀ cache patterns text start, action ≠ .findOnBehalf cache number patterns text start
  | _ => True

namespace World

def noted (w : World σ) : Action σ → World σ
  | .drop number =>
    { w with slots := w.slots.modify number fun slot => { slot with dropped := true } }
  | .release reference =>
    { w with references := w.references.modify reference fun r => { r with released := true } }
  | _ => w

variable {w : World σ} {n : Nat} {c : Cell σ}

theorem noted_setHold (action : Action σ) (mode : Hold) :
    (w.noted action).setHold n mode = (w.setHold n mode).noted action := by
  cases action <;> rfl

theorem ne_free_of_changing (hh : c.shared.hold = .changing) : c.shared.hold ≠ .free := by
  simp [hh]

theorem replyFrom_of_held (hc : w.cells[n]? = some c) {convert : α → Reply}
    {use : SharedCache σ → Except Failure α × SharedCache σ}
    (hu : use c.shared = (.error .cacheBusy, c.shared)) :
    w.replyFrom (some n) convert use = (.error .cacheBusy, w) := by
  simp only [replyFrom, onCell, hc, hu, setShared_self hc, Except.map]

theorem replySeen_of_held (hc : w.cells[n]? = some c) (hh : c.shared.hold = .changing)
    (look : Cache σ → Reply) : w.replySeen (some n) look = .error .cacheBusy := by
  simp only [replySeen, Option.bind_some, hc, SharedCache.read, hh]

theorem onBehalf_of_held (hc : w.cells[n]? = some c) (hh : c.shared.hold ≠ .free)
    {cache object : Nat}
    (hn : (((w.object? object).bind Object.id?).bind fun _ => w.cellOf? cache) = some n)
    (convert : α → Reply) (use : ScannerId → Cache σ → Except Failure α × Cache σ) :
    w.onBehalf cache object convert use = (.error .cacheBusy, w) := by
  obtain ⟨id, hid, hcell⟩ := Option.bind_eq_some_iff.mp hn
  simp only [onBehalf, hid, hcell]
  exact replyFrom_of_held hc (SharedCache.change_of_held hh _)

theorem change_of_held (hc : w.cells[n]? = some c) (hh : c.shared.hold ≠ .free)
    {cell : Option Nat} (hn : cell = some n) (convert : α → Reply)
    (use : Cache σ → Except Failure α × Cache σ) :
    w.replyFrom cell convert (·.change use) = (.error .cacheBusy, w) := by
  rw [hn]
  exact replyFrom_of_held hc (SharedCache.change_of_held hh use)

variable [Engine σ]

theorem settle_of_held (hc : w.cells[n]? = some c) (hh : c.shared.hold ≠ .free) :
    w.settle n = w := by
  have hused : w.inUse n = true := by
    simp [inUse, holdOf, hc, hh]
  unfold settle
  rw [if_pos hused]

theorem findNext_of_held {s : Scanner} (hs : s.sources ≠ []) {shared : SharedCache σ}
    (hh : shared.hold ≠ .free) (text : IndexedText) (start : Nat) :
    s.findNext text start shared = (.error .cacheBusy, shared) := by
  rw [s.findNext_of_sources hs, SharedCache.change_of_held hh]
  rfl

theorem search_of_held {id : ScannerId} {source : String} {shared : SharedCache σ}
    (hh : shared.hold ≠ .free) (text : IndexedText) (start : Nat) :
    (Finder.pattern id source).search text start shared = (.error .cacheBusy, shared) := by
  have hs : (⟨id, [source]⟩ : Scanner).sources ≠ [] := List.cons_ne_nil _ _
  simp only [Finder.search, Finder.scanner?, findNext_of_held hs hh, Except.map]

theorem ask_of_held (hc : w.cells[n]? = some c) (hh : c.shared.hold ≠ .free) {query : Query}
    (hn : w.asks? query = some n) : w.ask query = (.error .cacheBusy, w) := by
  cases query with
  | find number ref start =>
    unfold asks? at hn
    dsimp only at hn
    split at hn
    · rename_i scanner cell text ho ht
      split at hn
      · cases hn
      · rename_i hs
        cases hn
        simp only [ask, ho, ht]
        exact replyFrom_of_held hc (findNext_of_held (by simpa using hs) hh text start)
    · cases hn
  | search number ref start =>
    unfold asks? at hn
    dsimp only at hn
    split at hn
    · rename_i finder cell text ho ht
      cases finder with
      | literal value => cases hn
      | pattern id source =>
        cases hn
        simp only [ask, ho, ht]
        exact replyFrom_of_held hc (search_of_held hh text start)
    · cases hn
  | test number subject =>
    unfold asks? at hn
    dsimp only at hn
    split at hn
    · rename_i finder cell text ho ht
      cases finder with
      | literal value => cases hn
      | pattern id source =>
        cases hn
        simp only [ask, ho, ht]
        apply replyFrom_of_held hc
        simp only [Finder.test, search_of_held hh, Except.map]
    · cases hn

theorem drop_of_held (hc : w.cells[n]? = some c) (hh : c.shared.hold ≠ .free) {number : Nat}
    (hn : (w.living? number).bind Object.cell? = some n) :
    w.drop number = w.noted (.drop number) := by
  obtain ⟨o, ho, hcell⟩ := Option.bind_eq_some_iff.mp hn
  unfold living? at ho
  split at ho
  · rename_i slot hs
    split at ho
    · cases ho
    · rename_i hliving
      obtain rfl := Option.some.inj ho
      obtain ⟨s, -, hleave⟩ := leave_of_cell? (σ := σ) hcell
      have hkept : leave slot.object c.shared = c.shared := by
        rw [hleave]
        exact s.orderly_dispose.held c.shared hh
      have hslots : w.slots.set number { slot with dropped := true } =
          w.slots.modify number fun slot => { slot with dropped := true } := by
        apply List.ext_getElem?
        intro i
        rw [List.getElem?_set, List.getElem?_modify]
        split
        · rename_i hi
          obtain rfl := hi
          rw [if_pos (List.getElem?_eq_some_iff.mp hs).1, hs]
          rfl
        · simp
      simp only [drop, hs, if_neg hliving, hcell, onCell, hc, hkept, setShared_self hc, hslots]
      exact settle_of_held (w := w.noted (.drop number)) hc hh
  · cases ho

theorem release_of_held (hc : w.cells[n]? = some c) (hh : c.shared.hold ≠ .free) {reference : Nat}
    (hn : w.cellOf? reference = some n) :
    w.release reference = w.noted (.release reference) := by
  simp only [release, hn]
  exact settle_of_held (w := w.noted (.release reference)) hc hh

/-- What needs a cell that is held to be changed is refused, ends apart, and changes nothing. -/
theorem act_of_held (hc : w.cells[n]? = some c) (hh : c.shared.hold = .changing)
    {action : Action σ} (hn : w.needs? action = some n) (ha : ¬ action.Instructs) :
    w.act action = (if action.ends then .ok .nothing else .error .cacheBusy, w.noted action) := by
  have hheld : c.shared.hold ≠ .free := ne_free_of_changing hh
  cases action with
  | ask query => exact ask_of_held hc hheld hn
  | dispose number =>
    unfold needs? at hn
    dsimp only at hn
    split at hn
    · rename_i scanner cell ho
      cases hn
      simp only [act, ho]
      exact replyFrom_of_held hc (SharedCache.change_of_held hheld _)
    · cases hn
  | drop number => exact congrArg (Prod.mk _) (drop_of_held hc hheld hn)
  | release reference => exact congrArg (Prod.mk _) (release_of_held hc hheld hn)
  | findOnBehalf cache object patterns text start => exact onBehalf_of_held hc hheld hn _ _
  | evict cache object => exact onBehalf_of_held hc hheld hn _ _
  | clear cache => exact change_of_held hc hheld hn _ _
  | resize cache capacity => exact change_of_held hc hheld hn _ _
  | setLog cache on => exact change_of_held hc hheld hn _ _
  | describe cache =>
    change w.cellOf? cache = some n at hn
    simp only [act, hn, replySeen_of_held hc hh]
    rfl
  | configure config =>
    unfold needs? at hn
    dsimp only at hn
    split at hn
    · cases hn
    · rename_i hv
      cases hn
      apply replyFrom_of_held hc
      rw [SharedCache.configure_of_pos hv, SharedCache.change_of_held hheld]
  | statistics =>
    cases hn
    simp only [act, replySeen_of_held hc hh]
    rfl
  | instruct cache instruction => exact absurd trivial ha
  | _ => cases hn

theorem act_configure_of_zero {config : Config} (hv : config.capacity = 0)
    (hc : commonCell < w.cells.length) :
    w.act (.configure config) = (.error .zeroCapacity, w) := by
  have hrefused : ∀ s : SharedCache σ, s.configure config = (.error .zeroCapacity, s) :=
    fun s => s.configure_of_zero hv
  rw [act, replyFrom_unused hrefused, if_pos hc]
  rfl

/-- A move as if no action that needs a cell had been called; an end is noted. -/
def moveApart (n : Nat) (w : World σ) : Move σ → World σ
  | .act action => if w.needs? action = some n then w.noted action else (w.act action).2
  | m => w.move m

theorem act_keeps_held (hc : w.cells[n]? = some c) (hh : c.shared.hold ≠ .free)
    {action : Action σ} (ha : ¬ action.Instructs) : (w.act action).2.cells[n]? = some c := by
  obtain ⟨base, hb, hworked⟩ := (act_effect (w := w) ha).worked
  obtain ⟨d, hd, hcd⟩ := hworked.cell n c (hb.cells hc)
  rw [hd, hcd.locked hh]

theorem move_of_held (hc : w.cells[n]? = some c) (hh : c.shared.hold = .changing) {m : Move σ}
    (hm : m.Spares n) : (w.move m).cells[n]? = some c ∧
      ∀ mode, (w.move m).setHold n mode = moveApart n (w.setHold n mode) m := by
  have hheld : c.shared.hold ≠ .free := ne_free_of_changing hh
  have hlt : n < w.cells.length := (List.getElem?_eq_some_iff.mp hc).1
  cases m with
  | act action =>
    refine ⟨act_keeps_held hc hheld hm, ?_⟩
    intro mode
    have hneeds : (w.setHold n mode).needs? action = w.needs? action := needs?_modifyCell action
    rw [moveApart, hneeds]
    split
    · rename_i hn
      rw [move, act_of_held hc hh hn hm]
      exact noted_setHold action mode
    · rename_i hn
      exact (congrArg Prod.snd (act_modifyCell hlt hn)).symm
  | hold cell other =>
    have hne : cell ≠ n := hm
    constructor
    · exact (getElem?_modifyCell_ne hne.symm).trans hc
    · intro mode
      simp only [moveApart, move, setHold]
      rw [List.modify_modify_ne _ _ _ hne]
  | settle cell =>
    have hne : cell ≠ n := hm
    have hsettled := reworked_settle (w := w) (fun _ _ => True) cell trivial
    obtain ⟨d, hd, hcd⟩ := hsettled.cell n c hc
    refine ⟨hcd.locked hheld ▸ hd, ?_⟩
    intro mode
    have happart := settle_modifyCell (w := w)
      (f := fun c => { c with shared := { c.shared with hold := mode } }) hne
    exact happart.symm

theorem moves_of_held (hc : w.cells[n]? = some c) (hh : c.shared.hold = .changing)
    {during : List (Move σ)} (hd : ∀ m ∈ during, m.Spares n) :
    (w.moves during).cells[n]? = some c ∧
      ∀ mode, (w.moves during).setHold n mode = during.foldl (moveApart n) (w.setHold n mode) := by
  induction during generalizing w with
  | nil => exact ⟨hc, fun _ => rfl⟩
  | cons m rest ih =>
    obtain ⟨hfirst, hrest⟩ := List.forall_mem_cons.mp hd
    obtain ⟨hcell, happart⟩ := move_of_held hc hh hfirst
    obtain ⟨hkept, hall⟩ := ih hcell hrest
    refine ⟨hkept, ?_⟩
    intro mode
    rw [List.foldl_cons, ← happart mode]
    exact hall mode

/-- What the moves of a program ask of a cache, when an object was dropped and nobody searches on
its behalf. -/
theorem move_of_dropped (hw : w.Named) {number : Nat} {slot : Slot} {id : ScannerId}
    (hs : w.slots[number]? = some slot) (hd : slot.dropped = true)
    (hi : slot.object.identity? = some id) (hc : w.cells[n]? = some c) {m : Move σ}
    (hm : m.Forgets number) :
    (∃ later, (w.move m).slots[number]? = some later ∧ later.object = slot.object ∧
      later.dropped = true) ∧
    ∃ d requests, (w.move m).cells[n]? = some d ∧
      d.shared.cache = c.shared.cache.after requests ∧ ∀ r ∈ requests, ¬ r.SearchesFor id := by
  cases m with
  | act action =>
    obtain ⟨ha, hforgets⟩ := hm
    obtain ⟨base, hb, hworked⟩ := (act_effect (w := w) ha).worked
    obtain ⟨later, hlater, hobject, hdropped⟩ := hb.slot hs
    obtain ⟨d, hcell, hcd⟩ := hworked.cell n c (hb.cells hc)
    obtain ⟨requests, hafter, hpermits⟩ := hcd.served.requests
    refine ⟨⟨later, ?_, hobject, hdropped hd⟩, d, requests, hcell, hafter, ?_⟩
    · rw [move, hworked.slots, hlater]
    · intro r hr hsearch
      have hpermit := hpermits r hr
      cases r with
      | find owner patterns text start =>
        obtain rfl := hsearch
        rcases hpermit with ⟨other, p, s, hp, -, hscanner, hid, -⟩ |
          ⟨cache, object, ps, t, st, rfl, hobj⟩
        · exact hw.no_other hs hd hi hp (hid ▸ Object.identity?_of_scanner? hscanner)
        · obtain ⟨p, hp, hid⟩ := Option.bind_eq_some_iff.mp hobj
          have ho : w.object? number = some slot.object := congrArg (Option.map Slot.object) hs
          obtain rfl := number_eq_of_identity? hw.nodup ho hp hi (Object.identity?_of_id? hid)
          exact hforgets cache ps t st rfl
      | _ => exact hsearch
  | hold cell mode =>
    obtain ⟨d, hcell, hsame⟩ := (reworked_setHold cell mode).cell n c hc
    exact ⟨⟨slot, hs, rfl, hd⟩, d, [], hcell, hsame, fun _ h => absurd h List.not_mem_nil⟩
  | settle cell =>
    have hclear : ¬ Request.SearchesFor id .clear := fun h => h
    have hsettled := reworked_settle (w := w) (fun _ r => ¬ r.SearchesFor id) cell hclear
    obtain ⟨d, hcell, hcd⟩ := hsettled.cell n c hc
    obtain ⟨requests, hafter, hnone⟩ := hcd.served.requests
    exact ⟨⟨slot, (congrArg (·[number]?) hsettled.slots).trans hs, rfl, hd⟩, d, requests, hcell,
      hafter, hnone⟩

theorem moves_of_dropped (hw : w.Named) {number : Nat} {slot : Slot} {id : ScannerId}
    (hs : w.slots[number]? = some slot) (hd : slot.dropped = true)
    (hi : slot.object.identity? = some id) (hc : w.cells[n]? = some c) {later : List (Move σ)}
    (hl : ∀ m ∈ later, m.Forgets number) :
    (∀ other p, (w.moves later).living? other = some p → p.identity? ≠ some id) ∧
    ∃ d requests, (w.moves later).cells[n]? = some d ∧
      d.shared.cache = c.shared.cache.after requests ∧ ∀ r ∈ requests, ¬ r.SearchesFor id := by
  induction later generalizing w slot c with
  | nil =>
    exact ⟨fun _ _ hp => hw.no_other hs hd hi hp, c, [], hc, rfl,
      fun _ h => absurd h List.not_mem_nil⟩
  | cons m rest ih =>
    obtain ⟨hfirst, hrest⟩ := List.forall_mem_cons.mp hl
    obtain ⟨⟨marked, hmarked, hobject, hdropped⟩, d, before, hcell, hafter, hnone⟩ :=
      move_of_dropped hw hs hd hi hc hfirst
    obtain ⟨hothers, e, more, hlast, hend, hnone'⟩ :=
      ih (hw.move m) hmarked hdropped (hobject ▸ hi) hcell hrest
    refine ⟨hothers, e, before ++ more, hlast, ?_, List.forall_mem_append.mpr ⟨hnone, hnone'⟩⟩
    rw [hend, hafter, Cache.after_append]

/-- What it means for a program that a cell is held to be changed, and by somebody who does not
change it. -/
structure FailsCleanly (w : World σ) (n : Nat) (c : Cell σ) : Prop where
  find : ∀ number scanner ref text start, w.living? number = some (.scanner scanner n) →
    scanner.sources ≠ [] → w.text? ref = some text →
    w.act (.ask (.find number ref start)) = (.error .cacheBusy, w)
  search : ∀ number id source ref text start,
    w.living? number = some (.finder (.pattern id source) n) → w.text? ref = some text →
    w.act (.ask (.search number ref start)) = (.error .cacheBusy, w) ∧
    w.act (.ask (.test number (.text ref))) = (.error .cacheBusy, w)
  dispose : ∀ number scanner, w.living? number = some (.scanner scanner n) →
    w.act (.dispose number) = (.error .cacheBusy, w)
  common : n = commonCell → w.act .statistics = (.error .cacheBusy, w) ∧
    ∀ config : Config, config.capacity ≠ 0 →
      w.act (.configure config) = (.error .cacheBusy, w)
  /-- Settings without room are refused for what they are, however the common cache is held. -/
  zero : ∀ (config : Config) (mode : Hold), config.capacity = 0 →
    (w.setHold commonCell mode).act (.configure config) =
      (.error .zeroCapacity, w.setHold commonCell mode)
  /-- The end of an object does nothing to the cache. -/
  drop : ∀ number o, w.living? number = some o → o.cell? = some n →
    w.act (.drop number) = (.ok .nothing, w.noted (.drop number))
  /-- Whatever an operation asks for, the cache stays as it is. -/
  kept : ∀ action : Action σ, ¬ action.Instructs → (w.act action).2.cells[n]? = some c
  /-- What does not need the cache answers and does the same as if it were not held. -/
  others : ∀ action : Action σ, w.needs? action ≠ some n → ∀ mode,
    (w.setHold n mode).act action = ((w.act action).1, (w.act action).2.setHold n mode)
  /-- Scanners without sources need no cache, nor do finders that only compare. -/
  without : ∀ number ref start subject,
    (∀ scanner cell, w.living? number = some (.scanner scanner cell) → scanner.sources = [] →
      w.needs? (.ask (.find number ref start)) = none) ∧
    ∀ value cell, w.living? number = some (.finder (.literal value) cell) →
      w.needs? (.ask (.search number ref start)) = none ∧
      w.needs? (.ask (.test number subject)) = none
  /-- When the hold ends, all is as if what was refused had never been called; only the ends of
  objects and references stay noted. -/
  afterwards : ∀ during : List (Move σ), (∀ m ∈ during, m.Spares n) →
    (w.moves during).cells[n]? = some c ∧
    ∀ mode, (w.moves during).setHold n mode = during.foldl (moveApart n) (w.setHold n mode)
  /-- The entry of an object that is dropped meanwhile stays. No living object has its identity any
  more, so no scanner searches with it, and it is handed back once. -/
  leftBehind : ∀ number o s e later, w.living? number = some o → o.cell? = some n →
    o.scanner? = some s → e ∈ c.shared.cache.entries → e.owner = s.id →
    (∀ m ∈ later, m.Forgets number) →
    (w.act (.drop number)).2.cells[n]? = some c ∧
    let v := (w.act (.drop number)).2.moves later
    (∀ other p, v.living? other = some p → p.identity? ≠ some s.id) ∧
    ∃ d requests, v.cells[n]? = some d ∧ d.shared.cache = c.shared.cache.after requests ∧
      (∀ r ∈ requests, ¬ r.SearchesFor s.id) ∧ c.shared.cache.HandsBackOnce requests e

theorem leftBehind_of_held (hw : w.Named) (hc : w.cells[n]? = some c)
    (hh : c.shared.hold = .changing) {number : Nat} {o : Object} {s : Scanner} {e : Entry}
    {later : List (Move σ)} (ho : w.living? number = some o) (hcell : o.cell? = some n)
    (hs : o.scanner? = some s) (he : e ∈ c.shared.cache.entries) (hid : e.owner = s.id)
    (hl : ∀ m ∈ later, m.Forgets number) :
    (w.act (.drop number)).2.cells[n]? = some c ∧
    let v := (w.act (.drop number)).2.moves later
    (∀ other p, v.living? other = some p → p.identity? ≠ some s.id) ∧
    ∃ d requests, v.cells[n]? = some d ∧ d.shared.cache = c.shared.cache.after requests ∧
      (∀ r ∈ requests, ¬ r.SearchesFor s.id) ∧ c.shared.cache.HandsBackOnce requests e := by
  have hneeds : w.needs? (.drop number) = some n :=
    Option.bind_eq_some_iff.mpr ⟨o, ho, hcell⟩
  have hdropped : (w.act (.drop number)).2 = w.noted (.drop number) :=
    congrArg Prod.snd (act_of_held hc hh hneeds id)
  obtain ⟨slot, hslot, rfl⟩ := Option.map_eq_some_iff.mp (object?_of_living? ho)
  have hmarked : (w.act (.drop number)).2.slots[number]? =
      some { slot with dropped := true } := by
    rw [hdropped, noted, List.getElem?_modify, hslot]
    simp
  have hkept : (w.act (.drop number)).2.cells[n]? = some c := by
    rw [hdropped]
    exact hc
  obtain ⟨hothers, d, requests, hlast, hafter, hnone⟩ := moves_of_dropped
    (hw.act (.drop number)) hmarked rfl (Object.identity?_of_scanner? hs) hkept hl
  refine ⟨hkept, hothers, d, requests, hlast, hafter, hnone, ?_⟩
  exact Cache.handsBackOnce_of_mem he (hid ▸ hnone)

theorem failsCleanly_of_held (hw : w.Named) (hc : w.cells[n]? = some c)
    (hh : c.shared.hold = .changing) : w.FailsCleanly n c := by
  have hlt : n < w.cells.length := (List.getElem?_eq_some_iff.mp hc).1
  have hheld : c.shared.hold ≠ .free := ne_free_of_changing hh
  constructor
  case find =>
    intro number scanner ref text start ho hs htext
    refine act_of_held hc hh ?_ id
    simp [needs?, asks?, ho, htext, hs]
  case search =>
    intro number identity source ref text start ho htext
    have hsubject : w.subject? (.text ref) = some (.text text) :=
      congrArg (Option.map Subject.text) htext
    constructor
    · refine act_of_held hc hh ?_ id
      simp [needs?, asks?, ho, htext, Finder.scanner?]
    · refine act_of_held hc hh ?_ id
      simp [needs?, asks?, ho, hsubject, Finder.scanner?]
  case dispose =>
    intro number scanner ho
    refine act_of_held hc hh ?_ id
    simp [needs?, ho]
  case common =>
    rintro rfl
    refine ⟨act_of_held hc hh rfl id, ?_⟩
    intro config hv
    exact act_of_held hc hh (if_neg hv) id
  case zero =>
    intro config mode hv
    apply act_configure_of_zero hv
    rw [setHold, List.length_modify]
    exact Nat.lt_of_le_of_lt (Nat.zero_le n) hlt
  case drop =>
    intro number o ho hcell
    exact act_of_held hc hh (Option.bind_eq_some_iff.mpr ⟨o, ho, hcell⟩) id
  case kept =>
    intro action ha
    exact act_keeps_held hc hheld ha
  case others =>
    intro action hn mode
    exact act_modifyCell hlt hn
  case without =>
    intro number ref start subject
    refine ⟨fun _ _ ho hs => needs?_find_of_empty ho hs ref start, ?_⟩
    intro value cell ho
    exact ⟨needs?_search_of_literal ho ref start, needs?_test_of_literal ho subject⟩
  case afterwards =>
    intro during hd
    exact moves_of_held hc hh hd
  case leftBehind =>
    intro number o s e later ho hcell hs he hid hl
    exact leftBehind_of_held hw hc hh ho hcell hs he hid hl

/-- In every world that a program comes to, with any engines, holding caches as it likes: a cache
that is held to be changed fails cleanly. -/
theorem held_cache_fails_cleanly (engine : σ) (before : List (Move σ))
    (hc : ((fresh engine).moves before).cells[n]? = some c) (hh : c.shared.hold = .changing) :
    ((fresh engine).moves before).FailsCleanly n c :=
  failsCleanly_of_held ((named_fresh engine).moves before) hc hh

/-- However deep in the holds of a program, and in its callbacks: a cell that the program begins to
hold in order to change it is still held after any further steps, and fails cleanly there. -/
theorem fails_cleanly_inside (look : World σ → ρ) (engine : σ)
    (holds : List (List (Step σ) × Nat × Hold)) {cache : Nat}
    (hcache : ((fresh engine).inside look holds).cellOf? cache = some n)
    (hc : ((fresh engine).inside look holds).cells[n]? = some c) (steps : List (Step σ)) :
    let v := (runAll (lookingOn look)
      (((fresh engine).inside look holds).beginHold cache .changing).2 steps).2
    ∃ d, v.cells[n]? = some d ∧ d.shared.hold = .changing ∧ v.FailsCleanly n d := by
  obtain ⟨before, hbefore⟩ := exists_moves_inside look (fresh engine) holds
  obtain ⟨begun, hbegun⟩ :=
    exists_moves_beginHold ((fresh engine).inside look holds) cache .changing
  obtain ⟨during, hduring⟩ := exists_moves_runAll look
    (((fresh engine).inside look holds).beginHold cache .changing).2 steps
  have hheld : (((fresh engine).inside look holds).beginHold cache .changing).2.holdAt? n =
      some .changing := by
    simp only [beginHold, hcache, holdAt?_setHold]
    simp [holdAt?, hc]
  obtain ⟨d, hd, hmode⟩ :=
    Option.map_eq_some_iff.mp (holdAt?_runAll look _ steps hheld)
  refine ⟨d, hd, hmode, failsCleanly_of_held ?_ hd hmode⟩
  rw [hduring, hbegun, hbefore]
  exact (((named_fresh engine).moves before).moves begun).moves during

def takingTheCache : List (Move Arena) :=
  [.act (.newCache .empty 2), .act (.newScanner [""] (some 0)),
    .act (.ask (.find 0 (.given (.ofString "")) 0)), .hold 1 .changing]

/-- The scanner is told that its cache is busy. If it is dropped then, its entry is handed back once
when the cache is free again and cleared. -/
theorem held_cache_fails_cleanly_dropping :
    let w := (fresh (.empty : Arena)).moves takingTheCache
    ∃ c, w.cells[1]? = some c ∧ c.shared.hold = .changing ∧
      w.act (.ask (.find 0 (.given (.ofString "")) 0)) = (.error .cacheBusy, w) ∧
      (w.act (.drop 0)).2.cells[1]? = some c ∧ ⟨⟨1⟩, [⟨0⟩]⟩ ∈ c.shared.cache.entries ∧
      let v := (w.act (.drop 0)).2.moves [.hold 1 .free, .act (.clear 0)]
      ∃ d requests, v.cells[1]? = some d ∧ d.shared.cache = c.shared.cache.after requests ∧
        (c.shared.cache.departures requests).count ⟨⟨1⟩, [⟨0⟩]⟩ = 1 := by
  have hcell : ((fresh (.empty : Arena)).moves takingTheCache).cells[1]?.map
      (fun c => (c.shared.hold, c.shared.cache.entries)) =
    some (.changing, [⟨⟨1⟩, [⟨0⟩]⟩]) := by decide +kernel
  have hsearcher : ((fresh (.empty : Arena)).moves takingTheCache).living? 0 =
    some (.scanner ⟨⟨1⟩, [""]⟩ 1) := by decide +kernel
  have htext : ((fresh (.empty : Arena)).moves takingTheCache).text? (.given (.ofString "")) =
    some (.ofString "") := rfl
  have hend : ((((fresh (.empty : Arena)).moves takingTheCache).act (.drop 0)).2.moves
      [.hold 1 .free, .act (.clear 0)]).cells[1]?.map (fun d => d.shared.cache.entries) =
    some [] := by decide +kernel
  have hforgets : ∀ m ∈ ([.hold 1 .free, .act (.clear 0)] : List (Move Arena)), m.Forgets 0 := by
    simp [Move.Forgets, Action.Instructs]
  obtain ⟨c, hc, hseen⟩ := Option.map_eq_some_iff.mp hcell
  obtain ⟨hh, hentries⟩ := Prod.mk.inj hseen
  have he : (⟨⟨1⟩, [⟨0⟩]⟩ : Entry) ∈ c.shared.cache.entries := by simp [hentries]
  have hfails := held_cache_fails_cleanly (.empty : Arena) takingTheCache hc hh
  obtain ⟨hkept, -, d, requests, hd, hafter, -, hback⟩ :=
    hfails.leftBehind 0 _ _ _ _ hsearcher rfl rfl he rfl hforgets
  have hnone : (c.shared.cache.after requests).entries = [] := by
    rw [hd] at hend
    rw [← hafter]
    exact Option.some.inj hend
  have honce := hback.once
  rw [hnone] at honce
  exact ⟨c, hc, hh, hfails.find 0 _ _ _ 0 hsearcher (by decide) htext, hkept, he, d, requests, hd,
    hafter, honce⟩

end World
end PatternScan.Session
