import PatternScan.Proofs.Cache.Departure
import PatternScan.Proofs.Session.Transparency

namespace PatternScan

namespace Cache

variable {ρ : Type} {c : Cache (RegexArena ρ)} {lives : ScannerId → Prop}

/-- A cache that has entries of living owners only, and whose engine has nothing but these entries
as long as its slots have numbers of their own. -/
structure KeptFor (c : Cache (RegexArena ρ)) (lives : ScannerId → Prop) : Prop where
  holds : c.engine.Roomy → c.Holds []
  owner : ∀ e ∈ c.entries, lives e.owner

theorem KeptFor.imp (hc : c.KeptFor lives) {lives' : ScannerId → Prop}
    (h : ∀ id, lives id → lives' id) : c.KeptFor lives' :=
  ⟨hc.holds, fun e he => h e.owner (hc.owner e he)⟩

variable [Regex ρ]

theorem keptFor_new {engine : RegexArena ρ} (hr : engine.Reachable) (hl : engine.live = 0)
    (capacity : Nat) : (new engine capacity).KeptFor lives := by
  obtain ⟨foreign, hn, hlive⟩ := engine.exists_live
  obtain rfl : foreign = [] := by
    have hle := hr.sound.length_le_live hn fun h hm => (hlive h).mpr hm
    rw [hl] at hle
    exact List.length_eq_zero_iff.mp (Nat.le_zero.mp hle)
  exact ⟨fun _ => holds_new hr.sound hn hlive capacity, fun e he => absurd he List.not_mem_nil⟩

/-- Only a search makes an entry, and it makes one for its owner. -/
theorem KeptFor.serve (hc : c.KeptFor lives) {r : Request}
    (hr : ∀ owner patterns text start, r = .find owner patterns text start → lives owner) :
    (c.serve r).2.KeptFor lives := by
  constructor
  · intro hroom
    have hbefore : c.engine.Roomy :=
      Nat.le_trans (stepwise_size.serve c r fun _ _ => trivial) hroom
    obtain ⟨d, hd, hev⟩ := (hc.holds hbefore).serve r hroom
    rw [hd]
    exact hev.holds
  · intro e he
    rcases mem_entries_serve he with hold | hnew
    · exact hc.owner e hold
    · cases r with
      | find owner patterns text start =>
        obtain rfl := hnew
        exact hr _ patterns text start rfl
      | _ => exact hnew.elim

theorem keptFor_withConfig {engine : RegexArena ρ} (hr : engine.Reachable) (hl : engine.live = 0)
    {config : Config} (h : withConfig engine config = .ok c) : c.KeptFor lives := by
  unfold withConfig at h
  cases hv : config.validate with
  | error failure =>
    rw [hv] at h
    cases h
  | ok _ =>
    rw [hv] at h
    cases h
    exact (keptFor_new hr hl config.capacity).serve (r := .setLog config.logEvictions) nofun

/-- After an eviction nothing is kept for the owner, who may go. -/
theorem KeptFor.evict (hc : c.KeptFor lives) {id : ScannerId} {lives' : ScannerId → Prop}
    (h : ∀ other, lives other → other ≠ id → lives' other) : (c.evict id).2.KeptFor lives' := by
  refine ⟨(hc.serve (r := .evict id) nofun).holds, ?_⟩
  intro e he
  rw [entries_evict] at he
  obtain ⟨hm, hne⟩ := List.mem_filter.mp he
  exact h e.owner (hc.owner e hm) (by simpa using hne)

theorem KeptFor.clear (hc : c.KeptFor lives) : c.clear.2.KeptFor lives :=
  hc.serve (r := .clear) nofun

theorem KeptFor.served {shared later : SharedCache (RegexArena ρ)} {allowed : Request → Prop}
    (hk : shared.cache.KeptFor lives) (h : shared.Served later allowed)
    (ha : ∀ owner patterns text start, allowed (.find owner patterns text start) → lives owner) :
    later.cache.KeptFor lives := by
  have hstep : ∀ (c : Cache (RegexArena ρ)) (r : Request), c.KeptFor lives → allowed r →
      (c.serve r).2.KeptFor lives := by
    intro c r hc hr
    apply hc.serve
    rintro owner patterns text start rfl
    exact ha owner patterns text start hr
  exact h.preserves hstep hk

theorem KeptFor.empty (hc : c.KeptFor lives) (h : ∀ id, ¬ lives id) :
    c.entries = [] ∧ (c.engine.Roomy → c.liveCount = 0) := by
  have hnil : c.entries = [] :=
    List.eq_nil_iff_forall_not_mem.mpr fun e he => h e.owner (hc.owner e he)
  refine ⟨hnil, ?_⟩
  intro hroom
  rw [(hc.holds hroom).liveCount_eq hroom, hnil]
  rfl

end Cache

namespace Session

open Cache (Request)

namespace World

variable {σ ρ α : Type}

/-- An identity is that of a scanner with sources that searches with a cell and was not dropped. -/
def Lives (w : World σ) (cell : Nat) (id : ScannerId) : Prop :=
  ∃ number o s, w.living? number = some o ∧ o.cell? = some cell ∧ o.scanner? = some s ∧
    s.id = id ∧ s.sources ≠ []

theorem Lives.mono {w v : World σ} {cell : Nat} {id : ScannerId} (h : w.Lives cell id)
    (hv : ∀ number o, w.living? number = some o → v.living? number = some o) : v.Lives cell id := by
  obtain ⟨number, o, s, ho, hs⟩ := h
  exact ⟨number, o, s, hv number o ho, hs⟩

theorem living?_congr {w v : World σ} (h : v.slots = w.slots) (number : Nat) :
    v.living? number = w.living? number := by
  unfold living?
  rw [h]

theorem living?_addObject {w : World σ} {number : Nat} {o : Object}
    (h : w.living? number = some o) (new : Object) :
    (w.addObject new).living? number = some o := by
  unfold living? at h ⊢
  split at h
  · rename_i slot hs
    have hlt := (List.getElem?_eq_some_iff.mp hs).1
    have hs' : (w.addObject new).slots[number]? = some slot := by
      rw [← hs]
      exact List.getElem?_append_left hlt
    rw [hs']
    exact h
  · cases h

theorem living?_set {w : World σ} {number other : Nat} (hne : other ≠ number) (slot : Slot) :
    living? { w with slots := w.slots.set number slot } other = w.living? other := by
  simp only [living?, List.getElem?_set_ne (Ne.symm hne)]

def Accounted (w : World (RegexArena ρ)) (lives : Nat → ScannerId → Prop) : Prop :=
  ∀ (cell : Nat) (c : Cell (RegexArena ρ)), w.cells[cell]? = some c →
    c.shared.cache.KeptFor (lives cell)

variable {w : World (RegexArena ρ)} {lives lives' : Nat → ScannerId → Prop}

theorem Accounted.imp (hw : w.Accounted lives) (h : ∀ cell id, lives cell id → lives' cell id) :
    w.Accounted lives' := fun cell c hc => (hw cell c hc).imp (h cell)

theorem Accounted.modifyCell (hw : w.Accounted lives) {cell : Nat}
    (hother : ∀ other, other ≠ cell → ∀ id, lives other id → lives' other id)
    {change : Cell (RegexArena ρ) → Cell (RegexArena ρ)}
    (hc : ∀ c, w.cells[cell]? = some c → (change c).shared.cache.KeptFor (lives' cell)) :
    Accounted { w with cells := w.cells.modify cell change } lives' := by
  intro other d hd
  rw [List.getElem?_modify] at hd
  obtain ⟨c, hget, rfl⟩ := Option.map_eq_some_iff.mp hd
  split
  · rename_i he
    obtain rfl := he
    exact hc c hget
  · rename_i hne
    exact (hw other c hget).imp (hother other (Ne.symm hne))

theorem Accounted.onCell (hw : w.Accounted lives) {cell : Nat}
    (hother : ∀ other, other ≠ cell → ∀ id, lives other id → lives' other id)
    {use : SharedCache (RegexArena ρ) → α × SharedCache (RegexArena ρ)}
    (hu : ∀ c, w.cells[cell]? = some c → (use c.shared).2.cache.KeptFor (lives' cell)) :
    (w.onCell cell use).2.Accounted lives' := by
  unfold World.onCell
  split
  · rename_i hnone
    intro other c hc
    refine (hw other c hc).imp (hother other ?_)
    intro he
    rw [he, hnone] at hc
    cases hc
  · rename_i c hc
    apply hw.modifyCell hother
    intro d hd
    obtain rfl := Option.some.inj (hc.symm.trans hd)
    exact hu c hc

theorem Accounted.addCell (hw : w.Accounted lives) {cache : Cache (RegexArena ρ)}
    (hc : ∀ cell, cache.KeptFor (lives cell)) : (w.addCell cache).Accounted lives := by
  intro cell c h
  rcases Nat.lt_or_ge cell w.cells.length with hlt | hge
  · exact hw cell c ((List.getElem?_append_left hlt).symm.trans h)
  · have hnew := (List.getElem?_append_right hge).symm.trans h
    obtain rfl := List.mem_singleton.mp (List.mem_of_getElem? hnew)
    exact hc cell

theorem slots_settle [Engine σ] (w : World σ) (cell : Nat) : (w.settle cell).slots = w.slots := by
  unfold World.settle
  split <;> rfl

theorem slots_replyFrom (w : World σ) (cell : Option Nat) (convert : α → Reply)
    (use : SharedCache σ → Except Failure α × SharedCache σ) :
    (w.replyFrom cell convert use).2.slots = w.slots := by
  unfold World.replyFrom
  split
  · rfl
  · rename_i cell
    have hslots := slots_onCell w cell use
    split
    · rename_i h
      rwa [h] at hslots
    · rename_i h
      rwa [h] at hslots

theorem cells_replyFrom (w : World σ) (cell : Nat) (convert : α → Reply)
    (use : SharedCache σ → Except Failure α × SharedCache σ) :
    (w.replyFrom (some cell) convert use).2 = (w.onCell cell use).2 := by
  unfold World.replyFrom
  dsimp only
  split
  · rename_i h
    rw [h]
  · rename_i h
    rw [h]

/-- Every cache has entries of living scanners of its own only. -/
def Tended (w : World (RegexArena ρ)) : Prop := w.Accounted w.Lives

theorem Tended.of_slots {v : World (RegexArena ρ)} (hs : v.slots = w.slots)
    (hv : v.Accounted w.Lives) :
    v.Tended := by
  refine hv.imp fun cell id hl => hl.mono fun number o ho => ?_
  rw [living?_congr hs]
  exact ho

theorem Tended.addObject (hw : w.Tended) (o : Object) :
    ({ w with nextId := w.nextId.next }.addObject o).Tended :=
  Accounted.imp hw fun _ _ hl => hl.mono fun _ _ h => living?_addObject h o

theorem Tended.create (hw : w.Tended) (cache : Option Nat) (make : ScannerId → Nat → Object) :
    (w.create cache make).2.Tended := by
  unfold World.create
  split
  · exact hw
  · exact hw.addObject _

/-- Dropping an object ends the life of its own scanner, and no other. -/
theorem lives_set {number cell : Nat} {slot : Slot} {id : ScannerId} (h : w.Lives cell id)
    (hs : w.slots[number]? = some slot)
    (hother : slot.object.cell? ≠ some cell ∨ ∀ s, slot.object.scanner? = some s → id ≠ s.id) :
    Lives { w with slots := w.slots.set number { slot with dropped := true } } cell id := by
  obtain ⟨n, o, s, ho, hcell, hscanner, rfl, hne⟩ := h
  have hn : n ≠ number := by
    rintro rfl
    simp only [living?, hs] at ho
    split at ho
    · cases ho
    · cases ho
      rcases hother with hc | hid
      · exact hc hcell
      · exact hid s hscanner rfl
  exact ⟨n, o, s, (living?_set hn _).trans ho, hcell, hscanner, rfl, hne⟩

variable [Regex ρ]

theorem Accounted.settle (hw : w.Accounted lives) (cell : Nat) :
    (w.settle cell).Accounted lives := by
  unfold World.settle
  split
  · exact hw
  · apply hw.modifyCell fun _ _ _ h => h
    intro c hc
    have hkept := hw cell c hc
    split
    · exact hkept
    · exact hkept.clear

theorem Tended.replyFrom (hw : w.Tended) (cell : Option Nat) (convert : α → Reply)
    {use : SharedCache (RegexArena ρ) → Except Failure α × SharedCache (RegexArena ρ)}
    {allowed : Nat → Request → Prop}
    (hu : ∀ n, cell = some n → ∀ s : SharedCache (RegexArena ρ), s.Served (use s).2 (allowed n))
    (ha : ∀ n owner patterns text start, cell = some n →
      allowed n (.find owner patterns text start) → w.Lives n owner) :
    (w.replyFrom cell convert use).2.Tended := by
  apply Tended.of_slots (slots_replyFrom w cell convert use)
  cases cell with
  | none => exact hw
  | some n =>
    rw [cells_replyFrom]
    apply Accounted.onCell hw fun _ _ _ h => h
    intro c hc
    exact (hw n c hc).served (hu n rfl c.shared) fun _ _ _ _ => ha n _ _ _ _ rfl

theorem Tended.replyChange (hw : w.Tended) (cell : Option Nat) (convert : α → Reply)
    {use : Cache (RegexArena ρ) → Except Failure α × Cache (RegexArena ρ)} {r : Request}
    (hu : ∀ c, (use c).2 = (c.serve r).2)
    (hr : ∀ owner patterns text start, r ≠ .find owner patterns text start) :
    (w.replyFrom cell convert (·.change use)).2.Tended := by
  refine hw.replyFrom cell convert (fun _ _ s => SharedCache.served_change hu (Eq.refl r)) ?_
  intro n owner patterns text start _ he
  exact absurd he (hr owner patterns text start)

theorem Tended.ask (hw : w.Tended) (query : Query) : (w.ask query).2.Tended := by
  cases query with
  | find number ref start =>
    unfold World.ask
    dsimp only
    split
    · rename_i scanner cell text ho ht
      apply hw.replyFrom _ _ fun _ _ s => scanner.served_findNext text start
      rintro n owner patterns bytes first ⟨⟩ ⟨rfl, -, hne⟩
      exact ⟨number, _, scanner, ho, rfl, rfl, rfl, hne⟩
    · exact hw
  | search number ref start =>
    unfold World.ask
    dsimp only
    split
    · rename_i finder cell text ho ht
      apply hw.replyFrom _ _ fun _ _ s => finder.served_search text start
      rintro n owner patterns bytes first ⟨⟩ ⟨scanner, hs, rfl, -, hne⟩
      exact ⟨number, _, scanner, ho, congrArg (Option.map _) hs, hs, rfl, hne⟩
    · exact hw
  | test number ref =>
    unfold World.ask
    dsimp only
    split
    · rename_i finder cell subject ho ht
      apply hw.replyFrom _ _ fun _ _ s => finder.served_test subject
      rintro n owner patterns bytes first ⟨⟩ ⟨scanner, hs, rfl, -, hne⟩
      exact ⟨number, _, scanner, ho, congrArg (Option.map _) hs, hs, rfl, hne⟩
    · exact hw

theorem leave_of_cell? [Engine σ] {o : Object} {cell : Nat} (h : o.cell? = some cell) :
    ∃ s, o.scanner? = some s ∧ ∀ shared : SharedCache σ, leave o shared = s.drop shared := by
  cases o with
  | scanner s other => exact ⟨s, rfl, fun _ => rfl⟩
  | finder f other =>
    obtain ⟨s, hs, -⟩ := Option.map_eq_some_iff.mp h
    refine ⟨s, hs, fun shared => ?_⟩
    simp only [leave, Finder.drop, hs]
  | identity id => cases h

theorem Tended.drop (hw : w.Tended) (hc : w.Consistent) (number : Nat) :
    (w.drop number).Tended := by
  unfold World.drop
  split
  · exact hw
  · rename_i slot hs
    split
    · exact hw
    · dsimp only
      split
      · rename_i hnone
        refine Accounted.imp hw fun cell id hl => lives_set hl hs (Or.inl ?_)
        rw [hnone]
        exact nofun
      · rename_i cell hcell
        apply Tended.of_slots (slots_settle _ cell)
        apply Accounted.settle
        obtain ⟨s, hscanner, hleave⟩ := leave_of_cell? (σ := RegexArena ρ) hcell
        have hkept : w.Accounted w.Lives := hw
        refine hkept.onCell ?_ ?_
        · intro other hne id hl
          refine lives_set hl hs (Or.inl ?_)
          rw [hcell]
          exact fun he => hne (Option.some.inj he).symm
        · -- nobody holds the cache, so the entry of the scanner does go
          intro c hget
          have hfree : c.shared.hold = .free := (hc.ready c (List.mem_of_getElem? hget)).free
          dsimp only
          rw [hleave, Scanner.drop, Scanner.dispose, SharedCache.change_of_free hfree]
          apply (hkept cell c hget).evict
          intro other hl hne
          refine lives_set hl hs (Or.inr ?_)
          rintro t ht rfl
          rw [hscanner] at ht
          cases ht
          exact hne rfl

theorem Tended.release (hw : w.Tended) (reference : Nat) : (w.release reference).Tended := by
  unfold World.release
  split
  · exact hw
  · rename_i cell hc
    apply Tended.of_slots (slots_settle _ cell)
    apply Accounted.settle
    exact hw

end World

variable {ρ : Type} [Regex ρ]

/-- What a program does through its scanners and finders: it gives no cache an engine with compiled
patterns, searches on behalf of nobody and does not reach through to an engine. -/
def Action.Plain : Action (RegexArena ρ) → Prop
  | .newCache engine _ => engine.Reachable ∧ engine.live = 0
  | .newConfigured engine _ => engine.Reachable ∧ engine.live = 0
  | .findOnBehalf .. => False
  | .instruct .. => False
  | _ => True

namespace World

variable {w : World (RegexArena ρ)}

theorem allows_of_plain {action : Action (RegexArena ρ)} (ha : action.Plain) : w.Allows action := by
  cases action with
  | newCache engine capacity => exact ha.1
  | newConfigured engine config => exact ha.1
  | findOnBehalf => exact ha.elim
  | instruct => exact ha.elim
  | _ => trivial

theorem Tended.act (hw : w.Tended) (hc : w.Consistent) {action : Action (RegexArena ρ)}
    (ha : action.Plain) : (w.act action).2.Tended := by
  cases action with
  | newCache engine capacity =>
    exact Accounted.addCell hw fun _ => Cache.keptFor_new ha.1 ha.2 capacity
  | newConfigured engine config =>
    unfold World.act
    dsimp only
    split
    · exact Accounted.addCell hw fun _ => Cache.keptFor_withConfig ha.1 ha.2 ‹_›
    · exact hw
  | useCommon => exact hw
  | release cache => exact hw.release cache
  | newScanner sources cache => exact hw.create cache _
  | newFinder source cache => exact hw.create cache _
  | newIdentity => exact hw.addObject _
  | newText text => exact hw
  | ask query => exact hw.ask query
  | source object =>
    unfold World.act
    dsimp only
    split <;> exact hw
  | sources object =>
    unfold World.act
    dsimp only
    split <;> exact hw
  | searchesWith object cache => exact hw
  | dispose object =>
    unfold World.act
    dsimp only
    split
    · exact hw.replyChange _ _ (r := .evict _) (fun _ => rfl) nofun
    · exact hw
  | drop object => exact hw.drop hc object
  | findOnBehalf cache object patterns text start => exact ha.elim
  | evict cache object =>
    unfold World.act World.onBehalf
    dsimp only
    split
    · exact hw
    · exact hw.replyChange _ _ (r := .evict _) (fun _ => rfl) nofun
  | clear cache => exact hw.replyChange _ _ (r := .clear) (fun _ => rfl) nofun
  | resize cache capacity => exact hw.replyChange _ _ (r := .resize capacity) (fun _ => rfl) nofun
  | setLog cache on => exact hw.replyChange _ _ (r := .setLog on) (fun _ => rfl) nofun
  | describe cache => exact hw
  | configure config =>
    apply hw.replyFrom _ _ fun _ _ s => s.served_configure config
    rintro n owner patterns bytes first - (⟨⟨⟩⟩ | ⟨⟨⟩⟩)
  | statistics => exact hw
  | instruct cache instruction => exact ha.elim

theorem tended_fresh : (fresh (.empty : RegexArena ρ)).Tended := by
  intro cell c hc
  obtain rfl := List.mem_singleton.mp (List.mem_of_getElem? hc)
  exact Cache.keptFor_new .empty rfl _

theorem Tended.acts (hw : w.Tended) (hc : w.Consistent) {actions : List (Action (RegexArena ρ))}
    (ha : ∀ action ∈ actions, action.Plain) :
    (w.acts actions).Tended ∧ (w.acts actions).Consistent := by
  induction actions generalizing w with
  | nil => exact ⟨hw, hc⟩
  | cons action rest ih =>
    obtain ⟨hfirst, hrest⟩ := List.forall_mem_cons.mp ha
    exact ih (hw.act hc hfirst) (hc.act (allows_of_plain hfirst)) hrest

/-- Disposing of a scanner takes its entry out and leaves all else as it was. -/
theorem dispose_living (hw : w.Tended) (hc : w.Consistent) {number cell : Nat} {scanner : Scanner}
    (ho : w.living? number = some (.scanner scanner cell)) :
    ∃ c d reply, w.cells[cell]? = some c ∧
      w.act (.dispose number) = (reply, w.setShared cell { c.shared with cache := d }) ∧
      d.entries = c.shared.cache.others scanner.id ∧
      (c.shared.cache.engine.Roomy → reply = .ok (.flag (c.shared.cache.contains scanner.id)) ∧
        ∀ e ∈ d.entries, e.handles.map d.engine.regex? =
          e.handles.map c.shared.cache.engine.regex?) := by
  obtain ⟨c, hget, hready⟩ := hc.cell_of_living? ho rfl
  refine ⟨c, (c.shared.cache.evict scanner.id).2,
    (c.shared.cache.evict scanner.id).1.map .flag, hget, ?_,
    c.shared.cache.entries_evict scanner.id,
    ?_⟩
  · simp only [World.act, ho, World.replyFrom, World.onCell, hget, Scanner.dispose,
      SharedCache.change_of_free hready.free]
  · intro hroom
    obtain ⟨d, hd, hev⟩ := ((hw cell c hget).holds hroom).evict scanner.id
    rw [hd]
    refine ⟨rfl, ?_⟩
    intro e he
    rcases hev.entries e he with ⟨-, hsame⟩ | hnone
    · exact hsame
    · exact hnone.elim

/-- Whatever a program does through its scanners and finders, in whatever order it drops them: every
entry of a cache belongs to one object, which was not dropped, searches with that cache and has
sources, and the entry's handles are those of its sources in order. So a cache whose objects are all
gone is empty, and nothing is live in its engine. Disposing of a scanner tells whether it had an
entry, takes that out, and leaves the others, their order and all other caches as they were. What is
said of handles holds as long as the slots have numbers of their own. -/
theorem entries_of_living {actions : List (Action (RegexArena ρ))}
    (ha : ∀ action ∈ actions, action.Plain) :
    let w := (fresh (.empty : RegexArena ρ)).acts actions
    (∀ (cell : Nat) (c : Cell (RegexArena ρ)), w.cells[cell]? = some c →
      (c.shared.cache.entries.map Entry.owner).Nodup ∧
      (∀ e ∈ c.shared.cache.entries, ∃ (number : Nat) (o : Object) (s : Scanner),
        w.living? number = some o ∧ o.cell? = some cell ∧ o.scanner? = some s ∧
        s.id = e.owner ∧ s.sources ≠ [] ∧
        (∀ other p, w.object? other = some p → p.identity? = some e.owner → other = number) ∧
        (c.shared.cache.engine.Roomy → ∃ rs : List ρ,
          s.sources.map Regex.compile = rs.map .ok ∧
          e.handles.map c.shared.cache.engine.regex? = rs.map some)) ∧
      ((∀ number o, w.living? number = some o → o.cell? ≠ some cell) →
        c.shared.cache.entries = [] ∧
          (c.shared.cache.engine.Roomy → c.shared.cache.liveCount = 0))) ∧
    ∀ (number cell : Nat) (scanner : Scanner), w.living? number = some (.scanner scanner cell) →
      ∃ c d reply, w.cells[cell]? = some c ∧
        w.act (.dispose number) = (reply, w.setShared cell { c.shared with cache := d }) ∧
        d.entries = c.shared.cache.others scanner.id ∧
        (c.shared.cache.engine.Roomy → reply = .ok (.flag (c.shared.cache.contains scanner.id)) ∧
          ∀ e ∈ d.entries, e.handles.map d.engine.regex? =
            e.handles.map c.shared.cache.engine.regex?) := by
  intro w
  obtain ⟨hw, hc⟩ : w.Tended ∧ w.Consistent := tended_fresh.acts consistent_fresh ha
  refine ⟨?_, fun number cell scanner ho => dispose_living hw hc ho⟩
  intro cell c hget
  have hkept := hw cell c hget
  have hready := hc.ready c (List.mem_of_getElem? hget)
  refine ⟨c.shared.cache.owners_nodup, ?_, ?_⟩
  · intro e he
    obtain ⟨number, o, s, ho, hcell, hs, hid, hne⟩ := hkept.owner e he
    have hin : s ∈ w.scanners := mem_scanners (mem_objects_of_living? ho) hs
    refine ⟨number, o, s, ho, hcell, hs, hid, hne, ?_, ?_⟩
    · intro other p hother hpid
      have hoid : o.identity? = some e.owner := hid ▸ Object.identity?_of_scanner? hs
      exact number_eq_of_identity? hc.identities_nodup hother (object?_of_living? ho) hpid hoid
    · intro hroom
      obtain ⟨rs, hall, hp⟩ := (hready.faithful hroom).regexes e he s hin hid
      exact ⟨rs, compileAll_eq_ok_iff.mp hall, hp⟩
  · intro hgone
    apply hkept.empty
    rintro id ⟨number, o, s, ho, hcell, -⟩
    exact hgone number o ho hcell

/-- Two scanners of the empty pattern search, and the first one goes. -/
def goingFirst : List (Action Arena) :=
  [.newCache .empty 2, .newScanner [""] (some 0), .newScanner [""] (some 0),
    .ask (.find 0 (.given (.ofString "")) 0), .ask (.find 1 (.given (.ofString "")) 0), .drop 0]

/-- The second scanner still has its entry, and takes it along when it is disposed of or goes too.
-/
theorem entries_of_living_going_first :
    let w := (fresh (.empty : Arena)).acts goingFirst
    let v := (fresh (.empty : Arena)).acts (goingFirst ++ [.drop 1])
    (∀ action ∈ goingFirst ++ [.drop 1], action.Plain) ∧ w.Roomy ∧ v.Roomy ∧
      w.living? 1 = some (.scanner ⟨⟨2⟩, [""]⟩ 1) ∧
      (∃ c d, w.cells[1]? = some c ∧ c.shared.cache.entries = [⟨⟨2⟩, [⟨1⟩]⟩] ∧
        w.act (.dispose 1) = (.ok (.flag true), w.setShared 1 { c.shared with cache := d }) ∧
        d.entries = []) ∧
      ∃ c, v.cells[1]? = some c ∧ c.shared.cache.entries = [] ∧ c.shared.cache.liveCount = 0 := by
  have hall : ∀ action ∈ goingFirst ++ [.drop 1], action.Plain := by
    intro action hm
    simp only [goingFirst, List.cons_append, List.nil_append, List.mem_cons, List.not_mem_nil,
      or_false] at hm
    rcases hm with rfl | rfl | rfl | rfl | rfl | rfl | rfl
    · exact ⟨.empty, rfl⟩
    all_goals trivial
  have ho : ((fresh (.empty : Arena)).acts goingFirst).living? 1 =
      some (.scanner ⟨⟨2⟩, [""]⟩ 1) := rfl
  have hone : ((fresh (.empty : Arena)).acts goingFirst).cells[1]?.map
      (fun c => c.shared.cache.entries) = some [⟨⟨2⟩, [⟨1⟩]⟩] := by decide +kernel
  have hroom : ((fresh (.empty : Arena)).acts goingFirst).Roomy := by decide +kernel
  have hroomy : ((fresh (.empty : Arena)).acts (goingFirst ++ [.drop 1])).Roomy := by
    decide +kernel
  have hslots : ((fresh (.empty : Arena)).acts (goingFirst ++ [.drop 1])).slots =
      [⟨.scanner ⟨⟨1⟩, [""]⟩ 1, true⟩, ⟨.scanner ⟨⟨2⟩, [""]⟩ 1, true⟩] := rfl
  have hcells : ((fresh (.empty : Arena)).acts (goingFirst ++ [.drop 1])).cells.length = 2 := rfl
  intro w v
  refine ⟨hall, hroom, hroomy, ho, ?_, ?_⟩
  · have ha : ∀ action ∈ goingFirst, action.Plain := fun action hm =>
      hall action (List.mem_append_left _ hm)
    obtain ⟨c, d, reply, hc, hreply, hothers, htold⟩ := (entries_of_living ha).2 1 1 _ ho
    obtain ⟨rfl, -⟩ := htold (hroom c (List.mem_of_getElem? hc))
    have hentries : c.shared.cache.entries = [⟨⟨2⟩, [⟨1⟩]⟩] := by
      rw [hc] at hone
      exact Option.some.inj hone
    have hcontains : c.shared.cache.contains ⟨2⟩ = true :=
      Cache.contains_of_mem (e := ⟨⟨2⟩, [⟨1⟩]⟩) (by simp [hentries])
    rw [hcontains] at hreply
    rw [Cache.others, RecencyList.without, hentries] at hothers
    exact ⟨c, d, hc, hentries, hreply, hothers⟩
  · obtain ⟨c, hget⟩ : ∃ c, v.cells[1]? = some c :=
      ⟨_, List.getElem?_eq_getElem (Nat.lt_of_lt_of_eq Nat.one_lt_two hcells.symm)⟩
    have hgone : ∀ number o, v.living? number = some o → o.cell? ≠ some 1 := by
      intro number o h
      simp only [living?, v, hslots] at h
      rcases number with _ | _ | n <;> cases h
    obtain ⟨hnil, hnone⟩ := ((entries_of_living hall).1 1 c hget).2.2 hgone
    exact ⟨c, hget, hnil, hnone (hroomy c (List.mem_of_getElem? hget))⟩

end World
end Session
end PatternScan
