import PatternScan.Proofs.Scanner.Orderly
import PatternScan.Proofs.Session.Lifetime

namespace PatternScan.Session

open Cache (Request)

variable {σ α : Type}

/-- An action that reaches through to an engine, which no operation of the library does. -/
def Action.Instructs : Action σ → Prop
  | .instruct .. => True
  | _ => False

namespace World

/-- Only cells changed, each in the given way. -/
structure Reworked (w v : World σ) (R : Nat → Cell σ → Cell σ → Prop) : Prop where
  references : v.references = w.references
  slots : v.slots = w.slots
  texts : v.texts = w.texts
  nextId : v.nextId = w.nextId
  length : v.cells.length = w.cells.length
  cell : ∀ i c, w.cells[i]? = some c → ∃ d, v.cells[i]? = some d ∧ R i c d

/-- What an action writes down before it works on cells. -/
inductive Booked (w : World σ) : World σ → Prop where
  | nothing : Booked w w
  | cell (cache : Cache σ) : Booked w (w.addCell cache)
  | reference (cell : Nat) : Booked w (w.addReference cell)
  | object (o : Object) (hid : ∀ id, o.identity? = some id → id = w.nextId) :
    Booked w ({ w with nextId := w.nextId.next }.addObject o)
  | text (text : IndexedText) : Booked w (w.addText text)
  | released (reference : Nat) : Booked w
    { w with references := w.references.modify reference fun r => { r with released := true } }
  | dropped (number : Nat) (slot : Slot) (hs : w.slots[number]? = some slot) : Booked w
    { w with slots := w.slots.set number { slot with dropped := true } }

variable {w v u : World σ} {R : Nat → Cell σ → Cell σ → Prop}

theorem reworked_self (h : ∀ i c, R i c c) : w.Reworked w R :=
  ⟨rfl, rfl, rfl, rfl, rfl, fun i c hc => ⟨c, hc, h i c⟩⟩

theorem Reworked.imp {S : Nat → Cell σ → Cell σ → Prop} (hw : w.Reworked v R)
    (h : ∀ i c d, R i c d → S i c d) : w.Reworked v S := by
  refine ⟨hw.references, hw.slots, hw.texts, hw.nextId, hw.length, ?_⟩
  intro i c hc
  obtain ⟨d, hd, hr⟩ := hw.cell i c hc
  exact ⟨d, hd, h i c d hr⟩

theorem Reworked.trans (hw : w.Reworked v R) (hv : v.Reworked u R)
    (h : ∀ i c d e, R i c d → R i d e → R i c e) : w.Reworked u R := by
  refine ⟨hv.references.trans hw.references, hv.slots.trans hw.slots, hv.texts.trans hw.texts,
    hv.nextId.trans hw.nextId, hv.length.trans hw.length, ?_⟩
  intro i c hc
  obtain ⟨d, hd, hr⟩ := hw.cell i c hc
  obtain ⟨e, he, hs⟩ := hv.cell i d hd
  exact ⟨e, he, h i c d e hr hs⟩

theorem reworked_modify (h : ∀ i c, R i c c) {cell : Nat} {change : Cell σ → Cell σ}
    (hc : ∀ c, w.cells[cell]? = some c → R cell c (change c)) :
    w.Reworked { w with cells := w.cells.modify cell change } R := by
  refine ⟨rfl, rfl, rfl, rfl, List.length_modify .., ?_⟩
  intro i c hi
  refine ⟨if cell = i then change c else c, ?_, ?_⟩
  · simp only [List.getElem?_modify, hi]
    rfl
  · split
    · rename_i he
      obtain rfl := he
      exact hc c hi
    · exact h i c

theorem reworked_onCell (h : ∀ i c, R i c c) {cell : Nat}
    {use : SharedCache σ → α × SharedCache σ}
    (hu : ∀ c, w.cells[cell]? = some c → R cell c { c with shared := (use c.shared).2 }) :
    w.Reworked (w.onCell cell use).2 R := by
  unfold onCell
  split
  · exact reworked_self h
  · rename_i c hc
    apply reworked_modify h
    intro d hd
    obtain rfl := Option.some.inj (hc.symm.trans hd)
    exact hu c hc

theorem reworked_replyFrom (h : ∀ i c, R i c c) {cell : Option Nat} {convert : α → Reply}
    {use : SharedCache σ → Except Failure α × SharedCache σ}
    (hu : ∀ i c, cell = some i → w.cells[i]? = some c →
      R i c { c with shared := (use c.shared).2 }) :
    w.Reworked (w.replyFrom cell convert use).2 R := by
  cases cell with
  | none => exact reworked_self h
  | some i =>
    rw [cells_replyFrom]
    exact reworked_onCell h fun c hc => hu i c rfl hc

theorem Booked.cells (hb : w.Booked v) {i : Nat} {c : Cell σ} (hc : w.cells[i]? = some c) :
    v.cells[i]? = some c := by
  cases hb with
  | cell cache =>
    exact (List.getElem?_append_left (List.getElem?_eq_some_iff.mp hc).1).trans hc
  | _ => exact hc

/-- Where only cells changed, every cell comes from one. -/
theorem Reworked.before (hw : w.Reworked v R) {i : Nat} {d : Cell σ} (hd : v.cells[i]? = some d) :
    ∃ c, w.cells[i]? = some c ∧ R i c d := by
  have hlt : i < w.cells.length := hw.length ▸ (List.getElem?_eq_some_iff.mp hd).1
  have hc : w.cells[i]? = some w.cells[i] := List.getElem?_eq_getElem hlt
  obtain ⟨d', hd', hr⟩ := hw.cell i _ hc
  obtain rfl := Option.some.inj (hd.symm.trans hd')
  exact ⟨_, hc, hr⟩

theorem Booked.slot (hb : w.Booked v) {number : Nat} {slot : Slot}
    (hs : w.slots[number]? = some slot) :
    ∃ later, v.slots[number]? = some later ∧ later.object = slot.object ∧
      (slot.dropped = true → later.dropped = true) := by
  cases hb with
  | object o hid =>
    refine ⟨slot, ?_, rfl, id⟩
    exact (List.getElem?_append_left (List.getElem?_eq_some_iff.mp hs).1).trans hs
  | dropped other marked hm =>
    by_cases he : other = number
    · subst he
      obtain rfl := Option.some.inj (hs.symm.trans hm)
      exact ⟨_, List.getElem?_set_self (List.getElem?_eq_some_iff.mp hs).1, rfl, fun _ => rfl⟩
    · exact ⟨slot, (List.getElem?_set_ne he).trans hs, rfl, id⟩
  | _ => exact ⟨slot, hs, rfl, id⟩

/-- Identities were given out once, each before the next one. -/
structure Named (w : World σ) : Prop where
  nodup : w.identities.Nodup
  lt : ∀ id ∈ w.identities, id.number < w.nextId.number

theorem named_fresh (engine : σ) : (fresh engine).Named :=
  ⟨List.nodup_nil, fun _ h => absurd h List.not_mem_nil⟩

theorem Named.congr (hw : w.Named) (ho : v.objects = w.objects) (hn : v.nextId = w.nextId) :
    v.Named := by
  have hi : v.identities = w.identities := congrArg (List.filterMap Object.identity?) ho
  exact ⟨hi ▸ hw.nodup, hi ▸ hn ▸ hw.lt⟩

theorem Named.booked (hw : w.Named) (hb : w.Booked v) : v.Named := by
  cases hb with
  | object o hid =>
    have hi : identities ({ w with nextId := w.nextId.next }.addObject o) =
        w.identities ++ o.identity?.toList := by
      cases ho : o.identity? <;> simp [identities, objects, addObject, ho]
    have hnew : ∀ id ∈ o.identity?.toList, id = w.nextId := by
      intro id hm
      exact hid id (Option.mem_toList.mp hm)
    refine ⟨?_, ?_⟩
    · rw [hi, List.nodup_append]
      refine ⟨hw.nodup, ?_, ?_⟩
      · cases o.identity? <;> simp
      · intro id hm id' hm' he
        have hlt := hw.lt id hm
        rw [he, hnew id' hm'] at hlt
        exact Nat.lt_irrefl _ hlt
    · intro id hm
      rw [hi] at hm
      rcases List.mem_append.mp hm with hm | hm
      · exact Nat.lt_succ_of_lt (hw.lt id hm)
      · rw [hnew id hm]
        exact Nat.lt_succ_self _
  | dropped number slot hs => exact hw.congr (objects_set hs) rfl
  | _ => exact ⟨hw.nodup, hw.lt⟩

theorem Named.reworked (hw : w.Named) (hv : w.Reworked v R) : v.Named :=
  hw.congr (congrArg (List.map Slot.object) hv.slots) hv.nextId

theorem Named.no_other (hw : w.Named) {number : Nat} {slot : Slot} {id : ScannerId}
    (hs : w.slots[number]? = some slot) (hd : slot.dropped = true)
    (hi : slot.object.identity? = some id) {other : Nat} {p : Object}
    (hp : w.living? other = some p) : p.identity? ≠ some id := by
  intro hj
  have ho : w.object? number = some slot.object := congrArg (Option.map Slot.object) hs
  obtain rfl := number_eq_of_identity? hw.nodup ho (object?_of_living? hp) hi hj
  simp [living?, hs, hd] at hp

/-- Nobody holds a cache. -/
def Unheld (w : World σ) : Prop := ∀ c ∈ w.cells, c.shared.hold = .free

theorem unheld_fresh (engine : σ) : (fresh engine).Unheld := by
  intro c hc
  obtain rfl := List.mem_singleton.mp hc
  rfl

theorem Unheld.booked (hw : w.Unheld) (hb : w.Booked v) : v.Unheld := by
  cases hb with
  | cell cache =>
    intro c hc
    rcases List.mem_append.mp hc with hc | hc
    · exact hw c hc
    · obtain rfl := List.mem_singleton.mp hc
      rfl
  | _ => exact hw

theorem Unheld.reworked (hw : w.Unheld)
    (hv : w.Reworked v fun _ c d => d.shared.hold = c.shared.hold) : v.Unheld := by
  intro d hd
  obtain ⟨i, hi⟩ := List.mem_iff_getElem?.mp hd
  obtain ⟨c, hc, hsame⟩ := hv.before hi
  exact hsame.trans (hw c (List.mem_of_getElem? hc))

/-- The requests of an action to a cell. Its searches are those for the scanners that live there,
and one on behalf of an object. -/
def Permits (w : World σ) (action : Action σ) (cell : Nat) : Request → Prop
  | .find owner _ _ _ => w.Lives cell owner ∨
    ∃ cache object patterns text start, action = .findOnBehalf cache object patterns text start ∧
      (w.object? object).bind Object.id? = some owner
  | _ => True

theorem permits_of_asks {action : Action σ} {number cell : Nat} {o : Object} {s : Scanner}
    (ho : w.living? number = some o) (hc : o.cell? = some cell) (hs : o.scanner? = some s)
    {r : Request} (hr : s.Asks r) : w.Permits action cell r := by
  cases r with
  | find owner patterns text start =>
    obtain ⟨rfl, -, hne⟩ := hr
    exact Or.inl ⟨number, o, s, ho, hc, hs, rfl, hne⟩
  | _ => exact hr.elim

end World

variable [Engine σ]

/-- Work on a cell: its cache serves requests, and nothing happens while somebody holds it. -/
structure Cell.Worked (c d : Cell σ) (allowed : Request → Prop) : Prop where
  served : c.shared.Served d.shared allowed
  locked : c.shared.hold ≠ .free → d = c

theorem Cell.worked_self (c : Cell σ) (allowed : Request → Prop) : c.Worked c allowed :=
  ⟨SharedCache.served_self, fun _ => rfl⟩

theorem Cell.worked_of_orderly {use : SharedCache σ → Except Failure α × SharedCache σ}
    {allowed : Request → Prop} (ho : SharedCache.Orderly use allowed) (c : Cell σ) :
    c.Worked { c with shared := (use c.shared).2 } allowed := by
  refine ⟨ho.served c.shared, ?_⟩
  intro h
  rw [ho.held c.shared h]

theorem Cell.Worked.trans {c d e : Cell σ} {allowed : Request → Prop} (hc : c.Worked d allowed)
    (hd : d.Worked e allowed) : c.Worked e allowed := by
  obtain ⟨before, hbefore, hall⟩ := hc.served.requests
  obtain ⟨rest, hrest, hall'⟩ := hd.served.requests
  refine ⟨⟨hd.served.hold.trans hc.served.hold, before ++ rest, ?_, ?_⟩, ?_⟩
  · rw [hrest, hbefore, Cache.after_append]
  · exact List.forall_mem_append.mpr ⟨hall, hall'⟩
  · intro h
    obtain rfl := hc.locked h
    exact hd.locked h

namespace World

variable {w v : World σ} {allowed : Nat → Request → Prop}

/-- What comes of an action: something is written down, then cells are worked on; and no cache is
reported busy that nobody holds. -/
structure Effect (w : World σ) (outcome : Except Failure Reply × World σ)
    (allowed : Nat → Request → Prop) : Prop where
  worked : ∃ base, w.Booked base ∧ base.Reworked outcome.2 fun i c d => c.Worked d (allowed i)
  answered : w.Unheld → outcome.1 ≠ .error .cacheBusy

theorem reworked_untouched : w.Reworked w fun i c d => c.Worked d (allowed i) :=
  reworked_self fun i c => c.worked_self (allowed i)

theorem ok_ne_busy {reply : Reply} : (.ok reply : Except Failure Reply) ≠ .error .cacheBusy := nofun

theorem effect_answered (hb : w.Booked v) {answer : Except Failure Reply}
    (hr : answer ≠ .error .cacheBusy) : w.Effect (answer, v) allowed :=
  ⟨⟨v, hb, reworked_untouched⟩, fun _ => hr⟩

theorem effect_booked (hb : w.Booked v) {reply : Reply} : w.Effect (.ok reply, v) allowed :=
  effect_answered hb ok_ne_busy

theorem effect_self {reply : Reply} : w.Effect (.ok reply, w) allowed := effect_booked .nothing

theorem effect_replyFrom {cell : Option Nat} {convert : α → Reply}
    {use : SharedCache σ → Except Failure α × SharedCache σ}
    (ho : ∀ i, cell = some i → SharedCache.Orderly use (allowed i)) :
    w.Effect (w.replyFrom cell convert use) allowed := by
  refine ⟨⟨w, .nothing, ?_⟩, ?_⟩
  · apply reworked_replyFrom fun i c => c.worked_self (allowed i)
    intro i c hi _
    exact Cell.worked_of_orderly (ho i hi) c
  · intro hw
    cases cell with
    | none => exact ok_ne_busy
    | some i =>
      cases hc : w.cells[i]? with
      | none =>
        simp only [replyFrom, onCell, hc]
        exact ok_ne_busy
      | some c =>
        rw [replyFrom_some hc]
        intro he
        exact (ho i rfl).free c.shared (hw c (List.mem_of_getElem? hc))
          (Except.map_eq_error_iff.mp he)

theorem effect_replySeen (cell : Option Nat) (look : Cache σ → Reply) :
    w.Effect (w.replySeen cell look, w) allowed := by
  refine ⟨⟨w, .nothing, reworked_untouched⟩, ?_⟩
  intro hw
  unfold replySeen
  split
  · exact ok_ne_busy
  · rename_i c hc
    obtain ⟨i, -, hget⟩ := Option.bind_eq_some_iff.mp hc
    rw [SharedCache.read, hw c (List.mem_of_getElem? hget)]
    exact ok_ne_busy

theorem reworked_settle (allowed : Nat → Request → Prop) (cell : Nat)
    (ha : allowed cell .clear) :
    w.Reworked (w.settle cell) fun i c d => c.Worked d (allowed i) := by
  unfold settle
  split
  · exact reworked_untouched
  · rename_i hunused
    apply reworked_modify fun i c => c.worked_self (allowed i)
    intro c hc
    have hfree : c.shared.hold = .free := by
      simp only [inUse, holdOf, hc, Bool.or_eq_true, not_or] at hunused
      simpa using hunused.2
    split
    · exact c.worked_self _
    · refine ⟨⟨rfl, [.clear], rfl, ?_⟩, fun h => absurd hfree h⟩
      intro r hr
      obtain rfl := List.mem_singleton.mp hr
      exact ha

theorem effect_ask (query : Query) : w.Effect (w.ask query) (w.Permits (.ask query)) := by
  cases query with
  | find number ref start =>
    unfold ask
    dsimp only
    split
    · rename_i scanner cell text ho ht
      apply effect_replyFrom
      rintro i ⟨⟩
      exact (scanner.orderly_findNext text start).imp fun r => permits_of_asks ho rfl rfl
    · exact effect_self
  | search number ref start =>
    unfold ask
    dsimp only
    split
    · rename_i finder cell text ho ht
      apply effect_replyFrom
      rintro i ⟨⟩
      apply (finder.orderly_search text start).imp
      rintro r ⟨s, hs, hr⟩
      exact permits_of_asks ho (congrArg (Option.map _) hs) hs hr
    · exact effect_self
  | test number subject =>
    unfold ask
    dsimp only
    split
    · rename_i finder cell subject ho ht
      apply effect_replyFrom
      rintro i ⟨⟩
      apply (finder.orderly_test subject).imp
      rintro r ⟨s, hs, hr⟩
      exact permits_of_asks ho (congrArg (Option.map _) hs) hs hr
    · exact effect_self

theorem effect_create (cache : Option Nat) {make : ScannerId → Nat → Object}
    (hid : ∀ id cell id', (make id cell).identity? = some id' → id' = id) :
    w.Effect (w.create cache make) allowed := by
  unfold create
  split
  · exact effect_self
  · exact effect_booked (.object _ fun id h => hid _ _ id h)

theorem effect_onBehalf (cache object : Nat) (convert : α → Reply)
    {use : ScannerId → Cache σ → Except Failure α × Cache σ} {r : ScannerId → Request}
    (hu : ∀ id c, (use id c).2 = (c.serve (r id)).2)
    (hf : ∀ id c failure, (use id c).1 = .error failure → failure.OfCache)
    (ha : ∀ id i, (w.object? object).bind Object.id? = some id → allowed i (r id)) :
    w.Effect (w.onBehalf cache object convert use) allowed := by
  unfold onBehalf
  split
  · exact effect_self
  · rename_i id hid
    apply effect_replyFrom
    intro i _
    exact SharedCache.orderly_change (hu id) (ha id i hid) (hf id)

theorem effect_change {cell : Option Nat} {convert : α → Reply}
    {use : Cache σ → Except Failure α × Cache σ} {r : Request}
    (hu : ∀ c, (use c).2 = (c.serve r).2)
    (hf : ∀ c failure, (use c).1 = .error failure → failure.OfCache)
    (ha : ∀ i, allowed i r) :
    w.Effect (w.replyFrom cell convert (·.change use)) allowed :=
  effect_replyFrom fun i _ => SharedCache.orderly_change hu (ha i) hf

theorem effect_release (reference : Nat) (ha : ∀ i, allowed i .clear) :
    w.Effect (.ok .nothing, w.release reference) allowed := by
  unfold release
  split
  · exact effect_self
  · exact ⟨⟨_, .released reference, reworked_settle _ _ (ha _)⟩, fun _ => ok_ne_busy⟩

/-- What an object's end asks of its cell. -/
theorem worked_leave {o : Object} {cell : Nat} (h : o.cell? = some cell) (c : Cell σ)
    {allowed : Request → Prop} (ha : ∀ id, allowed (.evict id)) :
    c.Worked { c with shared := leave o c.shared } allowed := by
  obtain ⟨s, -, hleave⟩ := leave_of_cell? (σ := σ) h
  rw [hleave]
  apply Cell.worked_of_orderly
  apply s.orderly_dispose.imp
  rintro r rfl
  exact ha s.id

theorem effect_drop (number : Nat) (he : ∀ i id, allowed i (.evict id))
    (hc : ∀ i, allowed i .clear) : w.Effect (.ok .nothing, w.drop number) allowed := by
  refine ⟨?_, fun _ => ok_ne_busy⟩
  unfold drop
  split
  · exact ⟨w, .nothing, reworked_untouched⟩
  · rename_i slot hs
    split
    · exact ⟨w, .nothing, reworked_untouched⟩
    · dsimp only
      split
      · exact ⟨_, .dropped number slot hs, reworked_untouched⟩
      · rename_i cell hcell
        refine ⟨_, .dropped number slot hs, ?_⟩
        have hleft : Reworked { w with slots := w.slots.set number { slot with dropped := true } }
            { (w.onCell cell fun shared => ((), leave slot.object shared)).2 with
              slots := w.slots.set number { slot with dropped := true } }
            fun i c d => c.Worked d (allowed i) := by
          have hon : w.Reworked (w.onCell cell fun shared => ((), leave slot.object shared)).2
              fun i c d => c.Worked d (allowed i) :=
            reworked_onCell (fun i c => c.worked_self (allowed i))
              fun c _ => worked_leave hcell c (he cell)
          exact ⟨hon.references, rfl, hon.texts, hon.nextId, hon.length, hon.cell⟩
        exact hleft.trans (reworked_settle _ cell (hc cell)) fun _ _ _ _ h => h.trans

/-- Every action but one that reaches through to an engine writes something down or not, and works
on cells with requests, among them no searches but those it stands for. -/
theorem act_effect {action : Action σ} (ha : ¬ action.Instructs) :
    w.Effect (w.act action) (w.Permits action) := by
  cases action with
  | newCache engine capacity => exact effect_booked (.cell _)
  | newConfigured engine config =>
    unfold act
    dsimp only
    split
    · rename_i cache hc
      exact effect_booked (.cell cache)
    · rename_i failure hc
      apply effect_answered .nothing
      intro he
      obtain rfl := Except.error.inj he
      unfold Cache.withConfig Config.validate at hc
      split at hc <;> cases hc
  | useCommon => exact effect_booked (.reference _)
  | release cache => exact effect_release cache fun _ => trivial
  | newScanner sources cache =>
    unfold act
    apply effect_create
    intro id cell id' h
    exact (Option.some.inj h).symm
  | newFinder source cache =>
    unfold act
    apply effect_create
    intro id cell id' h
    cases source with
    | pattern source => exact (Option.some.inj h).symm
    | literal value => cases h
  | newIdentity =>
    exact effect_booked (.object (.identity w.nextId) fun id h => (Option.some.inj h).symm)
  | newText text => exact effect_booked (.text text)
  | ask query => exact effect_ask query
  | source object =>
    unfold act
    dsimp only
    split <;> exact effect_self
  | sources object =>
    unfold act
    dsimp only
    split <;> exact effect_self
  | searchesWith object cache => exact effect_self
  | dispose object =>
    unfold act
    dsimp only
    split
    · rename_i scanner cell ho
      apply effect_replyFrom
      intro i _
      apply scanner.orderly_dispose.imp
      rintro r rfl
      trivial
    · exact effect_self
  | drop object => exact effect_drop object (fun _ _ => trivial) fun _ => trivial
  | findOnBehalf cache object patterns text start =>
    unfold act
    apply effect_onBehalf (r := fun id => .find id patterns text start)
    · exact fun _ _ => rfl
    · exact fun _ _ _ => Cache.failure_of_findBest
    · intro id i hid
      exact Or.inr ⟨cache, object, patterns, text, start, rfl, hid⟩
  | evict cache object =>
    unfold act
    apply effect_onBehalf (r := .evict)
    · exact fun _ _ => rfl
    · exact fun _ _ _ => Cache.releaseOnly_evict.ofCache
    · exact fun _ _ _ => trivial
  | clear cache =>
    exact effect_change (r := .clear) (fun _ => rfl) (fun _ _ => Cache.releaseOnly_clear.ofCache)
      fun _ => trivial
  | resize cache capacity =>
    exact effect_change (r := .resize capacity) (fun _ => rfl)
      (fun _ _ => Cache.failure_of_resize) fun _ => trivial
  | setLog cache on =>
    apply effect_change (r := .setLog on)
    · exact fun _ => rfl
    · intro c failure h
      cases h
    · exact fun _ => trivial
  | describe cache => exact effect_replySeen _ _
  | configure config =>
    unfold act
    apply effect_replyFrom
    intro i _
    apply (SharedCache.orderly_configure config).imp
    rintro r (rfl | rfl) <;> trivial
  | statistics => exact effect_replySeen _ _
  | instruct cache instruction => exact absurd trivial ha

/-- No action starts or ends a hold. -/
theorem act_keeps_holds (action : Action σ) : ∃ base, w.Booked base ∧
    base.Reworked (w.act action).2 fun _ c d => d.shared.hold = c.shared.hold := by
  by_cases ha : action.Instructs
  · refine ⟨w, .nothing, ?_⟩
    have hself : ∀ (_ : Nat) (c : Cell σ), c.shared.hold = c.shared.hold := fun _ _ => rfl
    cases action with
    | instruct cache instruction =>
      unfold act
      dsimp only
      split
      · exact reworked_self hself
      · exact reworked_onCell hself fun _ _ => rfl
    | _ => exact ha.elim
  · obtain ⟨base, hb, hworked⟩ := (act_effect ha).worked
    exact ⟨base, hb, hworked.imp fun i c d h => h.served.hold⟩

theorem Unheld.act (hw : w.Unheld) (action : Action σ) : (w.act action).2.Unheld := by
  obtain ⟨base, hb, hkept⟩ := act_keeps_holds (w := w) action
  exact (hw.booked hb).reworked hkept

theorem Named.act (hw : w.Named) (action : Action σ) : (w.act action).2.Named := by
  obtain ⟨base, hb, hkept⟩ := act_keeps_holds (w := w) action
  exact (hw.booked hb).reworked hkept

theorem Unheld.reply_ne (hw : w.Unheld) (action : Action σ) :
    (w.act action).1 ≠ .error .cacheBusy := by
  by_cases ha : action.Instructs
  · cases action with
    | instruct cache instruction =>
      unfold World.act
      dsimp only
      split <;> exact ok_ne_busy
    | _ => exact ha.elim
  · exact (act_effect ha).answered hw

end World
end PatternScan.Session
