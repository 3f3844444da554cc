import PatternScan.Proofs.Engine.Precedence
import PatternScan.Proofs.Scanner.Answer
import PatternScan.Session.Run

namespace PatternScan.Session

namespace Object

def scanner? : Object → Option Scanner
  | .scanner s _ => some s
  | .finder f _ => f.scanner?
  | .identity _ => none

def identity? : Object → Option ScannerId
  | .scanner s _ => some s.id
  | .finder f _ => f.scanner?.map Scanner.id
  | .identity id => some id

theorem identity?_of_scanner? {o : Object} {s : Scanner} (h : o.scanner? = some s) :
    o.identity? = some s.id := by
  cases o with
  | scanner t cell =>
    cases h
    rfl
  | finder f cell => exact congrArg (Option.map Scanner.id) h
  | identity id => cases h

theorem identity?_of_id? {o : Object} {id : ScannerId} (h : o.id? = some id) :
    o.identity? = some id := by
  cases o with
  | scanner s cell => exact h
  | finder f cell => cases h
  | identity other => exact h

theorem place_eq_of_identity? {objects : List Object} (hn : (objects.filterMap identity?).Nodup)
    {i j : Nat} {o p : Object} (ho : objects[i]? = some o) (hp : objects[j]? = some p)
    {id : ScannerId} (hi : o.identity? = some id) (hj : p.identity? = some id) : i = j := by
  have hpairs : objects.Pairwise fun a b => ∀ x ∈ a.identity?, ∀ y ∈ b.identity?, x ≠ y :=
    List.pairwise_filterMap.mp hn
  obtain ⟨hlt, rfl⟩ := List.getElem?_eq_some_iff.mp ho
  obtain ⟨hlt', rfl⟩ := List.getElem?_eq_some_iff.mp hp
  rw [List.pairwise_iff_getElem] at hpairs
  rcases Nat.lt_trichotomy i j with h | h | h
  · exact absurd rfl (hpairs i j hlt hlt' h id hi id hj)
  · exact h
  · exact absurd rfl (hpairs j i hlt' hlt h id hj id hi)

theorem eq_of_identity? {objects : List Object} (hn : (objects.filterMap identity?).Nodup)
    {o p : Object} (ho : o ∈ objects) (hp : p ∈ objects) {id : ScannerId}
    (hi : o.identity? = some id) (hj : p.identity? = some id) : o = p := by
  obtain ⟨i, hoi⟩ := List.mem_iff_getElem?.mp ho
  obtain ⟨j, hpj⟩ := List.mem_iff_getElem?.mp hp
  obtain rfl := place_eq_of_identity? hn hoi hpj hi hj
  exact Option.some.inj (hoi.symm.trans hpj)

end Object

namespace World

variable {σ ρ α : Type}

def objects (w : World σ) : List Object := w.slots.map Slot.object

def scanners (w : World σ) : List Scanner := w.objects.filterMap Object.scanner?

def identities (w : World σ) : List ScannerId := w.objects.filterMap Object.identity?

/-- Identities were given out once, all numbers of cells are good, and every cache is free and
faithful to the scanners. -/
structure Consistent [Regex ρ] (w : World (RegexArena ρ)) : Prop where
  identities_nodup : w.identities.Nodup
  identity_lt : ∀ id ∈ w.identities, id.number < w.nextId.number
  ready : ∀ c ∈ w.cells, c.shared.Ready w.scanners w.nextId
  common_lt : commonCell < w.cells.length
  reference_lt : ∀ r ∈ w.references, r.cell < w.cells.length
  object_lt : ∀ o ∈ w.objects, ∀ cell, o.cell? = some cell → cell < w.cells.length

variable {w : World (RegexArena ρ)}

/-- No engine of a world has more slots than there are numbers for slots. -/
def Roomy (w : World (RegexArena ρ)) : Prop := ∀ c ∈ w.cells, c.shared.cache.engine.Roomy

instance (w : World (RegexArena ρ)) : Decidable w.Roomy :=
  inferInstanceAs (Decidable (∀ c ∈ w.cells, c.shared.cache.engine.Roomy))

theorem Roomy.of_replyFrom {cell : Nat} {c : Cell (RegexArena ρ)} {convert : α → Reply}
    {use : SharedCache (RegexArena ρ) → Except Failure α × SharedCache (RegexArena ρ)}
    (hroom : (w.replyFrom (some cell) convert use).2.Roomy) (hc : w.cells[cell]? = some c) :
    (use c.shared).2.cache.engine.Roomy := by
  have hcell : (w.replyFrom (some cell) convert use).2.cells[cell]? =
      some { c with shared := (use c.shared).2 } := by
    simp only [World.replyFrom, World.onCell, hc, World.setShared, List.getElem?_modify]
    simp
  exact hroom _ (List.mem_of_getElem? hcell)

variable [Regex ρ]

theorem consistent_fresh : (fresh (.empty : RegexArena ρ)).Consistent := by
  refine ⟨List.nodup_nil, fun id h => absurd h List.not_mem_nil, ?_, Nat.zero_lt_one,
    fun r h => absurd h List.not_mem_nil, fun o h => absurd h List.not_mem_nil⟩
  intro c hc
  obtain rfl := List.mem_singleton.mp hc
  exact ⟨rfl, fun _ => Cache.faithful_new .empty _ _ _⟩

theorem Consistent.registered (hw : w.Consistent) : Registered w.scanners w.nextId := by
  constructor
  · intro s hs
    obtain ⟨o, ho, hso⟩ := List.mem_filterMap.mp hs
    exact hw.identity_lt s.id (List.mem_filterMap.mpr ⟨o, ho, Object.identity?_of_scanner? hso⟩)
  · intro s hs t ht hid
    obtain ⟨o, ho, hso⟩ := List.mem_filterMap.mp hs
    obtain ⟨p, hp, htp⟩ := List.mem_filterMap.mp ht
    have hop : o = p := Object.eq_of_identity? hw.identities_nodup ho hp
      (Object.identity?_of_scanner? hso) (hid ▸ Object.identity?_of_scanner? htp)
    rw [hop, htp] at hso
    exact (Option.some.inj hso).symm

theorem Consistent.modifyCell (hw : w.Consistent) (cell : Nat)
    {change : Cell (RegexArena ρ) → Cell (RegexArena ρ)}
    (hc : ∀ c ∈ w.cells, (change c).shared.Ready w.scanners w.nextId) :
    Consistent { w with cells := w.cells.modify cell change } := by
  have hl : (w.cells.modify cell change).length = w.cells.length := List.length_modify ..
  refine ⟨hw.identities_nodup, hw.identity_lt, ?_, hl ▸ hw.common_lt,
    fun r hr => hl ▸ hw.reference_lt r hr, fun o ho n hn => hl ▸ hw.object_lt o ho n hn⟩
  intro c hm
  obtain ⟨i, hi⟩ := List.mem_iff_getElem?.mp hm
  rw [List.getElem?_modify] at hi
  obtain ⟨before, hb, rfl⟩ := Option.map_eq_some_iff.mp hi
  have hin : before ∈ w.cells := List.mem_of_getElem? hb
  dsimp only
  split
  · exact hc before hin
  · exact hw.ready before hin

theorem Consistent.onCell (hw : w.Consistent) (cell : Nat)
    {use : SharedCache (RegexArena ρ) → α × SharedCache (RegexArena ρ)}
    (hu : ∀ s, s.Ready w.scanners w.nextId → (use s).2.Ready w.scanners w.nextId) :
    (w.onCell cell use).2.Consistent := by
  unfold World.onCell
  split
  · exact hw
  · rename_i c hc
    exact hw.modifyCell cell fun _ _ => hu c.shared (hw.ready c (List.mem_of_getElem? hc))

theorem Consistent.settle (hw : w.Consistent) (cell : Nat) : (w.settle cell).Consistent := by
  unfold World.settle
  split
  · exact hw
  · apply hw.modifyCell cell
    intro c hc
    have hready := hw.ready c hc
    split
    · exact hready
    · have hclosed : c.shared.Served { c.shared with cache := c.shared.cache.close }
          fun r => r = .clear := ⟨rfl, [.clear], rfl, fun _ => List.mem_singleton.mp⟩
      exact hready.served hclosed fun _ he => he ▸ trivial

theorem Consistent.replyFrom (hw : w.Consistent) (cell : Option Nat) (convert : α → Reply)
    {use : SharedCache (RegexArena ρ) → Except Failure α × SharedCache (RegexArena ρ)}
    (hu : ∀ s, s.Ready w.scanners w.nextId → (use s).2.Ready w.scanners w.nextId) :
    (w.replyFrom cell convert use).2.Consistent := by
  unfold World.replyFrom
  split
  · exact hw
  · rename_i cell
    have hon := hw.onCell cell hu
    split
    · rename_i hr
      rw [hr] at hon
      exact hon
    · rename_i hr
      rw [hr] at hon
      exact hon

theorem object?_of_living? {w : World σ} {number : Nat} {o : Object}
    (h : w.living? number = some o) : w.object? number = some o := by
  unfold living? at h
  split at h
  · rename_i slot hs
    split at h
    · cases h
    · rw [object?, hs]
      exact h
  · cases h

theorem number_eq_of_identity? {w : World σ} (hn : w.identities.Nodup) {number other : Nat}
    {o p : Object} {id : ScannerId} (ho : w.object? number = some o) (hp : w.object? other = some p)
    (hi : o.identity? = some id) (hj : p.identity? = some id) : number = other :=
  Object.place_eq_of_identity? hn ((List.getElem?_map ..).trans ho)
    ((List.getElem?_map ..).trans hp) hi hj

theorem mem_objects_of_object? {w : World σ} {number : Nat} {o : Object}
    (h : w.object? number = some o) : o ∈ w.objects := by
  obtain ⟨slot, hs, rfl⟩ := Option.map_eq_some_iff.mp h
  exact List.mem_map.mpr ⟨slot, List.mem_of_getElem? hs, rfl⟩

theorem mem_objects_of_living? {w : World σ} {number : Nat} {o : Object}
    (h : w.living? number = some o) : o ∈ w.objects := mem_objects_of_object? (object?_of_living? h)

theorem mem_scanners {w : World σ} {o : Object} {s : Scanner} (ho : o ∈ w.objects)
    (hs : o.scanner? = some s) : s ∈ w.scanners := List.mem_filterMap.mpr ⟨o, ho, hs⟩

theorem objects_set {w : World σ} {number : Nat} {slot : Slot} (hs : w.slots[number]? = some slot) :
    (w.slots.set number { slot with dropped := true }).map Slot.object = w.objects := by
  obtain ⟨hlt, rfl⟩ := List.getElem?_eq_some_iff.mp hs
  have hsame : (w.slots.map Slot.object).set number w.slots[number].object = w.objects := by
    rw [← List.getElem_map Slot.object (h := by simpa using hlt)]
    exact List.set_getElem_self _
  rw [List.map_set]
  exact hsame

theorem slots_onCell (w : World σ) (cell : Nat) (use : SharedCache σ → α × SharedCache σ) :
    (w.onCell cell use).2.slots = w.slots := by
  unfold World.onCell
  split <;> rfl

theorem ready_leave {s : SharedCache (RegexArena ρ)} (hs : s.Ready w.scanners w.nextId)
    (o : Object) :
    (leave o s).Ready w.scanners w.nextId := by
  cases o with
  | scanner scanner cell => exact Scanner.ready_dispose hs scanner
  | finder finder cell => exact Finder.ready_drop hs finder
  | identity id => exact hs

theorem Consistent.markSlots (hw : w.Consistent) {slots : List Slot}
    (hs : slots.map Slot.object = w.objects) : Consistent { w with slots } := by
  have hobjects : objects { w with slots } = w.objects := hs
  have hscanners : scanners { w with slots } = w.scanners := congrArg (List.filterMap _) hs
  have hidentities : identities { w with slots } = w.identities := congrArg (List.filterMap _) hs
  refine ⟨hidentities ▸ hw.identities_nodup, hidentities ▸ hw.identity_lt, ?_, hw.common_lt,
    hw.reference_lt, hobjects ▸ hw.object_lt⟩
  rw [hscanners]
  exact hw.ready

theorem Consistent.drop (hw : w.Consistent) (number : Nat) : (w.drop number).Consistent := by
  unfold World.drop
  split
  · exact hw
  · rename_i slot hs
    split
    · exact hw
    · have hobjects := objects_set hs
      dsimp only
      split
      · exact hw.markSlots hobjects
      · rename_i cell hc
        have hleft : (w.onCell cell fun shared => ((), leave slot.object shared)).2.Consistent :=
          hw.onCell cell fun s hr => ready_leave hr slot.object
        refine Consistent.settle (hleft.markSlots ?_) cell
        rw [objects, slots_onCell]
        exact hobjects

theorem Consistent.release (hw : w.Consistent) (reference : Nat) :
    (w.release reference).Consistent := by
  unfold World.release
  split
  · exact hw
  · rename_i cell hc
    refine Consistent.settle ?_ cell
    refine ⟨hw.identities_nodup, hw.identity_lt, hw.ready, hw.common_lt, ?_, hw.object_lt⟩
    intro r hr
    obtain ⟨i, hi⟩ := List.mem_iff_getElem?.mp hr
    rw [List.getElem?_modify] at hi
    obtain ⟨before, hb, rfl⟩ := Option.map_eq_some_iff.mp hi
    have hlt := hw.reference_lt before (List.mem_of_getElem? hb)
    dsimp only
    split
    · exact hlt
    · exact hlt

theorem Consistent.cellOf?_lt (hw : w.Consistent) {reference cell : Nat}
    (h : w.cellOf? reference = some cell) : cell < w.cells.length := by
  unfold cellOf? at h
  split at h
  · rename_i r hr
    split at h
    · cases h
    · cases h
      exact hw.reference_lt r (List.mem_of_getElem? hr)
  · cases h

theorem Consistent.addReference (hw : w.Consistent) {cell : Nat} (hc : cell < w.cells.length) :
    (w.addReference cell).Consistent := by
  refine ⟨hw.identities_nodup, hw.identity_lt, hw.ready, hw.common_lt, ?_, hw.object_lt⟩
  intro r hr
  rcases List.mem_append.mp hr with hr | hr
  · exact hw.reference_lt r hr
  · obtain rfl := List.mem_singleton.mp hr
    exact hc

theorem Consistent.addCell (hw : w.Consistent) {cache : Cache (RegexArena ρ)}
    (hc : cache.Faithful w.scanners w.nextId) : (w.addCell cache).Consistent := by
  have hl : (w.cells ++ [({ shared := { cache } } : Cell (RegexArena ρ))]).length =
      w.cells.length + 1 := List.length_append
  have hwide : Consistent { w with cells := w.cells ++ [{ shared := { cache } }] } := by
    refine ⟨hw.identities_nodup, hw.identity_lt, ?_, ?_, ?_, ?_⟩
    · intro c hm
      rcases List.mem_append.mp hm with hm | hm
      · exact hw.ready c hm
      · obtain rfl := List.mem_singleton.mp hm
        exact ⟨rfl, fun _ => hc⟩
    · exact Nat.lt_of_lt_of_eq (Nat.lt_succ_of_lt hw.common_lt) hl.symm
    · intro r hr
      exact Nat.lt_of_lt_of_eq (Nat.lt_succ_of_lt (hw.reference_lt r hr)) hl.symm
    · intro o ho n hn
      exact Nat.lt_of_lt_of_eq (Nat.lt_succ_of_lt (hw.object_lt o ho n hn)) hl.symm
  exact hwide.addReference (Nat.lt_of_lt_of_eq (Nat.lt_succ_self _) hl.symm)

theorem Consistent.addObject (hw : w.Consistent) {o : Object}
    (hid : ∀ id, o.identity? = some id → id = w.nextId)
    (hc : ∀ cell, o.cell? = some cell → cell < w.cells.length) :
    ({ w with nextId := w.nextId.next }.addObject o).Consistent := by
  let v : World (RegexArena ρ) := { w with nextId := w.nextId.next }.addObject o
  have hobjects : v.objects = w.objects ++ [o] := List.map_append
  have hscanners : v.scanners = w.scanners ++ [o].filterMap Object.scanner? := by
    rw [scanners, hobjects, List.filterMap_append, scanners]
  have hidentities : v.identities = w.identities ++ [o].filterMap Object.identity? := by
    rw [identities, hobjects, List.filterMap_append, identities]
  have hnew : ∀ id ∈ [o].filterMap Object.identity?, id = w.nextId := fun id hm => by
    obtain ⟨p, hp, hpid⟩ := List.mem_filterMap.mp hm
    obtain rfl := List.mem_singleton.mp hp
    exact hid id hpid
  refine ⟨?_, ?_, ?_, hw.common_lt, hw.reference_lt, ?_⟩
  · change v.identities.Nodup
    rw [hidentities, List.nodup_append]
    refine ⟨hw.identities_nodup, ?_, ?_⟩
    · cases ho : o.identity? <;> simp [ho]
    · intro id hm id' hm' he
      have hlt := hw.identity_lt id hm
      rw [he, hnew id' hm'] at hlt
      exact Nat.lt_irrefl _ hlt
  · intro id hm
    change id ∈ v.identities at hm
    rw [hidentities] at hm
    rcases List.mem_append.mp hm with hm | hm
    · exact Nat.lt_succ_of_lt (hw.identity_lt id hm)
    · rw [hnew id hm]
      exact Nat.lt_succ_self _
  · intro c hm
    change c.shared.Ready v.scanners w.nextId.next
    have hready := hw.ready c hm
    rw [hscanners]
    refine ⟨hready.free, fun hroom => (hready.faithful hroom).addScanners ?_⟩
    intro s hs
    obtain ⟨p, hp, hps⟩ := List.mem_filterMap.mp hs
    obtain rfl := List.mem_singleton.mp hp
    exact hid s.id (Object.identity?_of_scanner? hps)
  · intro p hp n hn
    change p ∈ v.objects at hp
    rw [hobjects] at hp
    rcases List.mem_append.mp hp with hp | hp
    · exact hw.object_lt p hp n hn
    · obtain rfl := List.mem_singleton.mp hp
      exact hc n hn

theorem Consistent.create (hw : w.Consistent) (cache : Option Nat)
    {make : ScannerId → Nat → Object}
    (hid : ∀ id cell id', (make id cell).identity? = some id' → id' = id)
    (hc : ∀ id cell cell', (make id cell).cell? = some cell' → cell' = cell) :
    (w.create cache make).2.Consistent := by
  unfold World.create
  split
  · exact hw
  · rename_i cell hcell
    have hlt : cell < w.cells.length := by
      cases cache with
      | none =>
        cases hcell
        exact hw.common_lt
      | some reference => exact hw.cellOf?_lt hcell
    apply hw.addObject (fun id h => hid _ _ id h)
    intro n hn
    rw [hc _ _ n hn]
    exact hlt

theorem Consistent.ask (hw : w.Consistent) (query : Query) : (w.ask query).2.Consistent := by
  cases query with
  | find number ref start =>
    unfold World.ask
    dsimp only
    split
    · rename_i scanner cell text ho ht
      have hm : scanner ∈ w.scanners := mem_scanners (mem_objects_of_living? ho) rfl
      exact hw.replyFrom _ _ fun s hs => Scanner.ready_findNext hs hw.registered hm text start
    · exact hw
  | search number ref start =>
    unfold World.ask
    dsimp only
    split
    · rename_i finder cell text ho ht
      have hm : ∀ s, finder.scanner? = some s → s ∈ w.scanners := fun s hs =>
        mem_scanners (mem_objects_of_living? ho) hs
      exact hw.replyFrom _ _ fun s hs => Finder.ready_search hs hw.registered hm text start
    · exact hw
  | test number ref =>
    unfold World.ask
    dsimp only
    split
    · rename_i finder cell subject ho ht
      have hm : ∀ s, finder.scanner? = some s → s ∈ w.scanners := fun s hs =>
        mem_scanners (mem_objects_of_living? ho) hs
      exact hw.replyFrom _ _ fun s hs => Finder.ready_test hs hw.registered hm subject
    · exact hw

/-- What a program does as far as nobody holds a cache: engines of new caches were used through
their calls only, and searches on behalf of a scanner are for its own sources. -/
def Allows (w : World (RegexArena ρ)) : Action (RegexArena ρ) → Prop
  | .newCache engine _ => engine.Reachable
  | .newConfigured engine _ => engine.Reachable
  | .findOnBehalf _ object patterns _ _ => ∀ scanner cell,
    w.object? object = some (.scanner scanner cell) → patterns = scanner.sources
  | .instruct _ _ => False
  | _ => True

theorem Consistent.honest (hw : w.Consistent) {cache object : Nat} {patterns : List String}
    {text : Array UInt8} {start : Nat} {id : ScannerId}
    (ha : w.Allows (.findOnBehalf cache object patterns text start))
    (hid : (w.object? object).bind Object.id? = some id) :
    (Cache.Request.find id patterns text start).Honest w.scanners w.nextId := by
  obtain ⟨o, ho, hoid⟩ := Option.bind_eq_some_iff.mp hid
  have hin : o ∈ w.objects := mem_objects_of_object? ho
  have hidentity := Object.identity?_of_id? hoid
  refine ⟨hw.identity_lt id (List.mem_filterMap.mpr ⟨o, hin, hidentity⟩), ?_⟩
  intro s hs hsid
  obtain ⟨p, hp, hps⟩ := List.mem_filterMap.mp hs
  have hop : o = p := Object.eq_of_identity? hw.identities_nodup hin hp hidentity
    (hsid ▸ Object.identity?_of_scanner? hps)
  cases o with
  | scanner scanner cell =>
    subst hop
    cases hps
    exact (ha _ cell ho).symm
  | finder finder cell => cases hoid
  | identity other =>
    subst hop
    cases hps

theorem Consistent.onBehalf (hw : w.Consistent) (cache object : Nat) (convert : α → Reply)
    {use : ScannerId → Cache (RegexArena ρ) → Except Failure α × Cache (RegexArena ρ)}
    {r : ScannerId → Cache.Request} (hu : ∀ id c, (use id c).2 = (c.serve (r id)).2)
    (hr : ∀ id, (w.object? object).bind Object.id? = some id →
      (r id).Honest w.scanners w.nextId) :
    (w.onBehalf cache object convert use).2.Consistent := by
  unfold World.onBehalf
  split
  · exact hw
  · rename_i id hid
    exact hw.replyFrom _ convert fun s hs => hs.change (hu id) (hr id hid)

theorem Consistent.act (hw : w.Consistent) {action : Action (RegexArena ρ)} (ha : w.Allows action) :
    (w.act action).2.Consistent := by
  cases action with
  | newCache engine capacity => exact hw.addCell (Cache.faithful_new ha capacity _ _)
  | newConfigured engine config =>
    unfold World.act
    dsimp only
    split
    · exact hw.addCell (Cache.faithful_withConfig ha ‹_›)
    · exact hw
  | useCommon => exact hw.addReference hw.common_lt
  | release cache => exact hw.release cache
  | newScanner sources cache =>
    exact hw.create cache (fun id cell id' h => (Option.some.inj h).symm)
      fun id cell cell' h => (Option.some.inj h).symm
  | newFinder source cache =>
    refine hw.create cache ?_ ?_
    · intro id cell id' h
      cases source with
      | pattern source => exact (Option.some.inj h).symm
      | literal value => cases h
    · intro id cell cell' h
      cases source with
      | pattern source => exact (Option.some.inj h).symm
      | literal value => cases h
  | newIdentity =>
    exact hw.addObject (fun id h => (Option.some.inj h).symm) fun cell h => by cases h
  | newText text =>
    exact ⟨hw.identities_nodup, hw.identity_lt, hw.ready, hw.common_lt, hw.reference_lt,
      hw.object_lt⟩
  | ask query => exact hw.ask query
  | source object =>
    unfold World.act
    dsimp only
    split <;> exact hw
  | sources object =>
    unfold World.act
    dsimp only
    split <;> exact hw
  | searchesWith object cache => exact hw
  | dispose object =>
    unfold World.act
    dsimp only
    split
    · exact hw.replyFrom _ _ fun s hs => Scanner.ready_dispose hs _
    · exact hw
  | drop object => exact hw.drop object
  | findOnBehalf cache object patterns text start =>
    exact hw.onBehalf cache object _ (r := fun id => .find id patterns text start) (fun _ _ => rfl)
      fun id hid => hw.honest ha hid
  | evict cache object =>
    exact hw.onBehalf cache object _ (r := .evict) (fun _ _ => rfl) fun _ _ => trivial
  | clear cache =>
    exact hw.replyFrom _ _ fun s hs => hs.change (r := .clear) (fun _ => rfl) trivial
  | resize cache capacity =>
    exact hw.replyFrom _ _ fun s hs => hs.change (r := .resize capacity) (fun _ => rfl) trivial
  | setLog cache on =>
    exact hw.replyFrom _ _ fun s hs => hs.change (r := .setLog on) (fun _ => rfl) trivial
  | describe cache => exact hw
  | configure config => exact hw.replyFrom _ _ fun s hs => hs.configure config
  | statistics => exact hw
  | instruct cache instruction => exact ha.elim

/-- The worlds that a program comes to. -/
inductive Reached : World (RegexArena ρ) → Prop where
  | fresh : Reached (fresh .empty)
  | act {w : World (RegexArena ρ)} (hw : Reached w) {action : Action (RegexArena ρ)}
    (ha : w.Allows action) : Reached (w.act action).2

/-- The world after actions. -/
def acts (w : World σ) [Engine σ] (actions : List (Action σ)) : World σ :=
  actions.foldl (fun w action => (w.act action).2) w

theorem Reached.acts (hw : Reached w) {actions : List (Action (RegexArena ρ))}
    (ha : ∀ action ∈ actions, ∀ v : World (RegexArena ρ), v.Allows action) :
    Reached (w.acts actions) := by
  induction actions generalizing w with
  | nil => exact hw
  | cons action rest ih =>
    obtain ⟨hfirst, hrest⟩ := List.forall_mem_cons.mp ha
    exact ih (hw.act (hfirst w)) hrest

theorem Reached.consistent (hw : Reached w) : w.Consistent := by
  induction hw with
  | fresh => exact consistent_fresh
  | act _ ha ih => exact ih.act ha

theorem Consistent.cell_of_living? (hw : w.Consistent) {number cell : Nat} {o : Object}
    (ho : w.living? number = some o) (hc : o.cell? = some cell) :
    ∃ c, w.cells[cell]? = some c ∧ c.shared.Ready w.scanners w.nextId := by
  have hlt : cell < w.cells.length := hw.object_lt o (mem_objects_of_living? ho) cell hc
  exact ⟨w.cells[cell], List.getElem?_eq_getElem hlt, hw.ready _ (List.getElem_mem hlt)⟩

theorem replyFrom_some {w : World σ} {cell : Nat} {c : Cell σ} (h : w.cells[cell]? = some c)
    (convert : α → Reply) (use : SharedCache σ → Except Failure α × SharedCache σ) :
    (w.replyFrom (some cell) convert use).1 = (use c.shared).1.map convert := by
  simp only [World.replyFrom, World.onCell, h]

theorem ask_find_eq_answer (hw : Reached w) {number cell : Nat} {scanner : Scanner} {ref : TextRef}
    {text : IndexedText} (ho : w.living? number = some (.scanner scanner cell))
    (ht : w.text? ref = some text) (start : Nat)
    (hroom : (w.ask (.find number ref start)).2.Roomy) :
    (w.ask (.find number ref start)).1 = (scanner.answer ρ text start).map .found := by
  have hm : scanner ∈ w.scanners := mem_scanners (mem_objects_of_living? ho) rfl
  obtain ⟨c, hc, hready⟩ := hw.consistent.cell_of_living? ho rfl
  simp only [World.ask, ho, ht] at hroom ⊢
  rw [replyFrom_some hc, Scanner.findNext_answer hready hm text start (hroom.of_replyFrom hc)]

theorem ask_search_eq_answer (hw : Reached w) {number cell : Nat} {id : ScannerId}
    {source : String} {ref : TextRef} {text : IndexedText}
    (ho : w.living? number = some (.finder (.pattern id source) cell))
    (ht : w.text? ref = some text) (start : Nat)
    (hroom : (w.ask (.search number ref start)).2.Roomy) :
    (w.ask (.search number ref start)).1 = ((⟨id, [source]⟩ : Scanner).answer ρ text start).map
      fun found => .captures (found.map (Finder.withText text)) := by
  have hm : ⟨id, [source]⟩ ∈ w.scanners := mem_scanners (mem_objects_of_living? ho) rfl
  obtain ⟨c, hc, hready⟩ := hw.consistent.cell_of_living? ho rfl
  simp only [World.ask, ho, ht] at hroom ⊢
  rw [replyFrom_some hc,
    Finder.search_answer hready rfl hm text start (hroom.of_replyFrom hc)]
  cases Scanner.answer ρ _ text start <;> rfl

theorem ask_test_eq_answer (hw : Reached w) {number cell : Nat} {id : ScannerId}
    {source : String} {ref : TextRef} {text : IndexedText}
    (ho : w.living? number = some (.finder (.pattern id source) cell))
    (ht : w.text? ref = some text) (hroom : (w.ask (.test number (.text ref))).2.Roomy) :
    (w.ask (.test number (.text ref))).1 = ((⟨id, [source]⟩ : Scanner).answer ρ text 0).map
      fun found => .flag found.isSome := by
  have hm : ⟨id, [source]⟩ ∈ w.scanners := mem_scanners (mem_objects_of_living? ho) rfl
  obtain ⟨c, hc, hready⟩ := hw.consistent.cell_of_living? ho rfl
  have hs : w.subject? (.text ref) = some (.text text) := congrArg (Option.map Subject.text) ht
  simp only [World.ask, ho, hs] at hroom ⊢
  have ha : ((Finder.pattern id source).search text 0 c.shared).1 = _ :=
    Finder.search_answer hready rfl hm text 0 (hroom.of_replyFrom hc)
  rw [replyFrom_some hc]
  simp only [Finder.test, ha]
  rcases Scanner.answer ρ _ text 0 with failure | ⟨_ | found⟩ <;> rfl

/-- Whatever a program did before, with however many scanners and finders on however many caches, a
search answers what the sources, the text and the start determine: nothing without sources, else the
failure of the least index whose source is refused, else the best match of the compiled sources,
which is the first to begin, of the first source if several do. No other failure comes up. -/
theorem searches_see_no_cache (hw : Reached w) {ref : TextRef} {text : IndexedText}
    (ht : w.text? ref = some text) (number start : Nat) :
    (∀ scanner cell, w.living? number = some (.scanner scanner cell) →
      (w.ask (.find number ref start)).2.Roomy →
      (w.ask (.find number ref start)).1 = (scanner.answer ρ text start).map .found) ∧
    (∀ id source cell, w.living? number = some (.finder (.pattern id source) cell) →
      ((w.ask (.search number ref start)).2.Roomy →
        (w.ask (.search number ref start)).1 =
          ((⟨id, [source]⟩ : Scanner).answer ρ text start).map
            fun found => .captures (found.map (Finder.withText text))) ∧
      ((w.ask (.test number (.text ref))).2.Roomy →
        (w.ask (.test number (.text ref))).1 =
          ((⟨id, [source]⟩ : Scanner).answer ρ text 0).map fun found => .flag found.isSome)) ∧
    ∀ scanner : Scanner,
      (scanner.sources = [] → scanner.answer ρ text start = .ok none) ∧
      (∀ failure, scanner.answer ρ text start = .error failure ↔
        ∃ before source rest words, scanner.sources = before ++ source :: rest ∧
          (∀ s ∈ before, ∃ r : ρ, Regex.compile s = .ok r) ∧
          Regex.compile (ρ := ρ) source = .error words ∧
          failure = .compilation before.length words) ∧
      ∀ rs : List ρ, scanner.sources.map Regex.compile = rs.map .ok →
        scanner.answer ρ text start =
          .ok ((bestMatch rs text.content (text.toByte start)).map fun f =>
            ⟨f.patternIndex, Scanner.captures text f.captures⟩) ∧
        (Regex.NeverBefore ρ → ∀ found,
          bestMatch rs text.content (text.toByte start) = some found ↔
            text.toByte start ≤ text.content.size ∧
            found ∈ matchesFrom 0 rs text.content (text.toByte start) ∧
            ∀ other ∈ matchesFrom 0 rs text.content (text.toByte start),
              found.rank ≤ other.rank) := by
  refine ⟨fun scanner cell ho => ask_find_eq_answer hw ho ht start, ?_,
    fun scanner => ⟨fun h => Scanner.answer_of_empty h text start,
      fun failure => Scanner.answer_eq_error_iff, ?_⟩⟩
  · intro id source cell ho
    exact ⟨ask_search_eq_answer hw ho ht start, ask_test_eq_answer hw ho ht⟩
  · intro rs h
    exact ⟨Scanner.answer_of_compiles h text start,
      fun hn found => bestMatch_eq_some_iff_least hn⟩

/-- Two scanners take turns on a cache with room for one of them. -/
def takingTurns : List (Action Arena) :=
  [.newCache .empty 1, .newScanner [""] (some 0), .newScanner ["", "("] (some 0),
    .ask (.find 0 (.given (.ofString "xa")) 0), .ask (.find 1 (.given (.ofString "xa")) 0)]

theorem searches_see_no_cache_taking_turns :
    let w := (fresh (.empty : Arena)).acts takingTurns
    w.Reached ∧ w.text? (.given (.ofString "xa")) = some (.ofString "xa") ∧
    (w.ask (.find 0 (.given (.ofString "xa")) 0)).2.Roomy ∧
    (w.ask (.find 0 (.given (.ofString "xa")) 0)).1 =
      ((⟨⟨1⟩, [""]⟩ : Scanner).answer Pattern.Program (.ofString "xa") 0).map .found := by
  have hroom : (((fresh (.empty : Arena)).acts takingTurns).ask
      (.find 0 (.given (.ofString "xa")) 0)).2.Roomy := by decide +kernel
  intro w
  have hw : w.Reached := by
    apply Reached.fresh.acts
    intro action hm v
    simp only [takingTurns, List.mem_cons, List.not_mem_nil, or_false] at hm
    rcases hm with rfl | rfl | rfl | rfl | rfl
    · exact RegexArena.Reachable.empty
    all_goals trivial
  exact ⟨hw, rfl, hroom, (searches_see_no_cache hw rfl 0 0).1 _ 1 rfl hroom⟩

end World
end PatternScan.Session
