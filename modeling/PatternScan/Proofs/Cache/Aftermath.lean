import PatternScan.Proofs.Cache.Recency
import PatternScan.Proofs.Cache.Refusal

namespace PatternScan.Cache

section

variable {σ : Type}

def displaces (c : Cache σ) (owner : ScannerId) : Bool := !c.contains owner && c.size == c.capacity

def displaced (c : Cache σ) (owner : ScannerId) : List Entry :=
  if c.displaces owner then c.entries.getLast?.toList else []

theorem lookup_of_first {c : Cache σ} {entry : Entry} {rest : List Entry}
    (h : c.entries = entry :: rest) : c.lookup? entry.owner = some entry := by
  apply RecencyList.peek_of_mem
  rw [h]
  exact List.mem_cons_self

def roomFor (c : Cache σ) (owner : ScannerId) : RecencyList :=
  if c.displaces owner then c.popLast.2 else c.toRecencyList

def stored (c : Cache σ) (owner : ScannerId) (hs : List Handle) (ready : σ)
    (made : List (Disposal σ)) : Cache σ :=
  disposed { c with
    toRecencyList := (c.roomFor owner).put ⟨owner, hs⟩
    engine := ready
    counters := { c.counters with
      misses := c.counters.misses + 1
      compilations := c.counters.compilations + 1
      evictions := c.counters.evictions + (c.displaced owner).length } } made

theorem entries_stored {c : Cache σ} {owner : ScannerId} (hn : c.lookup? owner = none)
    (hs : List Handle) (ready : σ) (made : List (Disposal σ)) :
    (c.stored owner hs ready made).entries =
      ⟨owner, hs⟩ :: if c.displaces owner then c.entries.dropLast else c.entries := by
  have hle : c.size ≤ c.capacity := c.length_le
  have hpos := c.capacity_pos
  have hsub : (c.roomFor owner).entries.Sublist c.entries := by
    unfold roomFor
    split
    · exact List.dropLast_sublist _
    · exact List.Sublist.refl _
  have habsent : (c.roomFor owner).peek owner = none :=
    RecencyList.peek_eq_none_iff.mpr fun hm =>
      RecencyList.peek_eq_none_iff.mp hn ((hsub.map Entry.owner).subset hm)
  have hroom : (c.roomFor owner).entries.length < (c.roomFor owner).capacity := by
    unfold roomFor displaces
    rw [contains_eq_isSome, hn]
    split
    · have hlength : c.popLast.2.entries.length = c.size - 1 := List.length_dropLast
      have hcapacity : c.popLast.2.capacity = c.capacity := rfl
      omega
    · rename_i hnot
      have hne : c.size ≠ c.capacity := by simpa using hnot
      exact Nat.lt_of_le_of_ne hle hne
  refine (RecencyList.entries_put_new ⟨owner, hs⟩ habsent hroom).trans ?_
  unfold roomFor
  split <;> rfl

variable [Engine σ]

theorem answered_ne_release (answer : Except Status (Option Found) × σ) (words : String) :
    answered answer ≠ .error (.release words) := by
  rcases answer with ⟨status | found, engine⟩ <;> simp [answered]

theorem findBest_of_lookup {c : Cache σ} {owner : ScannerId} {entry : Entry}
    (h : c.lookup? owner = some entry) (patterns : List String) (text : Array UInt8) (start : Nat) :
    c.findBest owner patterns text start =
      searched (countHit { c with toRecencyList := c.put entry }) entry.handles text start := by
  rw [findBest_eq, ensureCompiled, RecencyList.get_of_peek h]

theorem makeRoom_eq (c : Cache σ) {owner : ScannerId} (hn : c.lookup? owner = none) :
    let made := disposals c.engine (withoutEmpty ((c.displaced owner).map Entry.handles))
    c.makeRoom = (firstRefusal made,
      disposed (countEvictions { c with toRecencyList := c.roomFor owner }
        (c.displaced owner).length) made) := by
  have hle : c.size ≤ c.capacity := c.length_le
  have hpos := c.capacity_pos
  have hcontains : c.contains owner = false := by simp [contains_eq_isSome, hn]
  -- the entries never exceed the capacity, so that it is full means that it has just this size
  by_cases hfull : c.size = c.capacity
  · have hne : c.entries ≠ [] := by
      apply List.ne_nil_of_length_pos
      unfold size at hfull
      omega
    have hlast := List.getLast?_eq_some_getLast hne
    have hd : c.displaces owner = true := by simp [displaces, hcontains, hfull]
    have hgone : c.displaced owner = [c.entries.getLast hne] := by simp [displaced, hd, hlast]
    have hpop : c.popLast = (some (c.entries.getLast hne), c.popLast.2) := Prod.ext hlast rfl
    have hroom : c.makeRoom = release (countEvictions { c with toRecencyList := c.popLast.2 } 1)
        (c.entries.getLast hne).handles := by
      unfold makeRoom
      rw [if_pos (Nat.le_of_eq hfull.symm), hpop]
    rw [hroom, hgone, roomFor, hd, release_eq]
    rfl
  · have hd : c.displaces owner = false := by simp [displaces, hfull]
    have hgone : c.displaced owner = [] := by simp [displaced, hd]
    have hroom : c.makeRoom = (.ok (), c) := by
      unfold makeRoom
      rw [if_neg (by omega)]
    rw [hroom, hgone, roomFor, hd]
    rfl

theorem ensureCompiled_of_compiles {c : Cache σ} {owner : ScannerId}
    {patterns : List String} {hs : List Handle} {ready : σ} (hn : c.lookup? owner = none)
    (h : Compiles c.engine patterns hs ready) :
    let made := disposals ready (withoutEmpty ((c.displaced owner).map Entry.handles))
    c.ensureCompiled owner patterns =
      ((firstRefusal made).map fun _ => hs, c.stored owner hs ready made) := by
  have hcompile : c.countMiss.compile patterns = (.ok hs, { c.countMiss with engine := ready }) :=
    compileFrom_of_compiles (c := c.countMiss) h 0 []
  have hroom := makeRoom_eq (countCompilation { c.countMiss with engine := ready }) hn
  unfold ensureCompiled insert
  rw [RecencyList.get_of_peek_eq_none hn]
  dsimp only
  rw [hcompile]
  dsimp only
  rw [hroom]
  rfl

theorem findBest_of_compiles {c : Cache σ} {owner : ScannerId}
    {patterns : List String} {hs : List Handle} {ready : σ} (hn : c.lookup? owner = none)
    (h : Compiles c.engine patterns hs ready) (text : Array UInt8) (start : Nat) :
    let made := disposals ready (withoutEmpty ((c.displaced owner).map Entry.handles))
    c.findBest owner patterns text start = match firstRefusal made with
      | .ok _ => (c.stored owner hs ready made).searched hs text start
      | .error failure => (.error failure, c.stored owner hs ready made) := by
  intro made
  rw [findBest_eq, ensureCompiled_of_compiles hn h]
  cases firstRefusal made <;> rfl

/-- At most one entry makes room, so its refusal is the only one there can be. -/
theorem firstRefusal_eq_error_iff {made : List (Disposal σ)} (hone : made.length ≤ 1)
    {words : String} : firstRefusal made = .error (.release words) ↔
      ∃ x ∈ made, x.isRefused = true ∧ words = account x.engine := by
  rcases made with _ | ⟨x, _ | ⟨y, rest⟩⟩
  · simp [firstRefusal]
  · cases hx : x.isRefused with
    | false => simp [firstRefusal, hx]
    | true =>
      simp only [firstRefusal, List.find?_cons, hx, List.mem_singleton, exists_eq_left, true_and,
        Except.error.injEq, Failure.release.injEq]
      exact eq_comm
  · simp at hone

theorem length_disposals_displaced (c : Cache σ) (owner : ScannerId) (ready : σ) :
    (disposals ready (withoutEmpty ((c.displaced owner).map Entry.handles))).length ≤ 1 := by
  have hle : (c.displaced owner).length ≤ 1 := by
    unfold displaced
    split
    · cases c.entries.getLast? <;> simp
    · exact Nat.zero_le 1
  have hlength := congrArg List.length
    (map_handles_disposals ready (withoutEmpty ((c.displaced owner).map Entry.handles)))
  have hfilter := List.length_filter_le (!·.isEmpty) ((c.displaced owner).map Entry.handles)
  rw [List.length_map] at hlength hfilter
  unfold withoutEmpty at hlength ⊢
  omega

end

section

variable {σ : Type} [Engine σ] {c : Cache (Recorded σ)} {owner : ScannerId}
  {patterns : List String} {text : Array UInt8} {start : Nat} {entry : Entry} {ready : Recorded σ}

/-- What a search leaves: `entry` is its scanner's, `ready` is the engine when all patterns of the
scanner are compiled, and `made` is what the engine was asked to take back then. -/
structure Aftermath (c : Cache (Recorded σ)) (owner : ScannerId) (patterns : List String)
    (text : Array UInt8) (start : Nat)
    (result : Except Failure (Option Found) × Cache (Recorded σ)) (entry : Entry)
    (ready : Recorded σ) (made : List (Disposal (Recorded σ))) : Prop where
  owner_eq : entry.owner = owner
  prepared : c.lookup? owner = some entry ∧ ready = c.engine ∨
    c.contains owner = false ∧ Compiles c.engine patterns entry.handles ready
  calls : made = disposals ready (withoutEmpty ((c.displaced owner).map Entry.handles))
  entries : result.2.entries =
    entry :: if c.displaces owner then (c.others owner).dropLast else c.others owner
  size_le : result.2.size ≤ result.2.capacity
  capacity : result.2.capacity = c.capacity
  release_iff : ∀ words, result.1 = .error (.release words) ↔
    ∃ x ∈ made, x.isRefused = true ∧ words = account x.engine
  /-- After a refusal the engine is asked nothing more. -/
  unsearched : (∃ x ∈ made, x.isRefused = true) → result.2.engine = engineAfter ready made
  searched : (∀ x ∈ made, x.isRefused = false) →
    result.1 = answered (Engine.findBest (engineAfter ready made) entry.handles text start) ∧
    result.2.engine = (Engine.findBest (engineAfter ready made) entry.handles text start).2
  log : (engineAfter ready made).log = c.engine.log ++
    (if c.contains owner then [] else compilations patterns entry.handles) ++
      made.map Disposal.event
  hit_next : ∀ again text start, (result.2.findBest owner again text start).2.counters =
    { result.2.counters with hits := result.2.counters.hits + 1 }

theorem hit_of_first {d : Cache σ} {rest : List Entry} (h : d.entries = entry :: rest)
    (patterns : List String) (text : Array UInt8) (start : Nat) :
    (d.findBest entry.owner patterns text start).2.counters =
      { d.counters with hits := d.counters.hits + 1 } := by
  rw [findBest_of_lookup (lookup_of_first h)]
  rfl

theorem aftermath_of_lookup (h : c.lookup? owner = some entry) :
    c.Aftermath owner patterns text start (c.findBest owner patterns text start) entry c.engine
      [] := by
  have hd : c.displaces owner = false := by simp [displaces, contains_eq_isSome, h]
  have hgone : c.displaced owner = [] := by simp [displaced, hd]
  have hcontains : c.contains owner = true := by simp [contains_eq_isSome, h]
  have hsize : (c.findBest owner patterns text start).2.size ≤ _ :=
    (c.findBest owner patterns text start).2.length_le
  have hcapacity : (c.findBest owner patterns text start).2.capacity = c.capacity :=
    capacity_findBest patterns text start
  have hresult := findBest_of_lookup h patterns text start
  have hentries : (c.findBest owner patterns text start).2.entries = entry :: c.others owner := by
    obtain rfl := RecencyList.owner_of_peek h
    rw [hresult]
    exact RecencyList.entries_put_of_peek h
  have hnext := hit_of_first hentries
  rw [RecencyList.owner_of_peek h] at hnext
  refine ⟨RecencyList.owner_of_peek h, Or.inl ⟨h, rfl⟩, ?_, ?_, hsize, hcapacity, ?_, ?_, ?_, ?_,
    hnext⟩
  · rw [hgone]
    rfl
  · rw [hentries, hd]
    rfl
  · intro words
    rw [hresult]
    simp [searched, answered_ne_release]
  · rintro ⟨x, hx, -⟩
    cases hx
  · intro _
    rw [hresult]
    exact ⟨rfl, rfl⟩
  · simp [hcontains, engineAfter]

theorem aftermath_of_compiles (hn : c.lookup? owner = none) {hs : List Handle}
    (h : Compiles c.engine patterns hs ready) :
    c.Aftermath owner patterns text start (c.findBest owner patterns text start) ⟨owner, hs⟩ ready
      (disposals ready (withoutEmpty ((c.displaced owner).map Entry.handles))) := by
  have hcontains : c.contains owner = false := by simp [contains_eq_isSome, hn]
  have hsize : (c.findBest owner patterns text start).2.size ≤ _ :=
    (c.findBest owner patterns text start).2.length_le
  have hcapacity : (c.findBest owner patterns text start).2.capacity = c.capacity :=
    capacity_findBest patterns text start
  have hresult := findBest_of_compiles hn h text start
  have hone := length_disposals_displaced c owner ready
  have hlog := log_disposals ready (withoutEmpty ((c.displaced owner).map Entry.handles))
  rw [h.log] at hlog
  generalize hmade : disposals ready (withoutEmpty ((c.displaced owner).map Entry.handles)) = made
    at hresult hone hlog ⊢
  dsimp only at hresult
  have hentries : (c.findBest owner patterns text start).2.entries =
      ⟨owner, hs⟩ :: if c.displaces owner then (c.others owner).dropLast else c.others owner := by
    rw [hresult, others, RecencyList.without_eq_of_peek hn, ← entries_stored hn hs ready made]
    cases firstRefusal made <;> rfl
  refine ⟨rfl, Or.inr ⟨hcontains, h⟩, hmade.symm, hentries, hsize, hcapacity, ?_, ?_, ?_, ?_,
    hit_of_first hentries⟩
  · intro words
    rw [← firstRefusal_eq_error_iff hone, hresult]
    cases firstRefusal made with
    | ok _ => simp [searched, answered_ne_release]
    | error failure => simp
  · rintro ⟨x, hx, hrefused⟩
    rw [hresult, (firstRefusal_eq_error_iff hone).mpr ⟨x, hx, hrefused, rfl⟩]
    rfl
  · intro hall
    rw [hresult, firstRefusal_eq_ok_iff.mpr hall]
    exact ⟨rfl, rfl⟩
  · simpa [hcontains] using hlog

theorem Aftermath.refused_eq_false {result : Except Failure (Option Found) × Cache (Recorded σ)}
    {made : List (Disposal (Recorded σ))}
    (h : c.Aftermath owner patterns text start result entry ready made) :
    refused result.1 = false := by
  by_cases hany : ∃ x ∈ made, x.isRefused = true
  · obtain ⟨x, hx, hrefused⟩ := hany
    rw [(h.release_iff _).mpr ⟨x, hx, hrefused, rfl⟩]
    rfl
  · have hall : ∀ x ∈ made, x.isRefused = false := fun x hx =>
      Bool.eq_false_iff.mpr fun hrefused => hany ⟨x, hx, hrefused⟩
    rw [(h.searched hall).1]
    exact refused_answered _

theorem exists_aftermath
    (h : refused (c.findBest owner patterns text start).1 = false) : ∃ entry ready made,
      c.Aftermath owner patterns text start (c.findBest owner patterns text start) entry ready
        made := by
  cases hl : c.lookup? owner with
  | some entry => exact ⟨entry, c.engine, [], aftermath_of_lookup hl⟩
  | none =>
    rcases compiles_or_refuses c.engine patterns with
      ⟨hs, ready, hready⟩ | ⟨before, pattern, rest, hs, last, status, refusing, rfl, hbefore, hr⟩
    · exact ⟨⟨owner, hs⟩, ready, _, aftermath_of_compiles hl hready⟩
    · rw [findBest_of_refusal hl hbefore hr] at h
      cases h

/-- A search that no refusal of a pattern ended has left this, in whatever state it met the cache
and whatever the engine did: the scanner's entry comes first, and of the others only the last one is
gone, where the entry is new and the cache was full. The search fails with the engine's account of a
refusal exactly if that entry had patterns and the engine did not take them back; then the engine
was not asked to search, and the entry is there all the same: a next search meets it. Else the
outcome is the engine's answer or its account of its failure. The record of the engine's calls takes
no part in this. -/
theorem search_aftermath (engine : σ) (capacity : Nat) (requests : List Request)
    (owner : ScannerId) (patterns : List String) (text : Array UInt8) (start : Nat) :
    let c := (new (⟨engine, []⟩ : Recorded σ) capacity).after requests
    let result := c.findBest owner patterns text start
    (refused result.1 = false ↔ ∃ entry ready made,
      c.Aftermath owner patterns text start result entry ready made) ∧
    c.mapEngine Recorded.inner = (new engine capacity).after requests ∧
    (c.mapEngine Recorded.inner).findBest owner patterns text start =
      result.map id (mapEngine Recorded.inner) := by
  intro c result
  refine ⟨⟨exists_aftermath, fun ⟨_, _, _, h⟩ => h.refused_eq_false⟩, ?_, ?_⟩
  · exact after_mapEngine Recorded.agrees (new ⟨engine, []⟩ capacity) requests |>.symm
  · exact findBest_mapEngine Recorded.agrees c owner patterns text start

example :
    let engine : Scripted := { plan := { disposing := [.fail [98, 97, 100]] } }
    let (outcome, d) := ((new engine 1).after [.find ⟨2⟩ [""] #[] 0]).findBest ⟨1⟩ [""] #[] 0
    outcome = .error (.release "bad") ∧ d.entries = [⟨⟨1⟩, [⟨1⟩]⟩] ∧
      d.counters = { misses := 2, compilations := 2, evictions := 1, releaseFailures := 1 } :=
  ⟨rfl, rfl, rfl⟩

end
end PatternScan.Cache
