import PatternScan.Proofs.Cache.Entries

namespace PatternScan

/-- A batch that an engine was asked to take back, how it answered, and what it was then. -/
structure Disposal (σ : Type) where
  handles : List Handle
  outcome : Except Status Unit
  engine : σ

namespace Disposal

variable {σ : Type}

def isRefused (d : Disposal σ) : Bool :=
  match d.outcome with
  | .ok _ => false
  | .error _ => true

def event (d : Disposal σ) : EngineEvent := .dispose d.handles d.outcome

end Disposal

section

variable {σ : Type} [Engine σ]

/-- An engine is asked to take back batches, one after the other. -/
def disposals (engine : σ) : List (List Handle) → List (Disposal σ)
  | [] => []
  | hs :: rest =>
    let (outcome, engine) := Engine.dispose engine hs
    ⟨hs, outcome, engine⟩ :: disposals engine rest

def engineAfter (engine : σ) (made : List (Disposal σ)) : σ :=
  made.foldl (fun _ d => d.engine) engine

theorem map_handles_disposals (engine : σ) (batches : List (List Handle)) :
    (disposals engine batches).map Disposal.handles = batches := by
  induction batches generalizing engine with
  | nil => rfl
  | cons hs rest ih => exact congrArg (hs :: ·) (ih _)

theorem disposals_append (engine : σ) (batches more : List (List Handle)) :
    disposals engine (batches ++ more) = disposals engine batches ++
      disposals (engineAfter engine (disposals engine batches)) more := by
  induction batches generalizing engine with
  | nil => rfl
  | cons hs rest ih => exact congrArg (_ :: ·) (ih _)

theorem log_disposals (r : Recorded σ) (batches : List (List Handle)) :
    (engineAfter r (disposals r batches)).log =
      r.log ++ (disposals r batches).map Disposal.event := by
  induction batches generalizing r with
  | nil => exact (List.append_nil _).symm
  | cons hs rest ih =>
    have hrest := ih (Engine.dispose r hs).2
    rw [r.log_dispose hs, List.append_assoc] at hrest
    exact hrest

end

namespace Cache

variable {σ : Type}

def withoutEmpty (batches : List (List Handle)) : List (List Handle) :=
  batches.filter (!·.isEmpty)

/-- A cache whose engine was asked to take batches back: the refusals are counted. -/
def disposed (c : Cache σ) (made : List (Disposal σ)) : Cache σ :=
  { c with
    engine := engineAfter c.engine made
    counters := { c.counters with
      releaseFailures := c.counters.releaseFailures + made.countP Disposal.isRefused } }

theorem disposed_append (c : Cache σ) (made more : List (Disposal σ)) :
    c.disposed (made ++ more) = (c.disposed made).disposed more := by
  simp only [disposed, engineAfter, List.foldl_append, List.countP_append, Nat.add_assoc]

variable [Engine σ]

def firstRefusal (made : List (Disposal σ)) : Except Failure Unit :=
  match made.find? Disposal.isRefused with
  | none => .ok ()
  | some d => .error (.release (account d.engine))

theorem firstRefusal_append (made more : List (Disposal σ)) :
    firstRefusal (made ++ more) = (firstRefusal made).bind fun _ => firstRefusal more := by
  unfold firstRefusal
  rw [List.find?_append]
  cases made.find? Disposal.isRefused with
  | none => rfl
  | some d => rfl

theorem firstRefusal_eq_ok_iff {made : List (Disposal σ)} :
    firstRefusal made = .ok () ↔ ∀ d ∈ made, d.isRefused = false := by
  unfold firstRefusal
  cases h : made.find? Disposal.isRefused with
  | none => simpa using h
  | some d =>
    have hd := List.find?_some h
    have hm := List.mem_of_find?_eq_some h
    simp only [reduceCtorEq, false_iff]
    intro hall
    rw [hall d hm] at hd
    cases hd

theorem firstRefusal_of_split {before later : List (Disposal σ)} {d : Disposal σ}
    (hbefore : ∀ x ∈ before, x.isRefused = false) (hd : d.isRefused = true) :
    firstRefusal (before ++ d :: later) = .error (.release (account d.engine)) := by
  rw [firstRefusal_append, firstRefusal_eq_ok_iff.mpr hbefore]
  simp only [Except.bind, firstRefusal, List.find?_cons, hd]

theorem release_eq (c : Cache σ) (hs : List Handle) :
    let made := disposals c.engine (withoutEmpty [hs])
    c.release hs = (firstRefusal made, c.disposed made) := by
  unfold release
  by_cases hempty : hs = []
  · subst hempty
    rfl
  · have hone : withoutEmpty [hs] = [hs] := by simp [withoutEmpty, hempty]
    rw [if_neg (by simpa using hempty), hone]
    rcases hd : Engine.dispose c.engine hs with ⟨status | _, engine⟩
    · simp only [disposals, hd]
      rfl
    · simp only [disposals, hd]
      rfl

/-- Entries are given up one after the other, whatever comes of it. -/
theorem releaseAll_eq (c : Cache σ) (outcome : Except Failure Unit) (es : List Entry) :
    let made := disposals c.engine (withoutEmpty (es.map Entry.handles))
    c.releaseAll outcome es = (outcome.bind fun _ => firstRefusal made, c.disposed made) := by
  induction es generalizing c outcome with
  | nil => cases outcome <;> rfl
  | cons e rest ih =>
    have hsplit : withoutEmpty ((e :: rest).map Entry.handles) =
        withoutEmpty [e.handles] ++ withoutEmpty (rest.map Entry.handles) :=
      List.filter_append [e.handles] (rest.map Entry.handles)
    intro made
    rw [releaseAll, c.release_eq]
    dsimp only
    rw [ih]
    simp only [made, hsplit, disposals_append, firstRefusal_append, disposed_append]
    cases outcome <;> rfl

/-- A cache gave up entries, in this order: what its engine was asked, and what came of it. -/
structure GaveUp (c : Cache (Recorded σ)) (result : Except Failure Unit × Cache (Recorded σ))
    (displaced : List Entry) (evictions : Nat) (made : List (Disposal (Recorded σ))) : Prop where
  calls : made = disposals c.engine (withoutEmpty (displaced.map Entry.handles))
  batches : made.map Disposal.handles = withoutEmpty (displaced.map Entry.handles)
  log : result.2.engine.log = c.engine.log ++ made.map Disposal.event
  ok_iff : result.1 = .ok () ↔ ∀ x ∈ made, x.isRefused = false
  first : ∀ before x later, made = before ++ x :: later →
    (∀ y ∈ before, y.isRefused = false) → x.isRefused = true →
      result.1 = .error (.release (account x.engine))
  counters : result.2.counters = { c.counters with
    evictions := c.counters.evictions + evictions
    releaseFailures := c.counters.releaseFailures + made.countP Disposal.isRefused }

theorem gaveUp_releaseAll {c start : Cache (Recorded σ)} {evictions : Nat} (displaced : List Entry)
    (he : start.engine = c.engine)
    (hc : start.counters = { c.counters with evictions := c.counters.evictions + evictions }) :
    c.GaveUp (start.releaseAll (.ok ()) displaced) displaced evictions
      (disposals c.engine (withoutEmpty (displaced.map Entry.handles))) := by
  rw [start.releaseAll_eq, he]
  refine ⟨rfl, map_handles_disposals _ _, ?_, firstRefusal_eq_ok_iff, ?_, ?_⟩
  · rw [disposed, he]
    exact log_disposals _ _
  · intro before x later hsplit hbefore hx
    rw [hsplit]
    exact firstRefusal_of_split hbefore hx
  · rw [disposed, hc]

/-- Clearing and resizing go on to the last entry, however the engine takes the patterns back: what
has to go goes, the one used longest ago first, the first refusal is reported in its own words, and
every refusal is counted. No room at all is refused, and changes nothing. The record of the engine's
calls takes no part in this. -/
theorem bulk_release_completes (c : Cache (Recorded σ)) :
    c.clear.2.entries = [] ∧ c.clear.2.capacity = c.capacity ∧
    (∃ made, c.GaveUp c.clear c.entries.reverse 0 made) ∧
    (∀ n, 0 < n → (c.resize n).2.capacity = n ∧ (c.resize n).2.entries = c.entries.take n ∧
      (c.resize n).2.size = min c.size n ∧
      ∃ made, c.GaveUp (c.resize n) (c.entries.drop n).reverse (c.size - n) made) ∧
    c.resize 0 = (.error (.invalidArgument "cache_capacity must be at least 1"), c) ∧
    (c.mapEngine Recorded.inner).clear = c.clear.map id (mapEngine Recorded.inner) ∧
    ∀ n, (c.mapEngine Recorded.inner).resize n =
      (c.resize n).map id (mapEngine Recorded.inner) := by
  have hclear : c.GaveUp c.clear c.entries.reverse 0
      (disposals c.engine (withoutEmpty (c.entries.reverse.map Entry.handles))) := by
    rw [c.clear_eq (l := c.keep [] (List.nil_sublist _)) rfl rfl]
    exact gaveUp_releaseAll _ rfl rfl
  refine ⟨entries_clear c, capacity_clear c, ⟨_, hclear⟩, ?_, rfl,
    clear_mapEngine Recorded.agrees c, resize_mapEngine Recorded.agrees c⟩
  intro n hn
  have hne : n ≠ 0 := Nat.pos_iff_ne_zero.mp hn
  have hsize : (c.resize n).2.size = min c.size n := by
    rw [size, entries_resize c hne, List.length_take, Nat.min_comm]
    rfl
  have hgave : c.GaveUp (c.resize n) (c.entries.drop n).reverse (c.size - n)
      (disposals c.engine (withoutEmpty ((c.entries.drop n).reverse.map Entry.handles))) := by
    rw [resize_eq c hne]
    apply gaveUp_releaseAll
    · rfl
    · rw [countEvictions, List.length_drop]
      rfl
  exact ⟨capacity_resize c hne, entries_resize c hne, hsize, _, hgave⟩

end Cache
end PatternScan
