import Mathlib.Algebra.Order.Ring.Nat
import PatternScan.Proofs.Cache.Calls
import PatternScan.Proofs.Cache.Recency

namespace PatternScan

def EngineEvent.isFailedDispose : EngineEvent → Bool
  | .dispose _ (.error _) => true
  | _ => false

namespace Cache

theorem countP_concat {α : Type} (p : α → Bool) (l : List α) (a : α) :
    (l ++ [a]).countP p = l.countP p + (p a).toNat := by
  cases h : p a <;> simp [h]

structure Service (σ : Type) where
  before : Cache σ
  request : Request
  outcome : Except Failure Reply

namespace Service

variable {σ : Type}

def isSearch (s : Service σ) : Bool :=
  match s.request with
  | .find .. => true
  | _ => false

def isRefused (s : Service σ) : Bool := s.isSearch && refused s.outcome

def isEviction (s : Service σ) : Bool :=
  match s.request with
  | .evict owner => s.before.contains owner
  | _ => false

/-- The number of entries that went because all had to. -/
def cleared (s : Service σ) : Nat :=
  match s.request with
  | .clear => s.before.size
  | _ => 0

end Service

variable {σ : Type} {c d : Cache σ} {past : List (Service σ)}

/-- The counters of a cache agree with its history. -/
structure AddsUp (c : Cache σ) (past : List (Service σ)) : Prop where
  searches : c.counters.hits + c.counters.misses = past.countP Service.isSearch
  misses : c.counters.misses = c.counters.compilations + past.countP Service.isRefused
  compilations : c.counters.compilations = c.size + c.counters.evictions +
    past.countP Service.isEviction + (past.map Service.cleared).sum

theorem addsUp_new (engine : σ) (capacity : Nat) : (new engine capacity).AddsUp [] :=
  ⟨rfl, rfl, rfl⟩

theorem AddsUp.add (hb : c.AddsUp past) (s : Service σ)
    (hsearches : d.counters.hits + d.counters.misses =
      c.counters.hits + c.counters.misses + s.isSearch.toNat)
    (hmisses : d.counters.misses + c.counters.compilations =
      c.counters.misses + d.counters.compilations + s.isRefused.toNat)
    (hcompilations : d.counters.compilations + c.size + c.counters.evictions =
      c.counters.compilations + d.size + d.counters.evictions +
        s.isEviction.toNat + s.cleared) : d.AddsUp (past ++ [s]) := by
  have hbefore := hb.searches
  have hbefore' := hb.misses
  have hbefore'' := hb.compilations
  constructor
  · rw [countP_concat]
    omega
  · rw [countP_concat]
    omega
  · rw [countP_concat, List.map_append, List.sum_append, List.map_singleton, List.sum_singleton]
    omega

/-- A request that is no search takes out what it asks for and what no longer fits. -/
theorem AddsUp.takeOut (hb : c.AddsUp past) {s : Service σ} (hs : s.isSearch = false)
    {n : Nat} (hcounters : d.counters.withoutFailures =
      { c.counters with evictions := c.counters.evictions + n }.withoutFailures)
    (hsize : d.size + n + s.isEviction.toNat + s.cleared = c.size) :
    d.AddsUp (past ++ [s]) := by
  obtain ⟨hhits, hmisses, hcompilations, hevictions⟩ :=
    Counters.withoutFailures_eq_iff.mp hcounters
  have hrefused : s.isRefused = false := by rw [Service.isRefused, hs, Bool.false_and]
  apply hb.add
  · rw [hhits, hmisses, hs]
    rfl
  · rw [hmisses, hcompilations, hrefused]
    rfl
  · rw [hcompilations, hevictions]
    dsimp only
    omega

section

variable [Engine σ]

def history (c : Cache σ) : List Request → List (Service σ)
  | [] => []
  | r :: rest => ⟨c, r, (c.serve r).1⟩ :: history (c.serve r).2 rest

theorem map_request_history (c : Cache σ) (requests : List Request) :
    (c.history requests).map Service.request = requests := by
  induction requests generalizing c with
  | nil => rfl
  | cons r rest ih => exact congrArg (r :: ·) (ih _)

theorem map_outcome_history (c : Cache σ) (requests : List Request) :
    (c.history requests).map Service.outcome = c.replies requests := by
  induction requests generalizing c with
  | nil => rfl
  | cons r rest ih => exact congrArg ((c.serve r).1 :: ·) (ih _)

theorem size_evict (c : Cache σ) (owner : ScannerId) :
    (c.evict owner).2.size + (c.contains owner).toNat = c.size := by
  rw [size, entries_evict, contains_eq_isSome]
  cases he : c.lookup? owner with
  | none => simp [others, RecencyList.without_eq_of_peek he, size]
  | some entry => exact (RecencyList.perm_of_peek he).length_eq

theorem AddsUp.findBest (hb : c.AddsUp past) (owner : ScannerId)
    (patterns : List String) (text : Array UInt8) (start : Nat) :
    (c.findBest owner patterns text start).2.AddsUp (past ++
      [⟨c, .find owner patterns text start, (c.serve (.find owner patterns text start)).1⟩]) := by
  have hle : c.entries.length ≤ c.capacity := c.length_le
  have hpos := c.capacity_pos
  have hrefused : Service.isRefused
      ⟨c, .find owner patterns text start, (c.serve (.find owner patterns text start)).1⟩ =
        refused (c.findBest owner patterns text start).1 := refused_map _ _
  have hcases := findBest_cases c owner patterns text start
  dsimp only at hcases
  generalize c.findBest owner patterns text start = found at hcases hrefused ⊢
  rcases hcases with ⟨entry, he, hr, hentries, hd⟩ | ⟨-, hr, hentries, hd⟩ |
    ⟨-, hr, ⟨hs, hentries⟩, hd⟩
  · have hsize : found.2.size = c.size := by
      rw [size, hentries]
      exact (RecencyList.perm_of_peek he).length_eq
    apply hb.add
    all_goals
      simp only [hd, hsize, hrefused, hr, Service.isSearch, Service.isEviction, Service.cleared,
        Bool.toNat_true, Bool.toNat_false]
      omega
  · obtain ⟨hhits, hmisses, hcompilations, hevictions⟩ := Counters.withoutFailures_eq_iff.mp hd
    have hsize : found.2.size = c.size := congrArg List.length hentries
    apply hb.add
    all_goals
      simp only [hhits, hmisses, hcompilations, hevictions, hsize, hrefused, hr, Service.isSearch,
        Service.isEviction, Service.cleared, Bool.toNat_true, Bool.toNat_false]
      omega
  · obtain ⟨hhits, hmisses, hcompilations, hevictions⟩ := Counters.withoutFailures_eq_iff.mp hd
    have hsize : found.2.size + (c.size + 1 - c.capacity) = c.size + 1 := by
      simp only [size, hentries, List.length_cons, List.length_take]
      omega
    apply hb.add
    all_goals
      simp only [hhits, hmisses, hcompilations, hevictions, hrefused, hr, Service.isSearch,
        Service.isEviction, Service.cleared, Bool.toNat_true, Bool.toNat_false]
      omega

theorem AddsUp.serve (hb : c.AddsUp past) (r : Request) :
    (c.serve r).2.AddsUp (past ++ [⟨c, r, (c.serve r).1⟩]) := by
  cases r with
  | find owner patterns text start => exact hb.findBest owner patterns text start
  | evict owner =>
    exact hb.takeOut rfl (n := 0) (counters_evict c owner) (size_evict c owner)
  | clear =>
    have hsize : c.clear.2.size = 0 := congrArg List.length (entries_clear c)
    refine hb.takeOut rfl (n := 0) (counters_clear c) ?_
    simp only [Cache.serve, hsize, Service.isEviction, Service.cleared, Bool.toNat_false,
      Nat.zero_add]
  | resize capacity =>
    by_cases h : capacity = 0
    · subst h
      exact hb.takeOut rfl (n := 0) rfl rfl
    · refine hb.takeOut rfl (counters_resize c h) ?_
      simp only [Cache.serve, size, entries_resize c h, List.length_take, Service.isEviction,
        Service.cleared, Bool.toNat_false]
      omega
  | setLog on => exact hb.takeOut rfl (n := 0) rfl rfl

theorem AddsUp.after (hb : c.AddsUp past) (requests : List Request) :
    (c.after requests).AddsUp (past ++ c.history requests) := by
  induction requests generalizing c past with
  | nil =>
    rw [history, List.append_nil]
    exact hb
  | cons r rest ih =>
    rw [after_cons, history, List.append_cons]
    exact ih (hb.serve r)

end

def Noted (c : Cache (Recorded σ)) : Prop :=
  c.counters.releaseFailures = c.engine.log.countP EngineEvent.isFailedDispose

section

variable {c d : Cache (Recorded σ)}

theorem Noted.record (hn : c.Noted) {e : EngineEvent} (hl : d.engine.log = c.engine.log ++ [e])
    (hc : d.counters.releaseFailures = c.counters.releaseFailures + e.isFailedDispose.toNat) :
    d.Noted := by
  rw [Noted, hl, hc, countP_concat]
  exact congrArg (· + _) hn

variable [Engine σ]

theorem Noted.release (hn : c.Noted) (hs : List Handle) : (c.release hs).2.Noted := by
  have hlog := c.engine.log_dispose hs
  unfold Cache.release
  split
  · exact hn
  · rcases h : Engine.dispose c.engine hs with ⟨status | done, engine⟩
    · rw [h] at hlog
      exact hn.record (d := countReleaseFailure { c with engine }) hlog rfl
    · rw [h] at hlog
      exact hn.record (d := { c with engine }) hlog rfl

theorem stepwise_noted :
    Stepwise (fun _ => True) fun c d : Cache (Recorded σ) => c.Noted → d.Noted where
  trans hc hd := hd ∘ hc
  book he hf hn := by
    rw [Noted, he, hf]
    exact hn
  release _ hs hn := hn.release hs
  compile c _ _ hn := hn.record (c.engine.log_compile _) rfl
  search c hs text start hn := hn.record (c.engine.log_findBest hs text start) rfl

end

/-- However the engine behaves, after any requests to a new cache: the hits and misses are as many
as the searches; the misses are the compilations and the searches that were refused; the
compilations are the entries, the evictions, the entries that went on request, also if their release
failed, and those that were cleared; and the failed releases are the engine's refusals to take
patterns back, whatever they were taken back for. The record of the engine's calls takes no part in
this. -/
theorem counters_add_up [Engine σ] (engine : σ) (capacity : Nat) (requests : List Request) :
    let start : Cache (Recorded σ) := new ⟨engine, []⟩ capacity
    let c := start.after requests
    let past := start.history requests
    c.counters.hits + c.counters.misses = past.countP Service.isSearch ∧
    c.counters.misses = c.counters.compilations + past.countP Service.isRefused ∧
    c.counters.compilations = c.size + c.counters.evictions +
      past.countP Service.isEviction + (past.map Service.cleared).sum ∧
    c.counters.releaseFailures = c.engine.log.countP EngineEvent.isFailedDispose ∧
    past.map Service.request = requests ∧
    past.map Service.outcome = (new engine capacity).replies requests ∧
    c.mapEngine Recorded.inner = (new engine capacity).after requests := by
  intro start c past
  have hb : c.AddsUp past := (addsUp_new _ capacity).after requests
  have hn : c.Noted := stepwise_noted.after start requests (fun _ _ _ _ => trivial) rfl
  refine ⟨hb.searches, hb.misses, hb.compilations, hn, start.map_request_history requests, ?_, ?_⟩
  · rw [start.map_outcome_history]
    exact (replies_mapEngine Recorded.agrees start requests).symm
  · exact (after_mapEngine Recorded.agrees start requests).symm

end Cache
end PatternScan
