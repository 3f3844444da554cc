import PatternScan.Proofs.Cache.Failures
import PatternScan.Proofs.Scanner.Served

namespace PatternScan

open Cache (Request)

namespace SharedCache

variable {σ α β : Type} [Engine σ] {allowed : Request → Prop}

/-- An operation that asks the cache for requests of one kind, leaves a held cache as it is, and
gets to a free one. -/
structure Orderly (use : SharedCache σ → Except Failure α × SharedCache σ)
    (allowed : Request → Prop) : Prop where
  served : ∀ s, Served s (use s).2 allowed
  held : ∀ s, s.hold ≠ .free → (use s).2 = s
  free : ∀ s, s.hold = .free → (use s).1 ≠ .error .cacheBusy

theorem orderly_change {use : Cache σ → Except Failure α × Cache σ} {r : Request}
    (hu : ∀ c, (use c).2 = (c.serve r).2) (hr : allowed r)
    (hf : ∀ c failure, (use c).1 = .error failure → failure.OfCache) :
    Orderly (change · use) allowed := by
  refine ⟨fun s => served_change hu hr, ?_, ?_⟩
  · intro s h
    exact congrArg Prod.snd (change_of_held h use)
  · intro s h he
    rw [change_of_free h] at he
    exact (hf s.cache _ he).ne_cacheBusy rfl

theorem orderly_const {outcome : Except Failure α} (h : outcome ≠ .error .cacheBusy) :
    Orderly (fun s : SharedCache σ => (outcome, s)) allowed :=
  ⟨fun _ => served_self, fun _ _ => rfl, fun _ _ => h⟩

theorem Orderly.map {use : SharedCache σ → Except Failure α × SharedCache σ}
    (h : Orderly use allowed) (f : α → β) :
    Orderly (fun s => ((use s).1.map f, (use s).2)) allowed := by
  refine ⟨h.served, h.held, ?_⟩
  intro s hs he
  exact h.free s hs (Except.map_eq_error_iff.mp he)

theorem Orderly.imp {use : SharedCache σ → Except Failure α × SharedCache σ}
    (h : Orderly use allowed) {other : Request → Prop} (ho : ∀ r, allowed r → other r) :
    Orderly use other :=
  ⟨fun s => (h.served s).imp ho, h.held, h.free⟩

/-- Settings without room are refused, whether or not the cache is held. -/
theorem configure_of_zero {config : Config} (h : config.capacity = 0) (s : SharedCache σ) :
    s.configure config = (.error .zeroCapacity, s) := by
  simp [configure, Config.validate, h]

theorem configure_of_pos {config : Config} (h : config.capacity ≠ 0) (s : SharedCache σ) :
    s.configure config = s.change (·.configure config) := by
  simp [configure, Config.validate, h]

theorem orderly_configure (config : Config) : Orderly (configure (σ := σ) · config)
    fun r => r = .setLog config.logEvictions ∨ r = .resize config.capacity := by
  by_cases hv : config.capacity = 0
  · simp only [configure_of_zero hv]
    exact orderly_const nofun
  · refine ⟨fun s => served_configure config, ?_, ?_⟩
    · intro s h
      rw [configure_of_pos hv, change_of_held h]
    · intro s h he
      rw [configure_of_pos hv, change_of_free h] at he
      exact (Cache.failure_of_resize he).ne_cacheBusy rfl

end SharedCache

open SharedCache

variable {σ : Type} [Engine σ]

namespace Scanner

theorem findNext_of_empty {s : Scanner} (h : s.sources = []) (text : IndexedText) (start : Nat)
    (shared : SharedCache σ) : s.findNext text start shared = (.ok none, shared) := by
  simp [findNext, h]

theorem findNext_of_sources {s : Scanner} (h : s.sources ≠ []) (text : IndexedText) (start : Nat)
    (shared : SharedCache σ) :
    s.findNext text start shared =
      let (result, later) := shared.change fun cache =>
        cache.findBest s.id s.sources text.content (text.toByte start)
      (result.map fun found => found.map fun f => ⟨f.patternIndex, captures text f.captures⟩,
        later) := by
  have hne : s.sources.isEmpty = false := by simpa using h
  unfold findNext
  rw [hne]
  rfl

theorem orderly_findNext (s : Scanner) (text : IndexedText) (start : Nat) :
    Orderly (σ := σ) (s.findNext text start) s.Asks := by
  by_cases h : s.sources = []
  · have hnone := funext (findNext_of_empty (σ := σ) h text start)
    rw [hnone]
    exact orderly_const nofun
  · have hchange := funext (findNext_of_sources (σ := σ) h text start)
    have hfind : Orderly (α := Option Found) (σ := σ) (change · fun cache =>
        cache.findBest s.id s.sources text.content (text.toByte start)) s.Asks :=
      orderly_change (r := .find s.id s.sources text.content (text.toByte start))
        (fun _ => rfl) ⟨rfl, rfl, h⟩ fun _ _ => Cache.failure_of_findBest
    rw [hchange]
    exact hfind.map _

theorem orderly_dispose (s : Scanner) :
    Orderly (σ := σ) s.dispose fun r => r = .evict s.id :=
  orderly_change (fun _ => rfl) rfl fun _ _ => Cache.releaseOnly_evict.ofCache

end Scanner

namespace Finder

theorem orderly_search (f : Finder) (text : IndexedText) (start : Nat) :
    Orderly (σ := σ) (f.search text start) fun r => ∃ s, f.scanner? = some s ∧ s.Asks r := by
  cases hf : f.scanner? with
  | none =>
    have hnone : ∀ shared : SharedCache σ,
        f.search text start shared = (.error .noPattern, shared) := by
      intro shared
      simp only [search, hf]
    rw [funext hnone]
    exact orderly_const nofun
  | some s =>
    have hsearch : ∀ shared : SharedCache σ, f.search text start shared =
        ((s.findNext text start shared).1.map fun found => found.map (withText text),
          (s.findNext text start shared).2) := by
      intro shared
      simp only [search, hf]
    rw [funext hsearch]
    exact ((s.orderly_findNext text start).map _).imp fun r hr => ⟨s, rfl, hr⟩

theorem orderly_test (f : Finder) (subject : Subject) :
    Orderly (σ := σ) (f.test subject) fun r => ∃ s, f.scanner? = some s ∧ s.Asks r := by
  cases f with
  | literal value =>
    cases subject with
    | literal other => exact orderly_const nofun
    | text text => exact orderly_const nofun
  | pattern id source =>
    cases subject with
    | literal value => exact orderly_const nofun
    | text text => exact (orderly_search (σ := σ) (.pattern id source) text 0).map Option.isSome

end Finder
end PatternScan
