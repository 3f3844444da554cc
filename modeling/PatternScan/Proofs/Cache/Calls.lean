import PatternScan.Proofs.Cache.Entries

namespace PatternScan.Cache

variable {σ : Type} [Engine σ]

def Request.patterns : Request → List String
  | .find _ patterns _ _ => patterns
  | _ => []

/-- A relation that holds between a cache and what is left of it after a call of its engine, if only
patterns that were asked for are compiled; the list, the settings and the other counters are nothing
to it. -/
structure Stepwise (asked : String → Prop) (R : Cache σ → Cache σ → Prop) : Prop where
  trans : ∀ {c d e}, R c d → R d e → R c e
  book : ∀ {c d : Cache σ}, d.engine = c.engine →
    d.counters.releaseFailures = c.counters.releaseFailures → R c d
  release : ∀ c hs, R c (c.release hs).2
  compile : ∀ c {pattern}, asked pattern →
    R c { c with engine := (Engine.compile c.engine (patternBytes pattern)).2 }
  search : ∀ c hs text start, R c (c.searched hs text start).2

namespace Stepwise

variable {asked : String → Prop} {R : Cache σ → Cache σ → Prop} (h : Stepwise asked R)

include h

theorem refl (c : Cache σ) : R c c := h.book rfl rfl

theorem relisted (c : Cache σ) (l : RecencyList) (counted : Nat) :
    R c (countEvictions { c with toRecencyList := l } counted) := h.book rfl rfl

theorem releaseLast (c : Cache σ) (counted : Nat) (outcome : Except Failure Unit) (n : Nat) :
    R c (c.releaseLast counted outcome n).2 := by
  induction n generalizing c outcome with
  | zero => exact h.refl c
  | succ n ih =>
    unfold Cache.releaseLast
    split
    · exact h.refl c
    · rename_i entry rest _
      have hfirst := h.trans (h.relisted c rest counted) (h.release _ entry.handles)
      exact h.trans hfirst (ih _ _)

theorem evict (c : Cache σ) (owner : ScannerId) : R c (c.evict owner).2 := by
  unfold Cache.evict
  split
  · exact h.refl c
  · rename_i entry rest _
    exact h.trans (h.relisted c rest 0) (h.release _ entry.handles)

theorem clear (c : Cache σ) : R c c.clear.2 := h.releaseLast c 0 _ _

theorem resize (c : Cache σ) (capacity : Nat) : R c (c.resize capacity).2 := by
  unfold Cache.resize
  split
  · exact h.refl c
  · exact h.trans (h.releaseLast c 1 _ _) (h.book rfl rfl)

theorem compileFrom (c : Cache σ) (index : Nat) (done : List Handle) {patterns : List String}
    (hp : ∀ p ∈ patterns, asked p) : R c (c.compileFrom index done patterns).2 := by
  induction patterns generalizing c index done with
  | nil => exact h.refl c
  | cons pattern rest ih =>
    obtain ⟨hfirst, hrest⟩ := List.forall_mem_cons.mp hp
    have hcompile := h.compile c hfirst
    rw [Cache.compileFrom]
    rcases hc : Engine.compile c.engine (patternBytes pattern) with ⟨status | handle, engine⟩
    · rw [hc] at hcompile
      exact h.trans hcompile (h.release _ _)
    · rw [hc] at hcompile
      exact h.trans hcompile (ih _ _ _ hrest)

theorem insert (c : Cache σ) (entry : Entry) : R c (c.insert entry).2 := by
  have hroom : R c c.makeRoom.2 := by
    unfold makeRoom
    split
    · split
      · rename_i entry rest _
        exact h.trans (h.relisted c rest 1) (h.release _ entry.handles)
      · exact h.refl c
    · exact h.refl c
  exact h.trans hroom (h.book rfl rfl)

theorem ensureCompiled (c : Cache σ) (owner : ScannerId) {patterns : List String}
    (hp : ∀ p ∈ patterns, asked p) : R c (c.ensureCompiled owner patterns).2 := by
  have hmiss : R c c.countMiss := h.book rfl rfl
  have hcompile := h.trans hmiss (h.compileFrom c.countMiss 0 [] hp)
  rw [← Cache.compile] at hcompile
  rcases c.ensureCompiled_cases owner patterns with
    ⟨entry, -, hr⟩ | ⟨-, failure, d, hc, hr⟩ | ⟨-, hs, d, hc, hr⟩
  · rw [hr]
    exact h.book rfl rfl
  · rw [hc] at hcompile
    rw [hr]
    exact hcompile
  · rw [hc] at hcompile
    have hcount : R d d.countCompilation := h.book rfl rfl
    rw [hr]
    exact h.trans hcompile (h.trans hcount (h.insert _ _))

theorem findBest (c : Cache σ) (owner : ScannerId) {patterns : List String}
    (hp : ∀ p ∈ patterns, asked p) (text : Array UInt8) (start : Nat) :
    R c (c.findBest owner patterns text start).2 := by
  have hensure := h.ensureCompiled c owner hp
  rw [findBest_eq]
  rcases hc : c.ensureCompiled owner patterns with ⟨failure | hs, d⟩
  · rw [hc] at hensure
    exact hensure
  · rw [hc] at hensure
    exact h.trans hensure (h.search d hs text start)

theorem serve (c : Cache σ) (r : Request) (hp : ∀ p ∈ r.patterns, asked p) :
    R c (c.serve r).2 := by
  cases r with
  | find owner patterns text start => exact h.findBest c owner hp text start
  | evict owner => exact h.evict c owner
  | clear => exact h.clear c
  | resize capacity => exact h.resize c capacity
  | setLog on => exact h.book rfl rfl

theorem after (c : Cache σ) (requests : List Request)
    (hp : ∀ r ∈ requests, ∀ p ∈ r.patterns, asked p) : R c (c.after requests) := by
  induction requests generalizing c with
  | nil => exact h.refl c
  | cons r rest ih =>
    obtain ⟨hfirst, hrest⟩ := List.forall_mem_cons.mp hp
    exact h.trans (h.serve c r hfirst) (ih _ hrest)

end Stepwise
end PatternScan.Cache
