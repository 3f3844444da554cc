import PatternScan.Proofs.Cache.Requests
import PatternScan.Scanner.Finder

namespace PatternScan

open Cache (Request)

def Scanner.Asks (s : Scanner) : Request → Prop
  | .find owner patterns _ _ => owner = s.id ∧ patterns = s.sources ∧ s.sources ≠ []
  | _ => False

namespace SharedCache

variable {σ α : Type} {shared later : SharedCache σ} {allowed : Request → Prop}

theorem change_of_free (hf : shared.hold = .free) (use : Cache σ → Except Failure α × Cache σ) :
    shared.change use = ((use shared.cache).1, { shared with cache := (use shared.cache).2 }) := by
  obtain ⟨cache, hold⟩ := shared
  obtain rfl : hold = .free := hf
  rfl

theorem change_of_held (hh : shared.hold ≠ .free) (use : Cache σ → Except Failure α × Cache σ) :
    shared.change use = (.error .cacheBusy, shared) := by
  obtain ⟨cache, hold⟩ := shared
  cases hold with
  | free => exact absurd rfl hh
  | reading => rfl
  | changing => rfl

variable [Engine σ]

/-- A shared cache was used for requests of one kind. -/
structure Served (shared later : SharedCache σ) (allowed : Request → Prop) : Prop where
  hold : later.hold = shared.hold
  requests : ∃ requests, later.cache = shared.cache.after requests ∧ ∀ r ∈ requests, allowed r

theorem served_self : shared.Served shared allowed :=
  ⟨rfl, [], rfl, fun _ h => absurd h List.not_mem_nil⟩

theorem served_change {use : Cache σ → Except Failure α × Cache σ} {r : Request}
    (hu : ∀ c, (use c).2 = (c.serve r).2) (hr : allowed r) :
    shared.Served (shared.change use).2 allowed := by
  by_cases hf : shared.hold = .free
  · rw [change_of_free hf]
    refine ⟨rfl, [r], hu shared.cache, ?_⟩
    intro r' hm
    obtain rfl := List.mem_singleton.mp hm
    exact hr
  · rw [change_of_held hf]
    exact served_self

theorem Served.imp {other : Request → Prop} (h : shared.Served later allowed)
    (hr : ∀ r, allowed r → other r) : shared.Served later other := by
  obtain ⟨requests, he, hall⟩ := h.requests
  exact ⟨h.hold, requests, he, fun r hm => hr r (hall r hm)⟩

theorem Served.preserves {P : Cache σ → Prop} (h : shared.Served later allowed)
    (hstep : ∀ c r, P c → allowed r → P (c.serve r).2) (hp : P shared.cache) : P later.cache := by
  obtain ⟨requests, he, hr⟩ := h.requests
  rw [he]
  generalize shared.cache = c at hp
  clear he
  induction requests generalizing c with
  | nil => exact hp
  | cons r rest ih =>
    obtain ⟨hfirst, hrest⟩ := List.forall_mem_cons.mp hr
    exact ih hrest _ (hstep c r hp hfirst)

theorem served_configure (config : Config) : shared.Served (shared.configure config).2
    fun r => r = .setLog config.logEvictions ∨ r = .resize config.capacity := by
  unfold configure
  split
  · exact served_self
  · by_cases hf : shared.hold = .free
    · rw [change_of_free hf]
      refine ⟨rfl, [.setLog config.logEvictions, .resize config.capacity], rfl, ?_⟩
      simp
    · rw [change_of_held hf]
      exact served_self

end SharedCache

open SharedCache

variable {σ : Type} [Engine σ] {shared : SharedCache σ}

namespace Scanner

theorem served_findNext (s : Scanner) (text : IndexedText) (start : Nat) :
    shared.Served (s.findNext text start shared).2 s.Asks := by
  unfold findNext
  split
  · exact served_self
  · rename_i hne
    have hsources : s.sources ≠ [] := fun h => hne (h ▸ rfl)
    exact served_change (r := .find s.id s.sources text.content (text.toByte start))
      (fun _ => rfl) ⟨rfl, rfl, hsources⟩

end Scanner

namespace Finder

theorem served_search (f : Finder) (text : IndexedText) (start : Nat) :
    shared.Served (f.search text start shared).2 fun r => ∃ s, f.scanner? = some s ∧ s.Asks r := by
  unfold search
  split
  · exact served_self
  · rename_i s hs
    exact (s.served_findNext text start).imp fun r hr => ⟨s, hs, hr⟩

theorem served_test (f : Finder) (subject : Subject) :
    shared.Served (f.test subject shared).2 fun r => ∃ s, f.scanner? = some s ∧ s.Asks r := by
  unfold test
  split
  · exact served_self
  · exact served_self
  · exact served_self
  · exact served_search _ _ 0

end Finder
end PatternScan
