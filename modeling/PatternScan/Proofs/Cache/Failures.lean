import PatternScan.Proofs.Cache.Entries

namespace PatternScan

/-- The failures that come from a cache's own work. -/
inductive Failure.OfCache : Failure → Prop where
  | compilation (index : Nat) (account : String) : OfCache (.compilation index account)
  | searching (account : String) : OfCache (.searching account)
  | release (account : String) : OfCache (.release account)
  | zeroCapacity : OfCache .zeroCapacity

theorem Failure.OfCache.ne_cacheBusy {failure : Failure} (h : failure.OfCache) :
    failure ≠ .cacheBusy := by
  cases h <;> nofun

theorem Except.map_eq_error_iff {ε α β : Type} {outcome : Except ε α} {f : α → β} {e : ε} :
    outcome.map f = .error e ↔ outcome = .error e := by
  cases outcome <;> simp [Except.map]

namespace Cache

variable {α β : Type}

def refused : Except Failure α → Bool
  | .error (.compilation _ _) => true
  | _ => false

@[simp] theorem refused_map (outcome : Except Failure α) (f : α → β) :
    refused (outcome.map f) = refused outcome := by
  cases outcome with
  | ok value => rfl
  | error failure => cases failure <;> rfl

/-- If a call fails, then because the engine did not take patterns back. -/
def ReleaseOnly (outcome : Except Failure α) : Prop :=
  ∀ failure, outcome = .error failure → ∃ account, failure = .release account

theorem releaseOnly_ok (value : α) : ReleaseOnly (.ok value : Except Failure α) := nofun

namespace ReleaseOnly

variable {outcome : Except Failure α}

theorem map (h : ReleaseOnly outcome) (f : α → β) : ReleaseOnly (outcome.map f) :=
  fun failure he => h failure (Except.map_eq_error_iff.mp he)

theorem first {before released : Except Failure Unit} (hb : ReleaseOnly before)
    (hr : ReleaseOnly released) : ReleaseOnly (firstFailure before released) := by
  cases before with
  | ok _ => exact hr
  | error _ => exact hb

theorem refused_eq_false (h : ReleaseOnly outcome) : refused outcome = false := by
  cases outcome with
  | ok _ => rfl
  | error failure =>
    obtain ⟨account, rfl⟩ := h failure rfl
    rfl

theorem ofCache (h : ReleaseOnly outcome) {failure : Failure} (he : outcome = .error failure) :
    failure.OfCache := by
  obtain ⟨account, rfl⟩ := h failure he
  exact .release account

end ReleaseOnly

variable {σ : Type} [Engine σ] {c : Cache σ} {failure : Failure} {owner : ScannerId}

theorem releaseOnly_release (c : Cache σ) (hs : List Handle) : ReleaseOnly (c.release hs).1 := by
  unfold release
  split
  · exact releaseOnly_ok ()
  · split
    · exact releaseOnly_ok ()
    · exact fun failure he => ⟨_, (Except.error.inj he).symm⟩

theorem releaseOnly_releaseLast (counted : Nat) {outcome : Except Failure Unit}
    (h : ReleaseOnly outcome) (n : Nat) : ReleaseOnly (c.releaseLast counted outcome n).1 := by
  induction n generalizing c outcome with
  | zero => exact h
  | succ n ih =>
    unfold releaseLast
    split
    · exact h
    · exact ih (h.first (releaseOnly_release _ _))

theorem releaseOnly_evict : ReleaseOnly (c.evict owner).1 := by
  unfold evict
  split
  · exact releaseOnly_ok false
  · exact (releaseOnly_release _ _).map _

theorem releaseOnly_clear : ReleaseOnly c.clear.1 := releaseOnly_releaseLast 0 (releaseOnly_ok ()) _

theorem releaseOnly_resize {capacity : Nat} (h : capacity ≠ 0) :
    ReleaseOnly (c.resize capacity).1 := by
  rw [resize, dif_neg h]
  exact releaseOnly_releaseLast 1 (releaseOnly_ok ()) _

theorem releaseOnly_makeRoom : ReleaseOnly c.makeRoom.1 := by
  unfold makeRoom
  split
  · split
    · exact releaseOnly_release _ _
    · exact releaseOnly_ok ()
  · exact releaseOnly_ok ()

theorem refused_resize (capacity : Nat) : refused (c.resize capacity).1 = false := by
  by_cases h : capacity = 0
  · subst h
    rfl
  · exact (releaseOnly_resize h).refused_eq_false

theorem failure_of_compileFrom {index : Nat} {done : List Handle} {patterns : List String}
    (h : (c.compileFrom index done patterns).1 = .error failure) :
    ∃ index account, failure = .compilation index account := by
  induction patterns generalizing c index done with
  | nil => cases h
  | cons pattern rest ih =>
    unfold compileFrom at h
    split at h
    · exact ih h
    · cases h
      exact ⟨_, _, rfl⟩

theorem failure_of_ensureCompiled {patterns : List String}
    (h : (c.ensureCompiled owner patterns).1 = .error failure) : failure.OfCache := by
  rcases c.ensureCompiled_cases owner patterns with
    ⟨entry, -, hr⟩ | ⟨-, first, d, hc, hr⟩ | ⟨-, hs, d, -, hr⟩
  · rw [hr] at h
    cases h
  · rw [hr] at h
    cases h
    obtain ⟨index, account, rfl⟩ := failure_of_compileFrom (congrArg Prod.fst hc)
    exact .compilation index account
  · rw [hr] at h
    exact (releaseOnly_makeRoom.map _).ofCache h

theorem refused_answered (answer : Except Status (Option Found) × σ) :
    refused (answered answer) = false := by
  rcases answer with ⟨status | found, engine⟩ <;> rfl

theorem refused_findBest (patterns : List String) (text : Array UInt8) (start : Nat) :
    refused (c.findBest owner patterns text start).1 =
      refused (c.ensureCompiled owner patterns).1 := by
  rw [findBest_eq]
  rcases c.ensureCompiled owner patterns with ⟨failure | hs, d⟩
  · cases failure <;> rfl
  · exact refused_answered _

theorem failure_of_findBest {patterns : List String} {text : Array UInt8} {start : Nat}
    (h : (c.findBest owner patterns text start).1 = .error failure) : failure.OfCache := by
  rw [findBest_eq] at h
  rcases hc : c.ensureCompiled owner patterns with ⟨first | hs, d⟩
  · rw [hc] at h
    cases h
    exact failure_of_ensureCompiled (congrArg Prod.fst hc)
  · rw [hc] at h
    rcases hanswer : Engine.findBest d.engine hs text start with ⟨status | found, engine⟩
    · simp only [searched, hanswer, answered, Except.error.injEq] at h
      exact h ▸ .searching _
    · simp [searched, hanswer, answered] at h

theorem failure_of_resize {capacity : Nat} (h : (c.resize capacity).1 = .error failure) :
    failure.OfCache := by
  by_cases hzero : capacity = 0
  · subst hzero
    cases h
    exact .zeroCapacity
  · exact (releaseOnly_resize hzero).ofCache h

end Cache
end PatternScan
