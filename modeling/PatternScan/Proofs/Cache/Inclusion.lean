import Mathlib.Data.List.Infix
import PatternScan.Proofs.Cache.Correspondence
import PatternScan.Proofs.Cache.Recency

namespace PatternScan.Cache

variable {ρ : Type} {sources : ScannerId → List String} {requests : List Request}

/-- A request of a run in which every scanner has patterns of its own and the capacity stays. -/
def Request.Steady (sources : ScannerId → List String) : Request → Prop
  | .find owner patterns _ _ => patterns = sources owner
  | .resize _ => False
  | _ => True

/-- The owners of the entries with the expressions that each has. -/
def contents (c : Cache (RegexArena ρ)) : List (ScannerId × List (Option ρ)) :=
  c.entries.map fun e => (e.owner, e.handles.map c.engine.regex?)

section

variable [Regex ρ]

def served (ρ : Type) [Regex ρ] (capacity : Nat) (requests : List Request) :
    Cache (RegexArena ρ) :=
  (new .empty capacity).after requests

/-- Whether the arena of a cache that has served requests has no more slots than there are numbers.
-/
def Fits (ρ : Type) [Regex ρ] (capacity : Nat) (requests : List Request) : Prop :=
  (served ρ capacity requests).engine.slots.size ≤ UInt32.size

theorem Fits.of_prefix {capacity : Nat} (h : Fits ρ capacity requests) {before : List Request}
    (hp : before <+: requests) : Fits ρ capacity before := by
  obtain ⟨rest, rfl⟩ := hp
  rw [Fits, served, after_append] at h
  exact Nat.le_trans (size_le_after _ rest) h

theorem regexes_of_steady (hr : ∀ r ∈ requests, r.Steady sources) {capacity : Nat}
    (hf : Fits ρ capacity requests) {e : Entry} (he : e ∈ (served ρ capacity requests).entries) :
    e.handles.map (served ρ capacity requests).engine.regex? =
      (sources e.owner).map fun s => (Regex.compile (ρ := ρ) s).toOption := by
  obtain ⟨before, patterns, text, start, rest, rfl, -, -, hp⟩ :=
    (holds_empty capacity).origin rfl requests hf e he
  have hpatterns : patterns = sources e.owner := hr (.find e.owner patterns text start) (by simp)
  rw [served, hp, hpatterns]

theorem contents_of_steady (hr : ∀ r ∈ requests, r.Steady sources) {capacity : Nat}
    (hf : Fits ρ capacity requests) : (served ρ capacity requests).contents =
      (served ρ capacity requests).owners.map fun id =>
        (id, (sources id).map fun s => (Regex.compile (ρ := ρ) s).toOption) := by
  rw [contents, owners, List.map_map]
  apply List.map_congr_left
  intro e he
  exact congrArg (e.owner, ·) (regexes_of_steady hr hf he)

theorem regexesFor_of_steady (hr : ∀ r ∈ requests, r.Steady sources) {capacity : Nat}
    (hf : Fits ρ capacity requests) (owner : ScannerId) :
    (served ρ capacity requests).regexesFor owner (sources owner) =
      compileAll 0 (sources owner) := by
  unfold regexesFor
  split
  · rename_i e he
    obtain rfl := RecencyList.owner_of_peek he
    have hm := RecencyList.mem_of_peek he
    have hp := regexes_of_steady hr hf hm
    have hholds : (served ρ capacity requests).Holds [] :=
      ((holds_empty capacity).after requests hf).1
    rw [hholds.map_regex? hm] at hp
    exact (compileAll_of_map_toOption hp.symm).symm
  · rfl

theorem find_of_steady (hr : ∀ r ∈ requests, r.Steady sources) {capacity : Nat} {owner : ScannerId}
    {text : Array UInt8} {start : Nat}
    (hf : Fits ρ capacity (requests ++ [.find owner (sources owner) text start])) :
    ((served ρ capacity requests).findBest owner (sources owner) text start).1 =
      (compileAll 0 (sources owner)).map fun rs : List ρ => bestMatch rs text start := by
  have hbefore : Fits ρ capacity requests := hf.of_prefix (List.prefix_append _ _)
  rw [Fits, served, after_concat] at hf
  obtain ⟨d, hd, -⟩ := ((holds_empty capacity).after requests hbefore).1.findBest owner
    (sources owner) text start hf
  rw [served, hd, ← served, regexesFor_of_steady hr hbefore]

end

section

variable [Regex ρ]

theorem isOk_compileFrom_iff (c : Cache (RegexArena ρ)) (index : Nat) (done : List Handle)
    (patterns : List String) : (c.compileFrom index done patterns).1.isOk = true ↔
      ∀ s ∈ patterns, ∃ r : ρ, Regex.compile s = .ok r := by
  induction patterns generalizing c index done with
  | nil => simp [compileFrom, Except.isOk, Except.toBool]
  | cons pattern rest ih =>
    have hcompile : Engine.compile c.engine (patternBytes pattern) = _ :=
      compile_patternBytes c.engine pattern
    rw [List.forall_mem_cons]
    cases hp : Regex.compile (ρ := ρ) pattern with
    | error words =>
      rw [hp] at hcompile
      simp [compileFrom, hcompile, Except.isOk, Except.toBool]
    | ok r =>
      rw [hp] at hcompile
      simp only [compileFrom, hcompile, ih]
      exact ⟨fun h => ⟨⟨r, rfl⟩, h⟩, fun h => h.2⟩

/-- Whether a search is refused does not depend on the slots, however many there are. -/
theorem refused_findBest_iff (c : Cache (RegexArena ρ)) (owner : ScannerId)
    (patterns : List String) (text : Array UInt8) (start : Nat) :
    refused (c.findBest owner patterns text start).1 = true ↔
      owner ∉ c.owners ∧ ¬ ∀ s ∈ patterns, ∃ r : ρ, Regex.compile s = .ok r := by
  have hcompiled := isOk_compileFrom_iff c.countMiss 0 [] patterns
  rw [refused_findBest]
  rcases c.ensureCompiled_cases owner patterns with
    ⟨entry, he, hr⟩ | ⟨hn, failure, d, hc, hr⟩ | ⟨hn, hs, d, hc, hr⟩
  · rw [hr]
    exact ⟨fun h => (Bool.false_ne_true h).elim, fun h => absurd (mem_owners_of_lookup he) h.1⟩
  · obtain ⟨index, account, rfl⟩ := failure_of_compileFrom (congrArg Prod.fst hc)
    rw [show c.countMiss.compileFrom 0 [] patterns = _ from hc] at hcompiled
    rw [hr]
    exact ⟨fun _ => ⟨notMem_owners_of_lookup hn, fun h => Bool.false_ne_true (hcompiled.mpr h)⟩,
      fun _ => rfl⟩
  · rw [show c.countMiss.compileFrom 0 [] patterns = _ from hc] at hcompiled
    rw [hr, refused_map, insert, releaseOnly_makeRoom.refused_eq_false]
    exact ⟨fun h => (Bool.false_ne_true h).elim, fun h => absurd (hcompiled.mp rfl) h.2⟩

end

section

variable {σ : Type}

/-- A cache has the first entries of one that is not smaller, hits no more often and compiles no
less often. -/
structure Includes (c d : Cache σ) : Prop where
  capacity_le : c.capacity ≤ d.capacity
  owners : c.owners <+: d.owners
  hits_le : c.counters.hits ≤ d.counters.hits
  compilations_le : d.counters.compilations ≤ c.counters.compilations

theorem includes_new (engine : σ) {small large : Nat} (hle : small ≤ large) :
    (new engine small).Includes (new engine large) := by
  refine ⟨?_, List.prefix_rfl, Nat.le_refl _, Nat.le_refl _⟩
  simp only [new, RecencyList.empty]
  omega

theorem promote_prefix {ids more : List ScannerId} {small large : Nat} (h : ids <+: more)
    (hle : small ≤ large) (id : ScannerId) : promote small ids id <+: promote large more id := by
  have hall : id :: ids.filter (· != id) <+: id :: more.filter (· != id) :=
    List.cons_prefix_cons.mpr ⟨rfl, h.filter _⟩
  exact (hall.take small).trans (List.take_prefix_take_left hle)

variable [Engine σ] {c d : Cache σ}

theorem Includes.findBest (hi : c.Includes d) {owner : ScannerId}
    {patterns : List String} {text : Array UInt8} {start : Nat}
    (hsame : refused (c.findBest owner patterns text start).1 =
      refused (d.findBest owner patterns text start).1) :
    (c.findBest owner patterns text start).2.Includes
      (d.findBest owner patterns text start).2 := by
  have hhit : owner ∈ c.owners → owner ∈ d.owners := fun hm => hi.owners.subset hm
  have howners := owners_findBest c owner patterns text start
  have howners' := owners_findBest d owner patterns text start
  have hcompiled := compilations_findBest c owner patterns text start
  have hcompiled' := compilations_findBest d owner patterns text start
  dsimp only at howners howners' hcompiled hcompiled'
  rw [hsame] at howners hcompiled
  constructor
  · rw [capacity_findBest, capacity_findBest]
    exact hi.capacity_le
  · rw [howners, howners']
    split
    · exact hi.owners
    · exact promote_prefix hi.owners hi.capacity_le owner
  · rw [hits_findBest c, hits_findBest d]
    have := hi.hits_le
    by_cases hm : owner ∈ c.owners
    · rw [if_pos hm, if_pos (hhit hm)]
      omega
    · rw [if_neg hm]
      omega
  · rw [hcompiled, hcompiled']
    have := hi.compilations_le
    by_cases hm : owner ∈ c.owners ∨ refused (d.findBest owner patterns text start).1 = true
    · rw [if_pos hm, if_pos (hm.imp_left hhit)]
      omega
    · rw [if_neg hm]
      split <;> omega

theorem Includes.evict (hi : c.Includes d) (owner : ScannerId) :
    (c.evict owner).2.Includes (d.evict owner).2 := by
  obtain ⟨hhits, -, hcompilations, -⟩ :=
    Counters.withoutFailures_eq_iff.mp (counters_evict c owner)
  obtain ⟨hhits', -, hcompilations', -⟩ :=
    Counters.withoutFailures_eq_iff.mp (counters_evict d owner)
  constructor
  · rw [list_evict, list_evict]
    exact hi.capacity_le
  · rw [owners_evict, owners_evict]
    exact hi.owners.filter _
  · rw [hhits, hhits']
    exact hi.hits_le
  · rw [hcompilations, hcompilations']
    exact hi.compilations_le

theorem Includes.clear (hi : c.Includes d) : c.clear.2.Includes d.clear.2 := by
  obtain ⟨hhits, -, hcompilations, -⟩ := Counters.withoutFailures_eq_iff.mp (counters_clear c)
  obtain ⟨hhits', -, hcompilations', -⟩ := Counters.withoutFailures_eq_iff.mp (counters_clear d)
  constructor
  · rw [capacity_clear, capacity_clear]
    exact hi.capacity_le
  · rw [owners_clear]
    exact List.nil_prefix
  · rw [hhits, hhits']
    exact hi.hits_le
  · rw [hcompilations, hcompilations']
    exact hi.compilations_le

end

section

variable [Regex ρ] {small large : Nat}

/-- Nobody has an entry whose sources are refused. -/
theorem compile_of_mem_owners {capacity : Nat} (hr : ∀ r ∈ requests, r.Steady sources)
    {owner : ScannerId} (hm : owner ∈ (served ρ capacity requests).owners) :
    ∀ s ∈ sources owner, ∃ r : ρ, Regex.compile s = .ok r := by
  induction requests using List.reverseRecOn with
  | nil => cases hm
  | append_singleton before r ih =>
    obtain ⟨hbefore, hlast⟩ := List.forall_mem_append.mp hr
    have hsteady : r.Steady sources := hlast r (List.mem_singleton.mpr rfl)
    rw [served, after_concat, ← served] at hm
    cases r with
    | find other patterns text start =>
      obtain rfl : patterns = sources other := hsteady
      have howners := owners_findBest (served ρ capacity before) other (sources other) text start
      have hrefused :=
        refused_findBest_iff (served ρ capacity before) other (sources other) text start
      dsimp only at howners
      change owner ∈ ((served ρ capacity before).findBest other (sources other) text start).2.owners
        at hm
      rw [howners] at hm
      split at hm
      · exact ih hbefore hm
      · rename_i hnot
        rcases List.mem_cons.mp (List.mem_of_mem_take hm) with rfl | hm
        · by_cases hin : owner ∈ (served ρ capacity before).owners
          · exact ih hbefore hin
          · by_contra hbad
            exact hnot (hrefused.mpr ⟨hin, hbad⟩)
        · exact ih hbefore (List.mem_of_mem_filter hm)
    | evict other =>
      change owner ∈ ((served ρ capacity before).evict other).2.owners at hm
      rw [owners_evict] at hm
      exact ih hbefore (List.mem_of_mem_filter hm)
    | clear =>
      change owner ∈ (served ρ capacity before).clear.2.owners at hm
      rw [owners_clear] at hm
      cases hm
    | resize capacity => exact hsteady.elim
    | setLog on => exact ih hbefore hm

/-- Steady requests keep a smaller cache in the larger one. -/
theorem includes_served (hle : small ≤ large) (hr : ∀ r ∈ requests, r.Steady sources) :
    (served ρ small requests).Includes (served ρ large requests) := by
  induction requests using List.reverseRecOn with
  | nil => exact includes_new _ hle
  | append_singleton before r ih =>
    obtain ⟨hbefore, hlast⟩ := List.forall_mem_append.mp hr
    have hsteady : r.Steady sources := hlast r (List.mem_singleton.mpr rfl)
    have hi := ih hbefore
    rw [served, served, after_concat, after_concat, ← served, ← served]
    cases r with
    | find owner patterns text start =>
      obtain rfl : patterns = sources owner := hsteady
      apply hi.findBest
      rw [Bool.eq_iff_iff, refused_findBest_iff, refused_findBest_iff]
      refine and_congr_left fun hbad => not_congr ⟨fun hm => hi.owners.subset hm, fun hm => ?_⟩
      exact absurd (compile_of_mem_owners hbefore hm) hbad
    | evict owner => exact hi.evict owner
    | clear => exact hi.clear
    | resize capacity => exact hsteady.elim
    | setLog on => exact ⟨hi.capacity_le, hi.owners, hi.hits_le, hi.compilations_le⟩

/-- Two caches on new arenas serve the same requests, each scanner always with its own patterns, of
which some may be refused. After any number of the requests the smaller cache has the first of the
entries of the larger one, has had no more hits and has compiled no less often; and a search that
hits in the smaller cache hits in the larger one. As long as no slot shares its number with another,
the entries have the same expressions, too, and every search finds the same in both. -/
theorem smaller_cache_included (hle : small ≤ large) (hr : ∀ r ∈ requests, r.Steady sources) :
    (∀ before, before <+: requests →
      let c := served ρ small before
      let d := served ρ large before
      c.owners <+: d.owners ∧ c.counters.hits ≤ d.counters.hits ∧
        d.counters.compilations ≤ c.counters.compilations ∧
        (Fits ρ small before → Fits ρ large before → c.contents <+: d.contents)) ∧
    ∀ before owner patterns text start,
      before ++ [.find owner patterns text start] <+: requests →
      let c := served ρ small before
      let d := served ρ large before
      ((c.findBest owner patterns text start).2.counters.hits = c.counters.hits + 1 →
        (d.findBest owner patterns text start).2.counters.hits = d.counters.hits + 1) ∧
      (Fits ρ small (before ++ [.find owner patterns text start]) →
        Fits ρ large (before ++ [.find owner patterns text start]) →
        (c.findBest owner patterns text start).1 = (d.findBest owner patterns text start).1) := by
  constructor
  · intro before hbefore
    have hsteady : ∀ r ∈ before, r.Steady sources := fun r hm => hr r (hbefore.subset hm)
    have hi := includes_served (ρ := ρ) hle hsteady
    refine ⟨hi.owners, hi.hits_le, hi.compilations_le, fun hc hd => ?_⟩
    rw [contents_of_steady hsteady hc, contents_of_steady hsteady hd]
    exact hi.owners.map _
  · intro before owner patterns text start hbefore
    have hsteady : ∀ r ∈ before ++ [.find owner patterns text start], r.Steady sources :=
      fun r hm => hr r (hbefore.subset hm)
    obtain ⟨hearlier, hlast⟩ := List.forall_mem_append.mp hsteady
    obtain rfl : patterns = sources owner := hlast _ (List.mem_singleton.mpr rfl)
    have hi := includes_served (ρ := ρ) hle hearlier
    constructor
    · intro hhit
      rw [hits_findBest] at hhit ⊢
      have hm : owner ∈ (served ρ small before).owners := by
        by_contra hn
        rw [if_neg hn] at hhit
        omega
      rw [if_pos (hi.owners.subset hm)]
    · intro hc hd
      rw [find_of_steady hearlier hc, find_of_steady hearlier hd]

end

def someRefused (id : ScannerId) : List String := if id.number ≤ 2 then [""] else ["("]

def comingBack : List Request :=
  [.find ⟨1⟩ [""] #[] 0, .find ⟨2⟩ [""] #[] 0, .find ⟨3⟩ ["("] #[] 0, .find ⟨1⟩ [""] #[] 0,
    .evict ⟨1⟩, .find ⟨2⟩ [""] #[] 0]

/-- With room for one entry nothing is found in the cache, with room for two both come back. -/
theorem smaller_cache_included_coming_back :
    let c := served Pattern.Program 1 comingBack
    let d := served Pattern.Program 2 comingBack
    1 ≤ 2 ∧ (∀ r ∈ comingBack, r.Steady someRefused) ∧ Fits Pattern.Program 1 comingBack ∧
    Fits Pattern.Program 2 comingBack ∧ c.contents <+: d.contents ∧
    c.owners = [⟨2⟩] ∧ d.owners = [⟨2⟩] ∧ c.counters.hits = 0 ∧ d.counters.hits = 2 ∧
    d.counters.compilations = 2 ∧ c.counters.compilations = 4 := by
  have hr : ∀ r ∈ comingBack, r.Steady someRefused := by
    simp [comingBack, Request.Steady, someRefused]
  have hsmall : (served Pattern.Program 1 comingBack).engine.slots.size ≤ UInt32.size := by
    decide +kernel
  have hlarge : (served Pattern.Program 2 comingBack).engine.slots.size ≤ UInt32.size := by
    decide +kernel
  obtain ⟨hafter, -⟩ := smaller_cache_included (ρ := Pattern.Program) (Nat.le_succ 1) hr
  obtain ⟨-, -, -, hcontents⟩ := hafter comingBack List.prefix_rfl
  refine ⟨Nat.le_succ 1, hr, hsmall, hlarge, hcontents hsmall hlarge, ?_⟩
  decide +kernel

end PatternScan.Cache
