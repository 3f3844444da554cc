import PatternScan.Proofs.Cache.Failures

namespace PatternScan

def Counters.withoutFailures (n : Counters) : Counters := { n with releaseFailures := 0 }

theorem Counters.withoutFailures_eq_iff {n m : Counters} :
    n.withoutFailures = m.withoutFailures ↔ n.hits = m.hits ∧ n.misses = m.misses ∧
      n.compilations = m.compilations ∧ n.evictions = m.evictions := by
  simp [withoutFailures]

namespace Cache

variable {σ : Type}

def owners (c : Cache σ) : List ScannerId := c.entries.map Entry.owner

/-- An owner comes to the front, and those beyond the capacity go. -/
def promote (capacity : Nat) (ids : List ScannerId) (id : ScannerId) : List ScannerId :=
  (id :: ids.filter (· != id)).take capacity

variable {c : Cache σ} {owner : ScannerId}

theorem mem_owners_of_lookup {entry : Entry} (h : c.lookup? owner = some entry) :
    owner ∈ c.owners :=
  RecencyList.owner_of_peek h ▸ List.mem_map_of_mem (RecencyList.mem_of_peek h)

theorem notMem_owners_of_lookup (h : c.lookup? owner = none) : owner ∉ c.owners :=
  RecencyList.peek_eq_none_iff.mp h

theorem map_owner_others : (c.others owner).map Entry.owner = c.owners.filter (· != owner) := by
  simp only [owners, others, RecencyList.without, List.filter_map]
  rfl

theorem filter_owners_of_lookup (h : c.lookup? owner = none) :
    c.owners.filter (· != owner) = c.owners := by
  rw [← map_owner_others, others, RecencyList.without_eq_of_peek h]
  rfl

variable [Engine σ]

theorem owners_evict (c : Cache σ) (owner : ScannerId) :
    (c.evict owner).2.owners = c.owners.filter (· != owner) := by
  rw [owners, entries_evict, map_owner_others]

theorem owners_clear (c : Cache σ) : c.clear.2.owners = [] := by
  rw [owners, entries_clear]
  rfl

section

variable (c)

@[simp] theorem counters_release (hs : List Handle) :
    (c.release hs).2.counters.withoutFailures = c.counters.withoutFailures := by
  unfold release
  split
  · rfl
  · split <;> rfl

theorem counters_releaseAll (outcome : Except Failure Unit) (es : List Entry) :
    (c.releaseAll outcome es).2.counters.withoutFailures = c.counters.withoutFailures := by
  induction es generalizing c outcome with
  | nil => rfl
  | cons e rest ih => rw [releaseAll, ih, counters_release]

@[simp] theorem counters_compileFrom (index : Nat) (done : List Handle) (patterns : List String) :
    (c.compileFrom index done patterns).2.counters.withoutFailures =
      c.counters.withoutFailures := by
  induction patterns generalizing c index done with
  | nil => rfl
  | cons pattern rest ih =>
    unfold compileFrom
    split
    · exact ih _ _ _
    · exact counters_release _ _

theorem counters_evict (owner : ScannerId) : (c.evict owner).2.counters.withoutFailures =
    c.counters.withoutFailures := by
  unfold evict
  split
  · rfl
  · exact counters_release _ _

theorem counters_clear : c.clear.2.counters.withoutFailures = c.counters.withoutFailures := by
  rw [c.clear_eq (l := c.keep [] (List.nil_sublist _)) rfl rfl]
  exact counters_releaseAll _ _ _

theorem counters_resize {capacity : Nat} (h : capacity ≠ 0) :
    (c.resize capacity).2.counters.withoutFailures =
      { c.counters with
        evictions := c.counters.evictions + (c.size - capacity) }.withoutFailures := by
  rw [resize_eq c h, counters_releaseAll, countEvictions, List.length_drop]
  rfl

end

theorem counters_makeRoom : c.makeRoom.2.counters.withoutFailures =
    { c.counters with
      evictions := c.counters.evictions + (c.size + 1 - c.capacity) }.withoutFailures := by
  have hle : c.size ≤ c.capacity := c.length_le
  have hpos := c.capacity_pos
  unfold makeRoom
  split
  · have hone : c.size + 1 - c.capacity = 1 := by omega
    rw [hone]
    split
    · exact counters_release _ _
    · rename_i hp
      have hnil : c.entries = [] := List.getLast?_eq_none_iff.mp (congrArg Prod.fst hp)
      have hsize : c.size = 0 := congrArg List.length hnil
      omega
  · have hzero : c.size + 1 - c.capacity = 0 := by omega
    rw [hzero]
    rfl

/-- What a search leaves behind. Its scanner's entry was there and comes first now; or a pattern was
refused and the entries stay; or a new entry comes first, and the last one went if the cache was
full. -/
theorem findBest_cases (c : Cache σ) (owner : ScannerId) (patterns : List String)
    (text : Array UInt8) (start : Nat) :
    let (outcome, d) := c.findBest owner patterns text start
    (∃ entry, c.lookup? owner = some entry ∧ refused outcome = false ∧
      d.entries = entry :: c.others owner ∧
      d.counters = { c.counters with hits := c.counters.hits + 1 }) ∨
    (c.lookup? owner = none ∧ refused outcome = true ∧ d.entries = c.entries ∧
      d.counters.withoutFailures =
        { c.counters with misses := c.counters.misses + 1 }.withoutFailures) ∨
    (c.lookup? owner = none ∧ refused outcome = false ∧
      (∃ hs, d.entries = ⟨owner, hs⟩ :: c.entries.take (c.capacity - 1)) ∧
      d.counters.withoutFailures =
        { c.counters with
          misses := c.counters.misses + 1
          compilations := c.counters.compilations + 1
          evictions := c.counters.evictions + (c.size + 1 - c.capacity) }.withoutFailures) := by
  dsimp only
  rw [refused_findBest]
  obtain ⟨engine, hstate⟩ := c.findBest_state owner patterns text start
  rw [hstate]
  rcases c.ensureCompiled_cases owner patterns with
    ⟨entry, he, hr⟩ | ⟨hn, failure, d, hc, hr⟩ | ⟨hn, hs, d, hc, hr⟩
  · obtain rfl := RecencyList.owner_of_peek he
    rw [hr]
    exact Or.inl ⟨entry, he, rfl, RecencyList.entries_put_of_peek he, rfl⟩
  · have hcounters := counters_compileFrom c.countMiss 0 [] patterns
    rw [show c.countMiss.compileFrom 0 [] patterns = (.error failure, d) from hc] at hcounters
    obtain ⟨index, account, rfl⟩ := failure_of_compileFrom (congrArg Prod.fst hc)
    have hlist := c.list_of_compile hc
    rw [hr]
    exact Or.inr (Or.inl ⟨hn, rfl, congrArg RecencyList.entries hlist, hcounters⟩)
  · have hcounters := counters_compileFrom c.countMiss 0 [] patterns
    rw [show c.countMiss.compileFrom 0 [] patterns = (.ok hs, d) from hc] at hcounters
    have hlist := c.list_of_compile hc
    have hcount := d.countCompilation.counters_makeRoom
    rw [hr]
    refine Or.inr (Or.inr ⟨hn, ?_, ⟨hs, ?_⟩, ?_⟩)
    · rw [refused_map]
      exact releaseOnly_makeRoom.refused_eq_false
    · have hentries := d.countCompilation.entries_insert ⟨owner, hs⟩
        ((RecencyList.peek_congr (congrArg RecencyList.entries hlist)).trans hn)
      rw [hentries]
      change _ :: d.entries.take (d.capacity - 1) = _
      rw [hlist]
    · rw [Counters.withoutFailures_eq_iff] at hcounters hcount ⊢
      obtain ⟨hhits, hmisses, hcompilations, hevictions⟩ := hcounters
      obtain ⟨hhits', hmisses', hcompilations', hevictions'⟩ := hcount
      have hsize : d.countCompilation.size + 1 - d.countCompilation.capacity =
          c.size + 1 - c.capacity := by
        change d.entries.length + 1 - d.capacity = _
        rw [hlist]
        rfl
      rw [hsize] at hevictions'
      refine ⟨hhits'.trans hhits, hmisses'.trans hmisses, ?_, ?_⟩
      · exact hcompilations'.trans (congrArg (· + 1) hcompilations)
      · exact hevictions'.trans (congrArg (· + _) hevictions)

theorem owners_findBest (c : Cache σ) (owner : ScannerId) (patterns : List String)
    (text : Array UInt8) (start : Nat) :
    let (outcome, d) := c.findBest owner patterns text start
    d.owners = if refused outcome then c.owners else promote c.capacity c.owners owner := by
  have hpos := c.capacity_pos
  have hcases := findBest_cases c owner patterns text start
  dsimp only at hcases ⊢
  rcases hcases with ⟨entry, he, hr, hd, -⟩ | ⟨-, hr, hd, -⟩ | ⟨hn, hr, ⟨hs, hd⟩, -⟩
  · obtain rfl := RecencyList.owner_of_peek he
    have hlength : (entry :: c.others entry.owner).length ≤ c.capacity :=
      Nat.le_trans (Nat.le_of_eq (RecencyList.perm_of_peek he).length_eq) c.length_le
    rw [hr, owners, hd, promote, ← map_owner_others, List.take_of_length_le]
    · rfl
    · simpa using hlength
  · rw [hr, owners, hd]
    rfl
  · rw [hr, owners, hd, promote, filter_owners_of_lookup hn, owners, List.map_cons, List.map_take]
    cases hc : c.capacity with
    | zero => omega
    | succ room => rfl

theorem hits_findBest (c : Cache σ) (owner : ScannerId) (patterns : List String)
    (text : Array UInt8) (start : Nat) :
    (c.findBest owner patterns text start).2.counters.hits =
      c.counters.hits + if owner ∈ c.owners then 1 else 0 := by
  have hcases := findBest_cases c owner patterns text start
  dsimp only at hcases
  rcases hcases with ⟨entry, he, -, -, hd⟩ | ⟨hn, -, -, hd⟩ | ⟨hn, -, -, hd⟩
  · rw [hd, if_pos (mem_owners_of_lookup he)]
  · rw [if_neg (notMem_owners_of_lookup hn)]
    exact (Counters.withoutFailures_eq_iff.mp hd).1
  · rw [if_neg (notMem_owners_of_lookup hn)]
    exact (Counters.withoutFailures_eq_iff.mp hd).1

theorem misses_findBest (c : Cache σ) (owner : ScannerId) (patterns : List String)
    (text : Array UInt8) (start : Nat) :
    (c.findBest owner patterns text start).2.counters.misses =
      c.counters.misses + if owner ∈ c.owners then 0 else 1 := by
  have hcases := findBest_cases c owner patterns text start
  dsimp only at hcases
  rcases hcases with ⟨entry, he, -, -, hd⟩ | ⟨hn, -, -, hd⟩ | ⟨hn, -, -, hd⟩
  · rw [hd, if_pos (mem_owners_of_lookup he)]
    rfl
  · rw [if_neg (notMem_owners_of_lookup hn)]
    exact (Counters.withoutFailures_eq_iff.mp hd).2.1
  · rw [if_neg (notMem_owners_of_lookup hn)]
    exact (Counters.withoutFailures_eq_iff.mp hd).2.1

theorem compilations_findBest (c : Cache σ) (owner : ScannerId) (patterns : List String)
    (text : Array UInt8) (start : Nat) :
    let (outcome, d) := c.findBest owner patterns text start
    d.counters.compilations =
      c.counters.compilations + if owner ∈ c.owners ∨ refused outcome = true then 0 else 1 := by
  have hcases := findBest_cases c owner patterns text start
  dsimp only at hcases ⊢
  rcases hcases with ⟨entry, he, -, -, hd⟩ | ⟨-, hr, -, hd⟩ | ⟨hn, hr, -, hd⟩
  · rw [hd, if_pos (Or.inl (mem_owners_of_lookup he))]
    rfl
  · rw [if_pos (Or.inr hr)]
    exact (Counters.withoutFailures_eq_iff.mp hd).2.2.1
  · have hnot : ¬ (owner ∈ c.owners ∨ refused (c.findBest owner patterns text start).1 = true) := by
      rw [hr]
      simpa using notMem_owners_of_lookup hn
    rw [if_neg hnot]
    exact (Counters.withoutFailures_eq_iff.mp hd).2.2.1

theorem capacity_findBest (patterns : List String) (text : Array UInt8) (start : Nat) :
    (c.findBest owner patterns text start).2.capacity = c.capacity := by
  obtain ⟨engine, hstate⟩ := c.findBest_state owner patterns text start
  rw [hstate]
  rcases c.ensureCompiled_cases owner patterns with
    ⟨entry, he, hr⟩ | ⟨hn, failure, d, hc, hr⟩ | ⟨hn, hs, d, hc, hr⟩
  · rw [hr]
    rfl
  · have hlist := c.list_of_compile hc
    rw [hr]
    exact congrArg RecencyList.capacity hlist
  · have hlist := c.list_of_compile hc
    rw [hr]
    exact (capacity_makeRoom d.countCompilation).trans (congrArg RecencyList.capacity hlist)

end Cache
end PatternScan
