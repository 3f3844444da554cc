import PatternScan.Proofs.Cache.RecencyList
import PatternScan.Proofs.Cache.Requests

namespace PatternScan.Cache

variable {σ : Type}

def handles (c : Cache σ) : List Handle := c.entries.flatMap Entry.handles

variable {c : Cache σ} {owner : ScannerId} {entry : Entry}

theorem contains_eq_isSome (c : Cache σ) (owner : ScannerId) :
    c.contains owner = (c.lookup? owner).isSome := List.isSome_find?.symm

theorem countEvictions_countEvictions (c : Cache σ) (n m : Nat) :
    (c.countEvictions n).countEvictions m = c.countEvictions (n + m) := by
  simp only [countEvictions, Nat.add_assoc]

section

variable [Engine σ] (c : Cache σ) (owner : ScannerId)

@[simp] theorem list_release (hs : List Handle) :
    (c.release hs).2.toRecencyList = c.toRecencyList := by
  unfold release
  split
  · rfl
  · split <;> rfl

theorem engine_release {hs : List Handle} (h : hs ≠ []) :
    (c.release hs).2.engine = (Engine.dispose c.engine hs).2 := by
  unfold release
  rw [if_neg (by simpa using h)]
  split <;> simp_all [countReleaseFailure]

theorem release_relisted (l : RecencyList) (evicted : Nat) (hs : List Handle) :
    (countEvictions { c with toRecencyList := l } evicted).release hs =
      ((c.release hs).1, countEvictions { (c.release hs).2 with toRecencyList := l } evicted) := by
  unfold release
  split
  · rfl
  · simp only [countEvictions]
    split <;> rfl

/-- Hands entries back that are no longer in the list, all of them even if some fail. -/
def releaseAll (c : Cache σ) (outcome : Except Failure Unit) :
    List Entry → Except Failure Unit × Cache σ
  | [] => (outcome, c)
  | entry :: rest =>
    let (released, c) := c.release entry.handles
    releaseAll c (firstFailure outcome released) rest

@[simp] theorem list_releaseAll (outcome : Except Failure Unit) (es : List Entry) :
    (c.releaseAll outcome es).2.toRecencyList = c.toRecencyList := by
  induction es generalizing c outcome with
  | nil => rfl
  | cons e rest ih => rw [releaseAll, ih, list_release]

theorem releaseAll_relisted (l : RecencyList) (evicted : Nat) (outcome : Except Failure Unit)
    (es : List Entry) :
    (countEvictions { c with toRecencyList := l } evicted).releaseAll outcome es =
      ((c.releaseAll outcome es).1,
        countEvictions { (c.releaseAll outcome es).2 with toRecencyList := l } evicted) := by
  induction es generalizing c outcome with
  | nil => rfl
  | cons e rest ih =>
    simp only [releaseAll, release_relisted]
    exact ih _ _

/-- Entries that are popped one after the other might as well be taken out together, and then handed
back. -/
theorem releaseLast_eq (counted : Nat) (outcome : Except Failure Unit) {count left : Nat}
    (hsize : c.size = left + count) {l : RecencyList} (he : l.entries = c.entries.take left)
    (hc : l.capacity = c.capacity) :
    c.releaseLast counted outcome count =
      (countEvictions { c with toRecencyList := l } (counted * count)).releaseAll outcome
        (c.entries.drop left).reverse := by
  induction count generalizing c outcome with
  | zero =>
    have hall : c.entries.length ≤ left := Nat.le_of_eq hsize
    obtain rfl : l = c.toRecencyList :=
      RecencyList.ext (he.trans (List.take_of_length_le hall)) hc
    rw [List.drop_of_length_le hall]
    rfl
  | succ count ih =>
    have hne : c.entries ≠ [] := List.ne_nil_of_length_eq_add_one hsize
    obtain ⟨init, e, hinit⟩ := (List.eq_nil_or_concat' c.entries).resolve_left hne
    obtain ⟨rest, hpop, hrest⟩ : ∃ rest, c.popLast = (some e, rest) ∧ rest.entries = init := by
      refine ⟨_, Prod.ext ?_ rfl, ?_⟩
      · simp [RecencyList.popLast, hinit]
      · simp [RecencyList.popLast, RecencyList.keep, hinit]
    have hlength : init.length = left + count := by
      have hall : init.length + 1 = left + (count + 1) := by simpa [size, hinit] using hsize
      omega
    have htake : l.entries = init.take left := by
      rw [he, hinit, List.take_append_of_le_length (by omega)]
    have hdrop : (c.entries.drop left).reverse = e :: (init.drop left).reverse := by
      rw [hinit, List.drop_append_of_le_length (by omega), List.reverse_append]
      rfl
    have hwhole : counted * (count + 1) = counted + counted * count := by
      rw [Nat.mul_succ, Nat.add_comm]
    have hcapacity : rest.capacity = c.capacity := by
      have := congrArg (fun r => r.2.capacity) hpop
      exact this.symm
    subst hrest
    rw [releaseLast, hpop, hdrop, releaseAll]
    simp only [release_relisted]
    rw [hwhole, ← countEvictions_countEvictions]
    exact ih (countEvictions { (c.release e.handles).2 with toRecencyList := rest } counted)
      (firstFailure outcome (c.release e.handles).1) hlength htake (hc.trans hcapacity.symm)

theorem clear_eq {l : RecencyList} (he : l.entries = []) (hc : l.capacity = c.capacity) :
    c.clear = releaseAll { c with toRecencyList := l } (.ok ()) c.entries.reverse := by
  rw [clear, c.releaseLast_eq 0 _ (Nat.zero_add _).symm he hc, Nat.zero_mul]
  rfl

theorem resize_eq {capacity : Nat} (h : capacity ≠ 0) :
    c.resize capacity = releaseAll
      (countEvictions
        { c with toRecencyList := c.toRecencyList.resize capacity (Nat.pos_of_ne_zero h) }
        (c.entries.drop capacity).length)
      (.ok ()) (c.entries.drop capacity).reverse := by
  have hleft : c.size = min capacity c.size + (c.size - capacity) := by omega
  -- the list of this capacity is cut from what is left when the others are popped
  let kept := c.keep (c.entries.take capacity) (List.take_sublist _ _)
  have hlast := c.releaseLast_eq 1 (.ok ()) hleft (l := kept) List.take_eq_take_min rfl
  have hkept : kept.resize capacity (Nat.pos_of_ne_zero h) =
      c.toRecencyList.resize capacity (Nat.pos_of_ne_zero h) :=
    RecencyList.ext (List.take_take.trans (by rw [Nat.min_self]; rfl)) rfl
  have hdrop : c.entries.drop (min capacity c.size) = c.entries.drop capacity :=
    List.drop_eq_drop_min.symm
  rw [resize, dif_neg h, hlast, hdrop, releaseAll_relisted, releaseAll_relisted, List.length_drop,
    Nat.one_mul, ← hkept]
  rfl

theorem list_evict : (c.evict owner).2.toRecencyList = (c.pop owner).2 := by
  unfold evict
  cases hp : c.peek owner with
  | none =>
    simp only [RecencyList.pop, hp]
    exact RecencyList.ext (RecencyList.without_eq_of_peek hp).symm rfl
  | some entry =>
    simp only [RecencyList.pop, hp]
    exact list_release _ _

theorem entries_evict : (c.evict owner).2.entries = c.others owner :=
  congrArg RecencyList.entries (c.list_evict owner)

theorem list_clear : c.clear.2.toRecencyList = c.keep [] (List.nil_sublist _) := by
  rw [c.clear_eq (l := c.keep [] (List.nil_sublist _)) rfl rfl]
  exact list_releaseAll _ _ _

theorem entries_clear : c.clear.2.entries = [] := congrArg RecencyList.entries c.list_clear

theorem capacity_clear : c.clear.2.capacity = c.capacity :=
  (congrArg RecencyList.capacity c.list_clear).trans rfl

theorem list_resize {capacity : Nat} (h : capacity ≠ 0) : (c.resize capacity).2.toRecencyList =
    c.toRecencyList.resize capacity (Nat.pos_of_ne_zero h) := by
  rw [resize_eq c h]
  exact list_releaseAll _ _ _

theorem entries_resize {capacity : Nat} (h : capacity ≠ 0) :
    (c.resize capacity).2.entries = c.entries.take capacity :=
  congrArg RecencyList.entries (c.list_resize h)

theorem capacity_resize {capacity : Nat} (h : capacity ≠ 0) :
    (c.resize capacity).2.capacity = capacity :=
  congrArg RecencyList.capacity (c.list_resize h)

@[simp] theorem list_compileFrom (index : Nat) (done : List Handle) (patterns : List String) :
    (c.compileFrom index done patterns).2.toRecencyList = c.toRecencyList := by
  induction patterns generalizing c index done with
  | nil => rfl
  | cons pattern rest ih =>
    unfold compileFrom
    split
    · exact ih _ _ _
    · exact list_release _ _

theorem list_of_compile {d : Cache σ} {patterns : List String}
    {result : Except Failure (List Handle)} (h : c.countMiss.compile patterns = (result, d)) :
    d.toRecencyList = c.toRecencyList := by
  have hl := list_compileFrom c.countMiss 0 [] patterns
  rw [← compile, h] at hl
  exact hl

theorem list_makeRoom : c.makeRoom.2.toRecencyList =
    if c.capacity ≤ c.size then c.popLast.2 else c.toRecencyList := by
  unfold makeRoom
  split
  · rcases hp : c.popLast with ⟨_ | entry, rest⟩
    · have hnil : c.entries = [] := List.getLast?_eq_none_iff.mp (congrArg Prod.fst hp)
      obtain rfl : c.popLast.2 = rest := congrArg Prod.snd hp
      exact RecencyList.ext (by simp [RecencyList.popLast, RecencyList.keep, hnil]) rfl
    · exact list_release _ _
  · rfl

theorem capacity_makeRoom : c.makeRoom.2.capacity = c.capacity := by
  rw [list_makeRoom]
  split <;> rfl

theorem entries_makeRoom : c.makeRoom.2.entries = c.entries.take (c.capacity - 1) := by
  have hle := c.length_le
  rw [list_makeRoom]
  split
  · rename_i hfull
    have hsize : c.entries.length = c.capacity := Nat.le_antisymm hle hfull
    rw [← hsize, ← List.dropLast_eq_take]
    rfl
  · rename_i hroom
    exact (List.take_of_length_le (Nat.le_sub_one_of_lt (Nat.not_le.mp hroom))).symm

theorem entries_insert (entry : Entry) (hn : c.lookup? entry.owner = none) :
    (c.insert entry).2.entries = entry :: c.entries.take (c.capacity - 1) := by
  have hpos := c.capacity_pos
  have habsent : c.makeRoom.2.peek entry.owner = none := by
    rw [RecencyList.peek_eq_none_iff, entries_makeRoom]
    exact fun hm => RecencyList.peek_eq_none_iff.mp hn
      (((List.take_sublist _ _).map Entry.owner).subset hm)
  have hroom : c.makeRoom.2.entries.length < c.makeRoom.2.capacity := by
    rw [entries_makeRoom, capacity_makeRoom]
    exact Nat.lt_of_le_of_lt (List.length_take_le _ _) (Nat.sub_one_lt_of_lt hpos)
  rw [insert, ← entries_makeRoom]
  exact RecencyList.entries_put_new entry habsent hroom

/-- The ways a scanner's patterns come to be compiled: its entry was there and now comes first, or a
pattern failed and the entries stay, or the new entry was stored and the last one made room. -/
theorem ensureCompiled_cases (patterns : List String) :
    (∃ entry, c.lookup? owner = some entry ∧ c.ensureCompiled owner patterns =
      (.ok entry.handles, countHit { c with toRecencyList := c.put entry })) ∨
    (c.lookup? owner = none ∧ ∃ failure d, c.countMiss.compile patterns = (.error failure, d) ∧
      c.ensureCompiled owner patterns = (.error failure, d)) ∨
    (c.lookup? owner = none ∧ ∃ hs d, c.countMiss.compile patterns = (.ok hs, d) ∧
      c.ensureCompiled owner patterns =
        ((d.countCompilation.insert ⟨owner, hs⟩).1.map fun _ => hs,
          (d.countCompilation.insert ⟨owner, hs⟩).2)) := by
  unfold ensureCompiled
  cases he : c.lookup? owner with
  | some entry =>
    rw [RecencyList.get_of_peek he]
    exact Or.inl ⟨entry, rfl, rfl⟩
  | none =>
    rw [RecencyList.get_of_peek_eq_none he]
    rcases hc : c.countMiss.compile patterns with ⟨failure | hs, d⟩
    · exact Or.inr (Or.inl ⟨rfl, failure, d, rfl, rfl⟩)
    · exact Or.inr (Or.inr ⟨rfl, hs, d, rfl, rfl⟩)

theorem lookup_ensureCompiled {patterns : List String} {hs : List Handle} {d : Cache σ}
    (h : c.ensureCompiled owner patterns = (.ok hs, d)) : d.lookup? owner = some ⟨owner, hs⟩ := by
  rcases c.ensureCompiled_cases owner patterns with
    ⟨entry, he, hr⟩ | ⟨-, failure, e, -, hr⟩ | ⟨-, handles, e, -, hr⟩
  · obtain rfl := RecencyList.owner_of_peek he
    cases hr.symm.trans h
    exact c.peek_put entry
  · cases hr.symm.trans h
  · rw [hr] at h
    obtain ⟨hmap, rfl⟩ := Prod.ext_iff.mp h
    cases ho : (e.countCompilation.insert ⟨owner, handles⟩).1 with
    | error failure =>
      rw [ho] at hmap
      cases hmap
    | ok _ =>
      rw [ho] at hmap
      cases hmap
      exact e.countCompilation.makeRoom.2.peek_put ⟨owner, handles⟩

def answered : Except Status (Option Found) × σ → Except Failure (Option Found)
  | (.ok found, _) => .ok found
  | (.error _, engine) => .error (.searching (account engine))

/-- The last part of a search: the engine is asked. -/
def searched (c : Cache σ) (hs : List Handle) (text : Array UInt8) (start : Nat) :
    Except Failure (Option Found) × Cache σ :=
  let answer := Engine.findBest c.engine hs text start
  (answered answer, { c with engine := answer.2 })

/-- Compiled patterns are never missed when they are looked up again. -/
theorem findBest_eq (patterns : List String) (text : Array UInt8) (start : Nat) :
    c.findBest owner patterns text start =
      match c.ensureCompiled owner patterns with
      | (.error failure, c) => (.error failure, c)
      | (.ok hs, c) => c.searched hs text start := by
  unfold findBest searched
  rcases hc : c.ensureCompiled owner patterns with ⟨failure | hs, d⟩
  · rfl
  · simp only [lookup_ensureCompiled c owner hc]
    rcases Engine.findBest d.engine hs text start with ⟨status | found, engine⟩ <;> rfl

theorem findBest_state (patterns : List String) (text : Array UInt8) (start : Nat) :
    ∃ engine, (c.findBest owner patterns text start).2 =
      { (c.ensureCompiled owner patterns).2 with engine } := by
  rw [findBest_eq]
  rcases c.ensureCompiled owner patterns with ⟨failure | hs, d⟩
  · exact ⟨d.engine, rfl⟩
  · exact ⟨_, rfl⟩

end

end PatternScan.Cache
