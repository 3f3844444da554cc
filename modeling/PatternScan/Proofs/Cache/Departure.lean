import Mathlib.Data.List.Nodup
import PatternScan.Proofs.Cache.HandBack
import PatternScan.Proofs.Cache.Recency

namespace PatternScan

def batches (calls : List EngineEvent) : List (List Handle) :=
  calls.filterMap fun
    | .dispose hs _ => some hs
    | _ => none

theorem batches_append (calls more : List EngineEvent) :
    batches (calls ++ more) = batches calls ++ batches more := List.filterMap_append

namespace Cache

def Request.SearchesFor (owner : ScannerId) : Request → Prop
  | .find id _ _ _ => id = owner
  | _ => False

section

variable {σ : Type} {c : Cache σ} {r : Request} {e : Entry} {owner : ScannerId}

theorem contains_iff_mem_owners : c.contains owner = true ↔ owner ∈ c.owners := by
  simp [contains, owners]

theorem contains_of_mem (he : e ∈ c.entries) : c.contains e.owner = true :=
  contains_iff_mem_owners.mpr (List.mem_map_of_mem he)

theorem count_entry (he : e ∈ c.entries) : c.entries.count e = 1 :=
  List.count_eq_one_of_mem (List.Nodup.of_map _ c.owners_nodup) he

variable [Engine σ]

/-- The entries that a request lets go, the one used longest ago first. -/
def departed (c : Cache σ) (r : Request) : List Entry :=
  c.entries.reverse.filter fun e => !(c.serve r).2.contains e.owner

def departures (c : Cache σ) : List Request → List Entry
  | [] => []
  | r :: rest => c.departed r ++ departures (c.serve r).2 rest

theorem mem_entries_serve (he : e ∈ (c.serve r).2.entries) :
    e ∈ c.entries ∨ r.SearchesFor e.owner := by
  cases r with
  | find id patterns text start =>
    have hcases := findBest_cases c id patterns text start
    change e ∈ (c.findBest id patterns text start).2.entries at he
    dsimp only at hcases
    rcases hcases with ⟨entry, hl, -, hd, -⟩ | ⟨-, -, hd, -⟩ | ⟨-, -, ⟨hs, hd⟩, -⟩
    · rw [hd] at he
      exact Or.inl ((RecencyList.perm_of_peek hl).subset he)
    · exact Or.inl (hd ▸ he)
    · rw [hd] at he
      rcases List.mem_cons.mp he with rfl | he
      · exact Or.inr rfl
      · exact Or.inl (List.mem_of_mem_take he)
  | evict id =>
    change e ∈ (c.evict id).2.entries at he
    rw [entries_evict] at he
    exact Or.inl ((List.mem_filter.mp he).1)
  | clear =>
    change e ∈ c.clear.2.entries at he
    rw [entries_clear] at he
    cases he
  | resize capacity =>
    change e ∈ (c.resize capacity).2.entries at he
    by_cases h : capacity = 0
    · subst h
      exact Or.inl he
    · rw [entries_resize c h] at he
      exact Or.inl (List.mem_of_mem_take he)
  | setLog on => exact Or.inl he

/-- An entry whose scanner does not search stays or goes, and if it goes, nothing of its owner
stays. -/
theorem stays_or_departs (he : e ∈ c.entries) (hr : ¬ r.SearchesFor e.owner) :
    (e ∈ (c.serve r).2.entries ∧ (c.departed r).count e = 0) ∨
    (e.owner ∉ (c.serve r).2.owners ∧ (c.departed r).count e = 1) := by
  by_cases ho : e.owner ∈ (c.serve r).2.owners
  · have hc : (c.serve r).2.contains e.owner = true := contains_iff_mem_owners.mpr ho
    obtain ⟨d, hd, hsame⟩ := List.mem_map.mp ho
    have hold : d ∈ c.entries := by
      rcases mem_entries_serve hd with hold | hs
      · exact hold
      · exact absurd (hsame ▸ hs) hr
    obtain rfl := RecencyList.eq_of_owner hold he hsame
    refine Or.inl ⟨hd, List.count_eq_zero_of_not_mem ?_⟩
    intro hm
    simp [departed, hc] at hm
  · have hc : (c.serve r).2.contains e.owner = false := by
      rw [← Bool.not_eq_true, contains_iff_mem_owners]
      exact ho
    refine Or.inr ⟨ho, ?_⟩
    rw [departed, List.count_filter (by rw [hc]; rfl), List.count_reverse, count_entry he]

theorem notMem_owners_serve (ho : owner ∉ c.owners) (hr : ¬ r.SearchesFor owner) :
    owner ∉ (c.serve r).2.owners := by
  intro hm
  obtain ⟨e, he, rfl⟩ := List.mem_map.mp hm
  rcases mem_entries_serve he with hold | hs
  · exact ho (List.mem_map_of_mem hold)
  · exact hr hs

theorem count_departures_of_notMem {requests : List Request}
    (he : e.owner ∉ c.owners) (hr : ∀ r ∈ requests, ¬ r.SearchesFor e.owner) :
    (c.departures requests).count e + (c.after requests).entries.count e = 0 := by
  induction requests generalizing c with
  | nil =>
    have hnot : e ∉ c.entries := fun hm => he (List.mem_map_of_mem hm)
    exact (Nat.zero_add _).trans (List.count_eq_zero_of_not_mem hnot)
  | cons r rest ih =>
    obtain ⟨hfirst, hrest⟩ := List.forall_mem_cons.mp hr
    have hnot : e ∉ c.departed r := by
      intro hm
      exact he (List.mem_map_of_mem (List.mem_reverse.mp (List.mem_filter.mp hm).1))
    rw [departures, List.count_append, List.count_eq_zero_of_not_mem hnot, Nat.zero_add]
    exact ih (notMem_owners_serve he hfirst) hrest

/-- An entry whose scanner searches no more is still there or was let go, and that once. -/
theorem count_departures {requests : List Request} (he : e ∈ c.entries)
    (hr : ∀ r ∈ requests, ¬ r.SearchesFor e.owner) :
    (c.departures requests).count e + (c.after requests).entries.count e = 1 := by
  induction requests generalizing c with
  | nil => exact (Nat.zero_add _).trans (count_entry he)
  | cons r rest ih =>
    obtain ⟨hfirst, hrest⟩ := List.forall_mem_cons.mp hr
    rw [departures, List.count_append, after_cons]
    rcases stays_or_departs he hfirst with ⟨hm, hzero⟩ | ⟨hgone, hone⟩
    · have hlater := ih hm hrest
      omega
    · have hlater := count_departures_of_notMem hgone hrest
      omega

theorem departed_of_take {n : Nat}
    (h : ∀ e ∈ c.entries, (c.serve r).2.contains e.owner = true ↔ e ∈ c.entries.take n) :
    c.departed r = (c.entries.drop n).reverse := by
  have hsplit : c.entries.reverse = (c.entries.drop n).reverse ++ (c.entries.take n).reverse := by
    rw [← List.reverse_append, List.take_append_drop]
  have hdisjoint : ∀ e ∈ c.entries.drop n, e ∉ c.entries.take n := by
    intro e hd hm
    have hnodup : (c.entries.take n ++ c.entries.drop n).Nodup := by
      rw [List.take_append_drop]
      exact List.Nodup.of_map _ c.owners_nodup
    exact (List.nodup_append.mp hnodup).2.2 e hm e hd rfl
  rw [departed, hsplit, List.filter_append, List.filter_eq_self.mpr, List.filter_eq_nil_iff.mpr,
    List.append_nil]
  · intro e hm
    have hm := List.mem_reverse.mp hm
    simp [(h e (List.mem_of_mem_take hm)).mpr hm]
  · intro e hm
    have hm := List.mem_reverse.mp hm
    have hnot := mt (h e (List.mem_of_mem_drop hm)).mp (hdisjoint e hm)
    simpa using hnot

theorem departed_of_all (h : ∀ e ∈ c.entries, (c.serve r).2.contains e.owner = true) :
    c.departed r = [] := by
  apply List.filter_eq_nil_iff.mpr
  intro e hm
  simp [h e (List.mem_reverse.mp hm)]

theorem departed_of_subset (h : ∀ e ∈ c.entries, e ∈ (c.serve r).2.entries) :
    c.departed r = [] :=
  departed_of_all fun e he => contains_of_mem (h e he)

theorem departed_evict (c : Cache σ) (id : ScannerId) :
    c.departed (.evict id) = (c.lookup? id).toList := by
  have hothers : (c.serve (.evict id)).2.entries = c.others id := entries_evict c id
  cases hl : c.lookup? id with
  | none =>
    apply departed_of_subset
    intro e he
    rw [hothers, others, RecencyList.without_eq_of_peek hl]
    exact he
  | some entry =>
    have hp : c.entries.reverse.Perm (entry :: c.others id) :=
      c.entries.reverse_perm.trans (RecencyList.perm_of_peek hl).symm
    have hgone : (c.serve (.evict id)).2.contains entry.owner = false := by
      rw [← Bool.not_eq_true, contains_iff_mem_owners, owners, hothers,
        RecencyList.owner_of_peek hl]
      simp [others, RecencyList.without]
    have hkept :
        (c.others id).filter (fun e => !(c.serve (.evict id)).2.contains e.owner) = [] := by
      apply List.filter_eq_nil_iff.mpr
      intro e he
      simp [contains_of_mem (hothers ▸ he)]
    have hone := hp.filter fun e => !(c.serve (.evict id)).2.contains e.owner
    rw [List.filter_cons_of_pos (by simpa using hgone), hkept] at hone
    exact List.perm_singleton.mp hone

theorem departed_clear (c : Cache σ) : c.departed .clear = c.entries.reverse := by
  have hnone : (c.serve .clear).2.entries = [] := entries_clear c
  rw [departed_of_take (n := 0), List.drop_zero]
  intro e _
  simp [contains, hnone]

theorem departed_resize (c : Cache σ) {capacity : Nat} (h : capacity ≠ 0) :
    c.departed (.resize capacity) = (c.entries.drop capacity).reverse := by
  have htake : (c.serve (.resize capacity)).2.entries = c.entries.take capacity :=
    entries_resize c h
  apply departed_of_take
  intro e he
  rw [contains_iff_mem_owners, owners, htake]
  constructor
  · intro hm
    obtain ⟨d, hd, ho⟩ := List.mem_map.mp hm
    exact RecencyList.eq_of_owner (List.mem_of_mem_take hd) he ho ▸ hd
  · exact List.mem_map_of_mem

theorem departed_find (c : Cache σ) (id : ScannerId) (patterns : List String) (text : Array UInt8)
    (start : Nat) : c.departed (.find id patterns text start) =
      if id ∈ c.owners ∨ refused (c.findBest id patterns text start).1 = true then []
      else (c.entries.drop (c.capacity - 1)).reverse := by
  have hcases := findBest_cases c id patterns text start
  dsimp only at hcases
  rcases hcases with ⟨entry, hl, -, hd, -⟩ | ⟨-, hr, hd, -⟩ | ⟨hl, hr, ⟨hs, hd⟩, -⟩
  · rw [if_pos (Or.inl (mem_owners_of_lookup hl))]
    apply departed_of_subset
    intro e he
    change e ∈ (c.findBest id patterns text start).2.entries
    rw [hd]
    exact (RecencyList.perm_of_peek hl).symm.subset he
  · rw [if_pos (Or.inr hr)]
    apply departed_of_subset
    intro e he
    change e ∈ (c.findBest id patterns text start).2.entries
    rw [hd]
    exact he
  · have hnew : id ∉ c.owners := notMem_owners_of_lookup hl
    rw [if_neg (by simp [hnew, hr])]
    apply departed_of_take
    intro e he
    change (c.findBest id patterns text start).2.contains e.owner = true ↔ _
    rw [contains_iff_mem_owners, owners, hd, List.map_cons, List.mem_cons]
    constructor
    · rintro (ho | hm)
      · have hmem : e.owner ∈ c.owners := List.mem_map_of_mem he
        rw [ho] at hmem
        exact absurd hmem hnew
      · obtain ⟨d, hm, ho⟩ := List.mem_map.mp hm
        exact RecencyList.eq_of_owner (List.mem_of_mem_take hm) he ho ▸ hm
    · intro hm
      exact Or.inr (List.mem_map_of_mem hm)

end

section

variable {σ : Type} {c d e : Cache (Recorded σ)} {calls more : List EngineEvent}
  {given others : List (List Handle)}

/-- The engine got calls. Among them were hand-backs of these batches, without the empty ones. -/
structure Called (c d : Cache (Recorded σ)) (calls : List EngineEvent)
    (given : List (List Handle)) : Prop where
  log : d.engine.log = c.engine.log ++ calls
  batches : batches calls = given.filter (!·.isEmpty)

theorem called_nothing (he : d.engine = c.engine) : c.Called d [] [] :=
  ⟨(congrArg Recorded.log he).trans (List.append_nil _).symm, rfl⟩

theorem Called.trans (hc : c.Called d calls given) (hd : d.Called e more others) :
    c.Called e (calls ++ more) (given ++ others) := by
  constructor
  · rw [hd.log, hc.log, List.append_assoc]
  · rw [batches_append, hc.batches, hd.batches, List.filter_append]

theorem Called.congr (hc : c.Called d calls given) {c' d' : Cache (Recorded σ)}
    (he : c'.engine = c.engine) (he' : d'.engine = d.engine) : c'.Called d' calls given :=
  ⟨by rw [he, he']; exact hc.log, hc.batches⟩

/-- What a search gives back if a pattern was refused: all that it got from these calls. -/
def spoiled (calls : List EngineEvent) : Bool → List (List Handle)
  | true => [handedOut calls]
  | false => []

theorem spoiled_concat_findBest (handles : List Handle) (text : Array UInt8) (start : Nat)
    (outcome : Except Status (Option Found)) (refusal : Bool) :
    spoiled (calls ++ [.findBest handles text start outcome]) refusal = spoiled calls refusal := by
  cases refusal with
  | true => simp [spoiled, handedOut, EngineEvent.handedOut]
  | false => rfl

theorem called_without_refusal {refusal : Bool} (hr : refusal = false)
    (h : ∃ calls, c.Called d calls given) :
    ∃ calls, c.Called d calls (given ++ spoiled calls refusal) := by
  obtain ⟨calls, hcalls⟩ := h
  refine ⟨calls, ?_⟩
  rw [hr, spoiled, List.append_nil]
  exact hcalls

variable [Engine σ]

theorem called_release (c : Cache (Recorded σ)) (hs : List Handle) :
    ∃ calls, c.Called (c.release hs).2 calls [hs] ∧ handedOut calls = [] := by
  by_cases hempty : hs = []
  · subst hempty
    exact ⟨[], ⟨(List.append_nil _).symm, rfl⟩, rfl⟩
  · refine ⟨[.dispose hs (Engine.dispose c.engine hs).1], ⟨?_, ?_⟩, rfl⟩
    · rw [engine_release c hempty]
      exact c.engine.log_dispose hs
    · simp [batches, hempty]

theorem called_releaseAll (c : Cache (Recorded σ)) (outcome : Except Failure Unit)
    (es : List Entry) :
    ∃ calls, c.Called (c.releaseAll outcome es).2 calls (es.map Entry.handles) := by
  induction es generalizing c outcome with
  | nil => exact ⟨[], called_nothing rfl⟩
  | cons entry rest ih =>
    obtain ⟨first, hfirst, -⟩ := c.called_release entry.handles
    obtain ⟨more, hmore⟩ := ih (c.release entry.handles).2 _
    exact ⟨first ++ more, hfirst.trans hmore⟩

def abandoned {α : Type} (done : List Handle) (calls : List EngineEvent) :
    Except Failure α → List (List Handle)
  | .ok _ => []
  | .error _ => [done.reverse ++ handedOut calls]

theorem abandoned_cons (done : List Handle) (handle : Handle) (pattern : List UInt8)
    (calls : List EngineEvent) (outcome : Except Failure (List Handle)) :
    abandoned done (.compile pattern (.ok handle) :: calls) outcome =
      abandoned (handle :: done) calls outcome := by
  cases outcome with
  | ok hs => rfl
  | error failure =>
    simp [abandoned, handedOut, EngineEvent.handedOut]

theorem called_compileFrom (c : Cache (Recorded σ)) (index : Nat) (done : List Handle)
    (patterns : List String) :
    ∃ calls, c.Called (c.compileFrom index done patterns).2 calls
      (abandoned done calls (c.compileFrom index done patterns).1) := by
  induction patterns generalizing c index done with
  | nil => exact ⟨[], called_nothing rfl⟩
  | cons pattern rest ih =>
    have hlog := c.engine.log_compile (patternBytes pattern)
    rw [compileFrom]
    rcases hc : Engine.compile c.engine (patternBytes pattern) with ⟨status | handle, engine⟩
    · rw [hc] at hlog
      have hasked :
          c.Called { c with engine } [.compile (patternBytes pattern) (.error status)] [] :=
        ⟨hlog, rfl⟩
      obtain ⟨calls, hcalls, hnone⟩ := called_release { c with engine } done.reverse
      have hout : handedOut (.compile (patternBytes pattern) (.error status) :: calls) = [] := hnone
      refine ⟨.compile (patternBytes pattern) (.error status) :: calls, ?_⟩
      rw [abandoned, hout, List.append_nil]
      exact hasked.trans hcalls
    · rw [hc] at hlog
      have hasked : c.Called { c with engine } [.compile (patternBytes pattern) (.ok handle)] [] :=
        ⟨hlog, rfl⟩
      obtain ⟨calls, hcalls⟩ := ih { c with engine } (index + 1) (handle :: done)
      refine ⟨.compile (patternBytes pattern) (.ok handle) :: calls, ?_⟩
      rw [abandoned_cons]
      exact hasked.trans hcalls

theorem called_makeRoom (c : Cache (Recorded σ)) : ∃ calls, c.Called c.makeRoom.2 calls
    ((c.entries.drop (c.capacity - 1)).reverse.map Entry.handles) := by
  have hle : c.size ≤ c.capacity := c.length_le
  have hpos := c.capacity_pos
  unfold makeRoom
  split
  · split
    · rename_i entry rest hp
      have hsplit := RecencyList.entries_of_popLast (congrArg Prod.fst hp)
      have hdrop : c.entries.drop (c.capacity - 1) = [entry] := by
        have hsize := congrArg List.length hsplit
        rw [List.length_append, List.length_singleton] at hsize
        rw [hsplit]
        apply List.drop_left'
        unfold size at *
        omega
      obtain ⟨calls, hcalls, -⟩ :=
        called_release (countEvictions { c with toRecencyList := rest } 1) entry.handles
      rw [hdrop]
      exact ⟨calls, hcalls.congr rfl rfl⟩
    · rename_i hp
      have hnil : c.entries = [] := List.getLast?_eq_none_iff.mp (congrArg Prod.fst hp)
      rw [hnil, List.drop_nil]
      exact ⟨[], called_nothing rfl⟩
  · have hdrop : c.entries.drop (c.capacity - 1) = [] := by
      apply List.drop_eq_nil_of_le
      unfold size at *
      omega
    rw [hdrop]
    exact ⟨[], called_nothing rfl⟩

theorem called_ensureCompiled (c : Cache (Recorded σ)) (owner : ScannerId)
    (patterns : List String) :
    ∃ calls, c.Called (c.ensureCompiled owner patterns).2 calls
      ((if owner ∈ c.owners ∨ refused (c.ensureCompiled owner patterns).1 = true then []
        else (c.entries.drop (c.capacity - 1)).reverse).map Entry.handles ++
          spoiled calls (refused (c.ensureCompiled owner patterns).1)) := by
  obtain ⟨calls, hcalls⟩ := called_compileFrom c.countMiss 0 [] patterns
  rcases c.ensureCompiled_cases owner patterns with
    ⟨entry, he, hr⟩ | ⟨hn, failure, d, hc, hr⟩ | ⟨hn, hs, d, hc, hr⟩
  · rw [hr]
    dsimp only
    rw [if_pos (Or.inl (mem_owners_of_lookup he))]
    exact ⟨[], called_nothing rfl⟩
  · rw [show c.countMiss.compileFrom 0 [] patterns = (.error failure, d) from hc] at hcalls
    have hrefused : refused (Except.error failure : Except Failure (List Handle)) = true := by
      obtain ⟨index, account, rfl⟩ := failure_of_compileFrom (congrArg Prod.fst hc)
      rfl
    rw [hr]
    dsimp only
    rw [if_pos (Or.inr hrefused), hrefused]
    exact ⟨calls, hcalls.congr rfl rfl⟩
  · rw [show c.countMiss.compileFrom 0 [] patterns = (.ok hs, d) from hc] at hcalls
    have hlist := c.list_of_compile hc
    have hrefused :
        refused ((d.countCompilation.insert ⟨owner, hs⟩).1.map fun _ => hs) = false := by
      rw [refused_map]
      exact releaseOnly_makeRoom.refused_eq_false
    have hcompiled : c.Called d.countCompilation calls [] := hcalls.congr rfl rfl
    obtain ⟨more, hmore⟩ := called_makeRoom d.countCompilation
    have hall := hcompiled.trans hmore
    rw [hr]
    apply called_without_refusal hrefused
    rw [hrefused, if_neg (by simpa using notMem_owners_of_lookup hn), ← hlist]
    exact ⟨calls ++ more, hall.congr rfl rfl⟩

theorem called_findBest (c : Cache (Recorded σ)) (owner : ScannerId) (patterns : List String)
    (text : Array UInt8) (start : Nat) :
    ∃ calls, c.Called (c.findBest owner patterns text start).2 calls
      ((c.departed (.find owner patterns text start)).map Entry.handles ++
        spoiled calls (refused (c.findBest owner patterns text start).1)) := by
  have hcompiled := called_ensureCompiled c owner patterns
  rw [departed_find, refused_findBest, findBest_eq]
  rcases hc : c.ensureCompiled owner patterns with ⟨failure | hs, d⟩
  · rw [hc] at hcompiled
    exact hcompiled
  · rw [hc] at hcompiled
    obtain ⟨calls, hcalls⟩ := hcompiled
    have hsearched : d.Called { d with engine := (Engine.findBest d.engine hs text start).2 }
        [.findBest hs text start (Engine.findBest d.engine hs text start).1] [] :=
      ⟨d.engine.log_findBest hs text start, rfl⟩
    have hall := hcalls.trans hsearched
    rw [List.append_nil] at hall
    refine ⟨calls ++ [.findBest hs text start (Engine.findBest d.engine hs text start).1], ?_⟩
    rw [spoiled_concat_findBest]
    exact hall

/-- Among the calls that a request makes to its engine are hand-backs of the entries that it lets
go, one for each that has patterns, in their order, and of what a search got in vain. -/
theorem called_serve (c : Cache (Recorded σ)) (r : Request) :
    ∃ calls, c.Called (c.serve r).2 calls
      ((c.departed r).map Entry.handles ++ spoiled calls (refused (c.serve r).1)) := by
  cases r with
  | find owner patterns text start =>
    have hfind := called_findBest c owner patterns text start
    rw [← refused_map (c.findBest owner patterns text start).1 Reply.found] at hfind
    exact hfind
  | evict owner =>
    apply called_without_refusal ((refused_map _ _).trans releaseOnly_evict.refused_eq_false)
    rw [departed_evict, serve]
    unfold evict RecencyList.pop lookup?
    cases hl : c.peek owner with
    | none => exact ⟨[], called_nothing rfl⟩
    | some entry =>
      obtain ⟨calls, hcalls, -⟩ :=
        called_release { c with toRecencyList := (c.pop owner).2 } entry.handles
      exact ⟨calls, hcalls.congr rfl rfl⟩
  | clear =>
    apply called_without_refusal ((refused_map _ _).trans releaseOnly_clear.refused_eq_false)
    rw [departed_clear]
    rw [serve, c.clear_eq (l := c.keep [] (List.nil_sublist _)) rfl rfl]
    obtain ⟨calls, hcalls⟩ := called_releaseAll
      { c with toRecencyList := c.keep [] (List.nil_sublist _) } (.ok ()) c.entries.reverse
    exact ⟨calls, hcalls.congr rfl rfl⟩
  | resize capacity =>
    apply called_without_refusal ((refused_map _ _).trans (refused_resize capacity))
    by_cases h : capacity = 0
    · subst h
      rw [departed_of_subset fun e he => he]
      exact ⟨[], called_nothing rfl⟩
    · rw [departed_resize c h, serve, c.resize_eq h]
      obtain ⟨calls, hcalls⟩ := called_releaseAll
        (countEvictions
          { c with toRecencyList := c.toRecencyList.resize capacity (Nat.pos_of_ne_zero h) }
          (c.entries.drop capacity).length)
        (.ok ()) (c.entries.drop capacity).reverse
      exact ⟨calls, hcalls.congr rfl rfl⟩
  | setLog on =>
    rw [departed_of_subset fun e he => he]
    exact ⟨[], called_nothing rfl⟩

end

section

variable {σ : Type} [Engine σ] {c : Cache σ} {e : Entry}

def recording (c : Cache σ) : Cache (Recorded σ) := c.mapEngine fun engine => ⟨engine, []⟩

theorem departed_mapEngine {τ : Type} [Engine τ] {f : σ → τ} (hf : Engine.Agrees f) (c : Cache σ)
    (r : Request) : (c.mapEngine f).departed r = c.departed r := by
  rw [departed, serve_mapEngine hf]
  rfl

theorem after_recording (c : Cache σ) (requests : List Request) :
    (c.recording.after requests).mapEngine Recorded.inner = c.after requests :=
  (after_mapEngine Recorded.agrees c.recording requests).symm

/-- While a cache serves requests, an entry stays or is let go once, at the latest when the cache is
cleared; and with every request the engine is asked to take back what is let go, in one call for
each entry that has patterns, and besides that only what a search got in vain. -/
structure HandsBackOnce (c : Cache σ) (requests : List Request) (e : Entry) : Prop where
  once : (c.departures requests).count e + (c.after requests).entries.count e = 1
  at_last : (c.departures (requests ++ [.clear])).count e = 1
  calls : ∀ before r rest, requests = before ++ r :: rest →
    ∃ calls, (c.recording.after before).Called ((c.recording.after before).serve r).2 calls
      (((c.after before).departed r).map Entry.handles ++
        spoiled calls (refused ((c.after before).serve r).1))

theorem handsBackOnce_of_mem (he : e ∈ c.entries) {requests : List Request}
    (hr : ∀ r ∈ requests, ¬ r.SearchesFor e.owner) : c.HandsBackOnce requests e := by
  refine ⟨count_departures he hr, ?_, ?_⟩
  · have hlast : ∀ r ∈ requests ++ [.clear], ¬ r.SearchesFor e.owner := by
      intro r hm
      rcases List.mem_append.mp hm with hm | hm
      · exact hr r hm
      · obtain rfl := List.mem_singleton.mp hm
        exact id
    have hempty : (c.after (requests ++ [.clear])).entries = [] := by
      rw [after_concat]
      exact entries_clear _
    have hcount := count_departures he hlast
    rw [hempty] at hcount
    exact hcount
  · intro before r rest _
    have hdeparted : (c.after before).departed r = (c.recording.after before).departed r := by
      rw [← after_recording c before]
      exact departed_mapEngine Recorded.agrees _ r
    have houtcome : ((c.after before).serve r).1 = ((c.recording.after before).serve r).1 := by
      rw [← after_recording c before, serve_mapEngine Recorded.agrees]
      rfl
    rw [hdeparted, houtcome]
    exact called_serve _ r

end

end Cache
end PatternScan
