import PatternScan.Proofs.Cache.Entries

namespace PatternScan

def EngineEvent.handedOut : EngineEvent → List Handle
  | .compile _ (.ok h) => [h]
  | _ => []

/-- What an engine was asked to take back, whether or not it did. -/
def EngineEvent.handedBack : EngineEvent → List Handle
  | .dispose hs _ => hs
  | _ => []

def handedOut (log : List EngineEvent) : List Handle := log.flatMap EngineEvent.handedOut

def handedBack (log : List EngineEvent) : List Handle := log.flatMap EngineEvent.handedBack

theorem handedOut_append (log later : List EngineEvent) :
    handedOut (log ++ later) = handedOut log ++ handedOut later := List.flatMap_append

theorem handedBack_append (log later : List EngineEvent) :
    handedBack (log ++ later) = handedBack log ++ handedBack later := List.flatMap_append

namespace Cache

variable {σ : Type} {c d : Cache (Recorded σ)} {hs kept : List Handle}

/-- Each handle was given out as often as it is stored, under way and handed back together, and at
no moment had it been handed back more often than given out. -/
structure Balanced (c : Cache (Recorded σ)) (underWay : List Handle) : Prop where
  count_eq : ∀ h, (handedOut c.engine.log).count h =
    c.handles.count h + underWay.count h + (handedBack c.engine.log).count h
  past : ∀ log, log <+: c.engine.log → ∀ h, (handedBack log).count h ≤ (handedOut log).count h

theorem balanced_new (engine : σ) (capacity : Nat) : (new ⟨engine, []⟩ capacity).Balanced [] := by
  refine ⟨fun h => rfl, ?_⟩
  intro log hl h
  obtain rfl := List.prefix_nil.mp hl
  exact Nat.le_refl _

theorem Balanced.perm (hb : c.Balanced []) :
    (handedOut c.engine.log).Perm (c.handles ++ handedBack c.engine.log) := by
  apply List.perm_iff_count.mpr
  intro h
  rw [hb.count_eq h, List.count_append, List.count_nil]
  omega

theorem Balanced.move (hb : c.Balanced hs) (he : d.engine = c.engine)
    (hm : ∀ h, d.handles.count h + kept.count h = c.handles.count h + hs.count h) :
    d.Balanced kept := by
  constructor
  · intro h
    rw [he, hm h]
    exact hb.count_eq h
  · intro log hl h
    rw [he] at hl
    exact hb.past log hl h

theorem Balanced.record {e : EngineEvent} (hb : c.Balanced hs)
    (hlog : d.engine.log = c.engine.log ++ [e]) (he : d.entries = c.entries)
    (hm : ∀ h, kept.count h + e.handedBack.count h = hs.count h + e.handedOut.count h) :
    d.Balanced kept := by
  have hstored : d.handles = c.handles := by rw [handles, handles, he]
  have hout : handedOut (c.engine.log ++ [e]) = handedOut c.engine.log ++ e.handedOut := by
    simp [handedOut]
  have hback : handedBack (c.engine.log ++ [e]) = handedBack c.engine.log ++ e.handedBack := by
    simp [handedBack]
  have hcount : ∀ h, (handedOut (c.engine.log ++ [e])).count h =
      c.handles.count h + kept.count h + (handedBack (c.engine.log ++ [e])).count h := by
    intro h
    have hc := hb.count_eq h
    have hk := hm h
    rw [hout, hback, List.count_append, List.count_append]
    omega
  constructor
  · intro h
    rw [hlog, hstored]
    exact hcount h
  · intro log hl h
    rw [hlog] at hl
    rcases List.prefix_concat_iff.mp hl with rfl | hl
    · rw [hcount h]
      exact Nat.le_add_left _ _
    · exact hb.past log hl h

variable [Engine σ]

theorem Balanced.release (hb : c.Balanced (hs ++ kept)) : (c.release hs).2.Balanced kept := by
  by_cases hempty : hs = []
  · subst hempty
    exact hb
  · have hlog := c.engine.log_dispose hs
    rw [← engine_release c hempty] at hlog
    apply hb.record hlog (congrArg RecencyList.entries (list_release c hs))
    intro h
    simp only [EngineEvent.handedBack, EngineEvent.handedOut, List.count_append, List.count_nil]
    omega

theorem Balanced.releaseAll {es : List Entry} {outcome : Except Failure Unit}
    (hb : c.Balanced (es.flatMap Entry.handles ++ kept)) :
    (c.releaseAll outcome es).2.Balanced kept := by
  induction es generalizing c outcome with
  | nil => exact hb
  | cons e rest ih =>
    rw [List.flatMap_cons, List.append_assoc] at hb
    exact ih hb.release

theorem Balanced.evict (hb : c.Balanced []) (owner : ScannerId) :
    (c.evict owner).2.Balanced [] := by
  unfold Cache.evict RecencyList.pop
  cases he : c.peek owner with
  | none => exact hb
  | some entry =>
    have hp := (RecencyList.perm_of_peek he).flatMap_right Entry.handles
    have hmoved : Balanced { c with toRecencyList := (c.pop owner).2 } (entry.handles ++ []) := by
      refine hb.move rfl ?_
      intro h
      have hcount := hp.count_eq h
      simp only [List.flatMap_cons, List.count_append] at hcount
      simp only [handles, RecencyList.pop, RecencyList.keep, List.append_nil, List.count_nil]
      omega
    exact hmoved.release

theorem Balanced.clear (hb : c.Balanced []) : c.clear.2.Balanced [] := by
  rw [c.clear_eq (l := c.keep [] (List.nil_sublist _)) rfl rfl]
  refine Balanced.releaseAll (hb.move rfl ?_)
  intro h
  have hp := c.entries.reverse_perm.flatMap_right Entry.handles
  simp only [handles, RecencyList.keep, List.flatMap_nil, List.append_nil, List.count_nil,
    hp.count_eq h]
  omega

theorem Balanced.resize (hb : c.Balanced []) (capacity : Nat) :
    (c.resize capacity).2.Balanced [] := by
  by_cases hzero : capacity = 0
  · subst hzero
    exact hb
  · rw [c.resize_eq hzero]
    refine Balanced.releaseAll (hb.move rfl ?_)
    intro h
    have hp := (c.entries.drop capacity).reverse_perm.flatMap_right Entry.handles
    have hsplit : (c.entries.flatMap Entry.handles).count h =
        ((c.entries.take capacity).flatMap Entry.handles).count h +
          ((c.entries.drop capacity).flatMap Entry.handles).count h := by
      rw [← List.count_append, ← List.flatMap_append, List.take_append_drop]
    simp only [handles, countEvictions, RecencyList.resize, List.append_nil, List.count_nil,
      hp.count_eq h]
    omega

/-- The handles that a compilation leaves under way. -/
def gained : Except Failure (List Handle) → List Handle
  | .ok hs => hs
  | .error _ => []

theorem Balanced.compileFrom {done : List Handle} (hb : c.Balanced done) (index : Nat)
    (patterns : List String) :
    (c.compileFrom index done patterns).2.Balanced
      (gained (c.compileFrom index done patterns).1) := by
  induction patterns generalizing c index done with
  | nil =>
    refine hb.move rfl ?_
    intro h
    simp only [Cache.compileFrom, gained, List.count_reverse]
  | cons pattern rest ih =>
    have hlog := c.engine.log_compile (patternBytes pattern)
    rw [Cache.compileFrom]
    rcases hc : Engine.compile c.engine (patternBytes pattern) with ⟨status | handle, engine⟩
    · rw [hc] at hlog
      refine Balanced.release (hb.record hlog rfl ?_)
      intro h
      simp only [EngineEvent.handedBack, EngineEvent.handedOut, gained, List.append_nil,
        List.count_reverse]
    · rw [hc] at hlog
      have hnext : Balanced { c with engine } (handle :: done) := by
        refine hb.record hlog rfl ?_
        intro h
        simp only [EngineEvent.handedBack, EngineEvent.handedOut, List.count_cons, List.count_nil]
        omega
      exact ih hnext (index + 1)

theorem Balanced.makeRoom (hb : c.Balanced kept) : c.makeRoom.2.Balanced kept := by
  unfold Cache.makeRoom
  split
  · split
    · rename_i entry rest hp
      have hsplit := RecencyList.entries_of_popLast (congrArg Prod.fst hp)
      obtain rfl : c.popLast.2 = rest := congrArg Prod.snd hp
      refine Balanced.release (hb.move rfl ?_)
      intro h
      simp only [handles, countEvictions, hsplit, List.flatMap_append, List.flatMap_singleton,
        List.count_append]
      omega
    · exact hb
  · exact hb

theorem Balanced.insert {entry : Entry} (hb : c.Balanced entry.handles)
    (hn : c.lookup? entry.owner = none) : (c.insert entry).2.Balanced [] := by
  refine hb.makeRoom.move rfl ?_
  intro h
  rw [handles, entries_insert c _ hn, handles, entries_makeRoom, List.flatMap_cons,
    List.count_append, List.count_nil]
  omega

theorem Balanced.ensureCompiled (hb : c.Balanced []) (owner : ScannerId)
    (patterns : List String) : (c.ensureCompiled owner patterns).2.Balanced [] := by
  have hcompile : (c.countMiss.compile patterns).2.Balanced
      (gained (c.countMiss.compile patterns).1) :=
    Balanced.compileFrom (c := c.countMiss) (hb.move rfl fun h => rfl) 0 patterns
  rcases c.ensureCompiled_cases owner patterns with
    ⟨entry, he, hr⟩ | ⟨-, failure, d, hc, hr⟩ | ⟨hn, hs, d, hc, hr⟩
  · have hp := (RecencyList.perm_of_peek he).flatMap_right Entry.handles
    obtain rfl := RecencyList.owner_of_peek he
    have hentries := RecencyList.entries_put_of_peek he
    rw [hr]
    refine hb.move rfl fun h => ?_
    change ((c.put entry).entries.flatMap Entry.handles).count h + 0 = _
    rw [hentries]
    exact congrArg (· + 0) (hp.count_eq h)
  · rw [hc] at hcompile
    rw [hr]
    exact hcompile
  · rw [hc] at hcompile
    rw [hr]
    have hd : d.countCompilation.Balanced (Entry.handles ⟨owner, hs⟩) :=
      hcompile.move rfl fun h => rfl
    have hlist := c.list_of_compile hc
    exact hd.insert ((RecencyList.peek_congr (congrArg RecencyList.entries hlist)).trans hn)

theorem Balanced.findBest (hb : c.Balanced []) (owner : ScannerId)
    (patterns : List String) (text : Array UInt8) (start : Nat) :
    (c.findBest owner patterns text start).2.Balanced [] := by
  have hcompiled := hb.ensureCompiled owner patterns
  rw [findBest_eq]
  rcases hc : c.ensureCompiled owner patterns with ⟨failure | hs, d⟩
  · rw [hc] at hcompiled
    exact hcompiled
  · rw [hc] at hcompiled
    have hlog := d.engine.log_findBest hs text start
    exact hcompiled.record hlog rfl fun h => rfl

theorem Balanced.serve (hb : c.Balanced []) (r : Request) :
    (c.serve r).2.Balanced [] := by
  cases r with
  | find owner patterns text start => exact hb.findBest owner patterns text start
  | evict owner => exact hb.evict owner
  | clear => exact hb.clear
  | resize capacity => exact hb.resize capacity
  | setLog on => exact hb.move rfl fun h => rfl

theorem Balanced.after (hb : c.Balanced []) (requests : List Request) :
    (c.after requests).Balanced [] := by
  induction requests generalizing c with
  | nil => exact hb
  | cons r rest ih => exact ih (hb.serve r)

/-- However the engine behaves and whatever is asked of a cache on it: the handles that the engine
gave out are those of the entries and those handed back. At no moment, not even during a request,
was a handle handed back more often than given out, so a batch that the engine refused is not
offered again. When the cache goes out of use, all handles have been handed back. The record of the
engine's calls takes no part in this. -/
theorem handles_handed_back_once (engine : σ) (capacity : Nat) (requests : List Request) :
    let c := (new (⟨engine, []⟩ : Recorded σ) capacity).after requests
    (handedOut c.engine.log).Perm (c.handles ++ handedBack c.engine.log) ∧
    (∀ log, log <+: c.engine.log → ∀ h, (handedBack log).count h ≤ (handedOut log).count h) ∧
    (∀ before hs status later, before ++ .dispose hs (.error status) :: later <+: c.engine.log →
      ∀ h, (handedBack before).count h + hs.count h + (handedBack later).count h ≤
        (handedOut before).count h + (handedOut later).count h) ∧
    c.close.entries = [] ∧
    (handedBack c.close.engine.log).Perm (handedOut c.close.engine.log) ∧
    c.mapEngine Recorded.inner = (new engine capacity).after requests ∧
    (new (⟨engine, []⟩ : Recorded σ) capacity).replies requests =
      (new engine capacity).replies requests := by
  intro c
  have hb : c.Balanced [] := (balanced_new engine capacity).after requests
  refine ⟨hb.perm, hb.past, ?_, entries_clear c, ?_, ?_, ?_⟩
  · intro before hs status later hl h
    have hpast := hb.past _ hl h
    simp only [handedOut_append, handedBack_append, List.count_append] at hpast
    simp only [handedOut, handedBack, List.flatMap_cons, EngineEvent.handedOut,
      EngineEvent.handedBack, List.count_append, List.nil_append] at hpast ⊢
    omega
  · have hclosed := hb.clear.perm
    rw [handles, entries_clear, List.flatMap_nil, List.nil_append] at hclosed
    exact hclosed.symm
  · exact (after_mapEngine Recorded.agrees _ requests).symm
  · exact (replies_mapEngine Recorded.agrees _ requests).symm

end Cache
end PatternScan
