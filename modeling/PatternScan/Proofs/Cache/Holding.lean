import PatternScan.Proofs.Cache.Calls
import PatternScan.Proofs.Engine.Slots
import PatternScan.Proofs.Text.OnePass

namespace PatternScan

section

variable {ρ : Type} [Regex ρ]

/-- The expressions that sources compile to, or the failure of the first source that is refused. The
first source has number `index`. -/
def compileAll (index : Nat) : List String → Except Failure (List ρ)
  | [] => .ok []
  | source :: rest =>
    match Regex.compile (ρ := ρ) source with
    | .error words => .error (.compilation index words)
    | .ok r => (compileAll (index + 1) rest).map (r :: ·)

theorem compileAll_eq_ok_iff {index : Nat} {sources : List String} {rs : List ρ} :
    compileAll index sources = .ok rs ↔
      sources.map (Regex.compile (ρ := ρ)) = rs.map .ok := by
  induction sources generalizing index rs with
  | nil => cases rs <;> simp [compileAll]
  | cons source rest ih =>
    rw [compileAll, List.map_cons]
    cases Regex.compile (ρ := ρ) source with
    | error words => cases rs <;> simp
    | ok r =>
      cases rs with
      | nil => cases compileAll (ρ := ρ) (index + 1) rest <;> simp [Except.map]
      | cons q rs =>
        have hrest : compileAll (index + 1) rest = .ok rs ↔
            rest.map (Regex.compile (ρ := ρ)) = rs.map .ok := ih
        rw [List.map_cons, List.cons.injEq, Except.ok.injEq, ← hrest]
        cases compileAll (ρ := ρ) (index + 1) rest <;> simp [Except.map]

theorem map_toOption_of_compileAll {index : Nat} {sources : List String} {rs : List ρ}
    (h : compileAll index sources = .ok rs) :
    sources.map (fun s => (Regex.compile (ρ := ρ) s).toOption) = rs.map some := by
  have hall := congrArg (List.map Except.toOption) (compileAll_eq_ok_iff.mp h)
  rw [List.map_map, List.map_map] at hall
  exact hall

theorem compileAll_of_map_toOption {index : Nat} {sources : List String} {rs : List ρ}
    (h : sources.map (fun s => (Regex.compile (ρ := ρ) s).toOption) = rs.map some) :
    compileAll index sources = .ok rs := by
  rw [compileAll_eq_ok_iff]
  induction sources generalizing rs with
  | nil =>
    obtain rfl := List.map_eq_nil_iff.mp h.symm
    rfl
  | cons source rest ih =>
    cases rs with
    | nil => cases h
    | cons r rs =>
      obtain ⟨hfirst, hrest⟩ : (Regex.compile (ρ := ρ) source).toOption = some r ∧ _ :=
        List.cons.inj h
      rw [List.map_cons, List.map_cons, ih hrest]
      cases hr : Regex.compile (ρ := ρ) source with
      | error words =>
        rw [hr] at hfirst
        cases hfirst
      | ok q =>
        rw [hr] at hfirst
        cases hfirst
        rfl

theorem compileAll_eq_error_iff {index : Nat} {sources : List String} {failure : Failure} :
    compileAll (ρ := ρ) index sources = .error failure ↔
      ∃ before source rest words, sources = before ++ source :: rest ∧
        (∀ s ∈ before, ∃ r : ρ, Regex.compile s = .ok r) ∧
          Regex.compile (ρ := ρ) source = .error words ∧
        failure = .compilation (index + before.length) words := by
  induction sources generalizing index with
  | nil => simp [compileAll]
  | cons source rest ih =>
    rw [compileAll]
    cases hr : Regex.compile (ρ := ρ) source with
    | error words =>
      constructor
      · intro h
        exact ⟨[], source, rest, words, rfl, by simp, hr, (Except.error.inj h).symm⟩
      · rintro ⟨_ | ⟨first, before⟩, s, later, f, hs, hall, hf, rfl⟩
        · obtain ⟨rfl, rfl⟩ := List.cons.inj hs
          rw [hr] at hf
          cases hf
          rfl
        · obtain ⟨rfl, rfl⟩ := List.cons.inj hs
          obtain ⟨r, hok⟩ := hall source (by simp)
          cases hr.symm.trans hok
    | ok r =>
      have hmap : (compileAll (index + 1) rest).map (r :: ·) = .error failure ↔
          compileAll (ρ := ρ) (index + 1) rest = .error failure := by
        cases compileAll (ρ := ρ) (index + 1) rest <;> simp [Except.map]
      rw [hmap, ih]
      constructor
      · rintro ⟨before, s, later, f, rfl, hall, hf, rfl⟩
        refine ⟨source :: before, s, later, f, rfl, ?_, hf, ?_⟩
        · exact List.forall_mem_cons.mpr ⟨⟨r, hr⟩, hall⟩
        · rw [List.length_cons, Nat.add_right_comm, Nat.add_assoc]
      · rintro ⟨_ | ⟨first, before⟩, s, later, f, hs, hall, hf, rfl⟩
        · obtain ⟨rfl, rfl⟩ := List.cons.inj hs
          cases hr.symm.trans hf
        · obtain ⟨rfl, rfl⟩ := List.cons.inj hs
          refine ⟨before, s, later, f, rfl, (List.forall_mem_cons.mp hall).2, hf, ?_⟩
          rw [List.length_cons, Nat.add_right_comm, Nat.add_assoc]

end

namespace Cache

theorem patternBytes_eq (pattern : String) :
    patternBytes pattern = Text.Utf8.encode pattern.toList ++ [0] := by
  have hc := (IndexedText.ofString pattern).content_eq
  rw [IndexedText.ofString, IndexedText.ofUnits] at hc
  rw [patternBytes, IndexedText.terminated, IndexedText.ofString, IndexedText.ofUnits, hc,
    Text.utf8Bytes_unitsOfString, Array.toList_push]
  rfl

section

variable {ρ : Type} {c d : Cache (RegexArena ρ)} {hs kept : List Handle}

/-- The live handles are those of the entries and those under way, each of them once. -/
structure Holds (c : Cache (RegexArena ρ)) (underWay : List Handle) : Prop where
  engine : c.engine.Sound
  nodup : (c.handles ++ underWay).Nodup
  live_iff : ∀ h, c.engine.isLive h = true ↔ h ∈ c.handles ++ underWay

theorem holds_new {engine : RegexArena ρ} {foreign : List Handle} (hs : engine.Sound)
    (hn : foreign.Nodup) (hl : ∀ h, engine.isLive h = true ↔ h ∈ foreign) (capacity : Nat) :
    (new engine capacity).Holds foreign :=
  ⟨hs, hn, hl⟩

theorem Holds.move (hh : c.Holds hs) (he : d.engine = c.engine)
    (hp : (d.handles ++ kept).Perm (c.handles ++ hs)) : d.Holds kept := by
  refine ⟨he ▸ hh.engine, hp.nodup_iff.mpr hh.nodup, ?_⟩
  intro h
  rw [he, hh.live_iff h, hp.mem_iff]

theorem Holds.handles_nodup (hh : c.Holds kept) : c.handles.Nodup :=
  (List.nodup_append.mp hh.nodup).1

theorem Holds.live_of_mem (hh : c.Holds kept) {h : Handle} (hm : h ∈ c.handles) :
    c.engine.isLive h = true :=
  (hh.live_iff h).mpr (List.mem_append_left kept hm)

theorem Holds.store_fresh (hh : c.Holds kept) {r : ρ} (hroom : (c.engine.store r).2.Roomy) :
    (c.engine.store r).1 ∉ c.handles ++ kept := by
  intro hm
  have hlive := (hh.live_iff _).mpr hm
  rw [RegexArena.isLive_store hh.engine hroom] at hlive
  cases hlive

theorem Holds.store (hh : c.Holds kept) {r : ρ} (hroom : (c.engine.store r).2.Roomy) :
    Holds { c with engine := (c.engine.store r).2 } ((c.engine.store r).1 :: kept) := by
  have hp : (c.handles ++ (c.engine.store r).1 :: kept).Perm
      ((c.engine.store r).1 :: (c.handles ++ kept)) := List.perm_middle
  refine ⟨hh.engine.store r, ?_, ?_⟩
  · exact hp.nodup_iff.mpr (List.nodup_cons.mpr ⟨hh.store_fresh hroom, hh.nodup⟩)
  · intro h
    refine Iff.trans ?_ hp.mem_iff.symm
    rw [List.mem_cons, ← hh.live_iff h, RegexArena.isLive, RegexArena.regex?_store hh.engine hroom]
    by_cases he : h = (c.engine.store r).1
    · simp [he]
    · simp [he, RegexArena.isLive]

end

section

variable {ρ : Type} [Regex ρ] {c d : Cache (RegexArena ρ)} {hs kept : List Handle}

theorem compile_patternBytes (a : RegexArena ρ) (pattern : String) :
    a.compile (patternBytes pattern) =
      match Regex.compile (ρ := ρ) pattern with
      | .error words => (.error .compileFailed, { a with lastError := words })
      | .ok r => (.ok (a.store r).1, (a.store r).2) :=
  (congrArg a.compile (patternBytes_eq pattern)).trans (a.compile_encode pattern)

theorem account_arena (a : RegexArena ρ) : account a = a.lastError :=
  Text.Utf8.lossy_toUTF8 a.lastError

theorem stepwise_size : Stepwise (fun _ => True)
    fun c d : Cache (RegexArena ρ) => c.engine.slots.size ≤ d.engine.slots.size where
  trans := Nat.le_trans
  book he _ := Nat.le_of_eq (congrArg (·.slots.size) he.symm)
  release c hs := by
    by_cases hempty : hs = []
    · subst hempty
      exact Nat.le_refl _
    · rw [engine_release c hempty]
      exact Nat.le_of_eq (c.engine.size_dispose hs).symm
  compile c _ _ := c.engine.size_le_compile _
  search c hs text start := Nat.le_of_eq (c.engine.size_findBest hs text start).symm

theorem Holds.release (hh : c.Holds (hs ++ kept)) :
    ∃ engine, c.release hs = (.ok (), { c with engine }) ∧ Holds { c with engine } kept ∧
      ∀ h, h ∉ hs → engine.regex? h = c.engine.regex? h := by
  by_cases hempty : hs = []
  · subst hempty
    exact ⟨c.engine, rfl, hh, fun h _ => rfl⟩
  · have hall : (c.handles ++ kept ++ hs).Nodup := by
      have hp : (c.handles ++ kept ++ hs).Perm (c.handles ++ (hs ++ kept)) := by
        rw [List.append_assoc]
        exact List.perm_append_comm.append_left c.handles
      exact hp.nodup_iff.mpr hh.nodup
    obtain ⟨hrest, hnodup, hapart⟩ := List.nodup_append.mp hall
    have hlive : ∀ h ∈ hs, c.engine.isLive h = true :=
      fun h hm => (hh.live_iff h).mpr (by simp [hm])
    obtain ⟨engine, hd, hw⟩ := RegexArena.dispose_live hh.engine hnodup hlive
    have hregex : ∀ h, h ∉ hs → engine.regex? h = c.engine.regex? h := fun h hm => by
      rw [hw.regex?, if_neg hm]
    refine ⟨engine, ?_, ⟨hw.sound, hrest, ?_⟩, hregex⟩
    · have he : Engine.dispose c.engine hs = (.ok (), engine) := hd
      unfold Cache.release
      rw [if_neg (by simpa using hempty), he]
    · intro h
      by_cases hm : h ∈ hs
      · have hgone : engine.isLive h = false := by
          rw [RegexArena.isLive, hw.regex?, if_pos hm]
          rfl
        have hne : h ∉ c.handles ++ kept := fun hk => hapart h hk h hm rfl
        simp only [hgone, Bool.false_eq_true, false_iff]
        exact hne
      · rw [RegexArena.isLive_congr (hregex h hm), hh.live_iff h]
        simp only [List.mem_append, hm, false_or]
        rfl

theorem Holds.releaseAll {es : List Entry} (hh : c.Holds (es.flatMap Entry.handles ++ kept)) :
    ∃ engine, c.releaseAll (.ok ()) es = (.ok (), { c with engine }) ∧
      Holds { c with engine } kept ∧
      ∀ h, h ∉ es.flatMap Entry.handles → engine.regex? h = c.engine.regex? h := by
  induction es generalizing c with
  | nil => exact ⟨c.engine, rfl, hh, fun h _ => rfl⟩
  | cons e rest ih =>
    rw [List.flatMap_cons, List.append_assoc] at hh
    obtain ⟨engine, hr, hh, hfirst⟩ := hh.release
    obtain ⟨last, hrest, hh, hlater⟩ := ih hh
    refine ⟨last, ?_, hh, ?_⟩
    · rw [Cache.releaseAll, hr]
      exact hrest
    · intro h hm
      simp only [List.flatMap_cons, List.mem_append, not_or] at hm
      exact (hlater h hm.2).trans (hfirst h hm.1)

/-- Entries that no longer belong to the cache are released; the expressions of the others, and of
what is under way, stay. -/
theorem Holds.displace {es : List Entry} (hh : c.Holds kept) (he : d.engine = c.engine)
    (hp : (d.entries ++ es).Perm c.entries) :
    ∃ engine, d.releaseAll (.ok ()) es = (.ok (), { d with engine }) ∧
      Holds { d with engine } kept ∧
      ∀ h ∈ d.handles ++ kept, engine.regex? h = c.engine.regex? h := by
  have hflat : (d.handles ++ es.flatMap Entry.handles).Perm c.handles := by
    rw [handles, ← List.flatMap_append]
    exact hp.flatMap_right Entry.handles
  have hd : d.Holds (es.flatMap Entry.handles ++ kept) := by
    apply hh.move he
    rw [← List.append_assoc]
    exact hflat.append_right kept
  obtain ⟨engine, hr, hleft, hregex⟩ := hd.releaseAll
  refine ⟨engine, hr, hleft, ?_⟩
  intro h hm
  rw [← he]
  apply hregex h
  intro hes
  have hnodup : ((d.handles ++ kept) ++ es.flatMap Entry.handles).Nodup := by
    refine (List.Perm.nodup_iff ?_).mpr hd.nodup
    rw [List.append_assoc]
    exact List.perm_append_comm.append_left d.handles
  exact (List.nodup_append.mp hnodup).2.2 h hm h hes rfl

/-- A refused source ends a compilation, and what it has so far is not under way any more. -/
theorem Holds.compileFrom_refused {done : List Handle} (hh : c.Holds (done ++ kept)) (index : Nat)
    {source words : String} (rest : List String)
    (hp : Regex.compile (ρ := ρ) source = .error words) :
    ∃ engine,
      c.compileFrom index done (source :: rest) =
        (.error (.compilation index words), { c with engine }) ∧
      Holds { c with engine } kept ∧ ∀ h ∈ c.handles, engine.regex? h = c.engine.regex? h := by
  have hreversed : (c.handles ++ (done.reverse ++ kept)).Perm (c.handles ++ (done ++ kept)) :=
    (done.reverse_perm.append_right kept).append_left c.handles
  have hcompile : Engine.compile c.engine (patternBytes source) = _ :=
    compile_patternBytes c.engine source
  rw [hp] at hcompile
  have hfailed : Holds { c with engine := { c.engine with lastError := words } }
      (done.reverse ++ kept) := by
    refine ⟨hh.engine.fail words, hreversed.nodup_iff.mpr hh.nodup, ?_⟩
    intro h
    exact (hh.live_iff h).trans hreversed.mem_iff.symm
  obtain ⟨engine, hr, hleft, hregex⟩ := hfailed.release
  refine ⟨engine, ?_, hleft, ?_⟩
  · simp only [Cache.compileFrom, hcompile, discard, hr, account_arena]
  · intro h hm
    apply hregex h
    intro hd
    have hdone : h ∈ done ++ kept := List.mem_append_left kept (List.mem_reverse.mp hd)
    exact (List.nodup_append.mp hh.nodup).2.2 h hm h hdone rfl

/-- Compiling succeeds just when all sources compile. Then the new handles stand for the
expressions, in order; otherwise they are not under way any more. What was live before stays as it
was. -/
theorem Holds.compileFrom {done : List Handle} (hh : c.Holds (done ++ kept)) (index : Nat)
    (sources : List String) (hroom : (c.compileFrom index done sources).2.engine.Roomy) :
    ∃ engine,
      match compileAll (ρ := ρ) index sources with
      | .ok rs => ∃ hs,
        c.compileFrom index done sources = (.ok (done.reverse ++ hs), { c with engine }) ∧
        Holds { c with engine } (done.reverse ++ hs ++ kept) ∧
        hs.map engine.regex? = rs.map some ∧
        ∀ h ∈ c.handles ++ (done ++ kept), engine.regex? h = c.engine.regex? h
      | .error failure =>
        c.compileFrom index done sources = (.error failure, { c with engine }) ∧
        Holds { c with engine } kept ∧
        ∀ h ∈ c.handles, engine.regex? h = c.engine.regex? h := by
  induction sources generalizing c index done with
  | nil =>
    refine ⟨c.engine, [], ?_, ?_, rfl, fun h _ => rfl⟩
    · rw [List.append_nil]
      rfl
    · rw [List.append_nil]
      exact hh.move rfl ((done.reverse_perm.append_right kept).append_left c.handles)
  | cons source rest ih =>
    rw [compileAll]
    cases hp : Regex.compile (ρ := ρ) source with
    | error words => exact hh.compileFrom_refused index rest hp
    | ok r =>
      have hcompile : Engine.compile c.engine (patternBytes source) = _ :=
        compile_patternBytes c.engine source
      rw [hp] at hcompile
      -- the slots that there are in the end were enough for this source, too
      have hnext : c.compileFrom index done (source :: rest) =
          compileFrom { c with engine := (c.engine.store r).2 } (index + 1)
            ((c.engine.store r).1 :: done) rest := by
        simp only [Cache.compileFrom, hcompile]
      rw [hnext] at hroom
      have hgrown := stepwise_size.compileFrom { c with engine := (c.engine.store r).2 }
        (index + 1) ((c.engine.store r).1 :: done) fun (p : String) (_ : p ∈ rest) => trivial
      have hstore : (c.engine.store r).2.Roomy := Nat.le_trans hgrown hroom
      have hstored : Holds { c with engine := (c.engine.store r).2 }
          ((c.engine.store r).1 :: done ++ kept) := hh.store hstore
      have hregex := RegexArena.regex?_store hh.engine hstore
      have hother : ∀ h ∈ c.handles ++ (done ++ kept),
          (c.engine.store r).2.regex? h = c.engine.regex? h := fun h hm => by
        have hne : h ≠ (c.engine.store r).1 := fun he => hh.store_fresh hstore (he ▸ hm)
        rw [hregex h, if_neg hne]
      obtain ⟨last, hlast⟩ := ih hstored (index + 1) hroom
      refine ⟨last, ?_⟩
      rw [hnext]
      cases hrest : compileAll (ρ := ρ) (index + 1) rest with
      | error failure =>
        rw [hrest] at hlast
        obtain ⟨hr, hleft, hkeep⟩ := hlast
        refine ⟨hr, hleft, ?_⟩
        intro h hm
        exact (hkeep h hm).trans (hother h (List.mem_append_left _ hm))
      | ok rs =>
        rw [hrest] at hlast
        obtain ⟨hs, hr, hleft, hnew, hkeep⟩ := hlast
        rw [List.reverse_cons, List.append_assoc done.reverse, List.singleton_append] at hr hleft
        refine ⟨(c.engine.store r).1 :: hs, hr, hleft, ?_, ?_⟩
        · rw [List.map_cons, hnew, hkeep _ (by simp), hregex, if_pos rfl]
          rfl
        · intro h hm
          refine (hkeep h ?_).trans (hother h hm)
          rcases List.mem_append.mp hm with hm | hm
          · exact List.mem_append_left _ hm
          · exact List.mem_append_right _ (List.mem_cons_of_mem _ hm)

end

end Cache
end PatternScan
