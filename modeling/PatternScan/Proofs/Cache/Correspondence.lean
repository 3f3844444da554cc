import Mathlib.Algebra.Order.Ring.Nat
import PatternScan.Engine.Arena
import PatternScan.Proofs.Cache.Holding
import PatternScan.Proofs.Engine.Selection

namespace PatternScan.Cache

section

variable {ρ : Type} {c d : Cache (RegexArena ρ)} {kept foreign : List Handle}

theorem holds_empty (capacity : Nat) :
    (new (RegexArena.empty : RegexArena ρ) capacity).Holds [] := by
  refine holds_new RegexArena.sound_empty List.nodup_nil (fun h => ?_) capacity
  rw [RegexArena.isLive_iff]
  simp [RegexArena.empty]

/-- What a request makes of a cache: entries that were there keep their expressions, and only `new`
ones come in addition. -/
structure Evolves (c d : Cache (RegexArena ρ)) (foreign : List Handle)
    (new : Entry → Prop) : Prop where
  holds : d.Holds foreign
  entries : ∀ e ∈ d.entries,
    (e ∈ c.entries ∧ e.handles.map d.engine.regex? = e.handles.map c.engine.regex?) ∨ new e
  failures : d.counters.releaseFailures = c.counters.releaseFailures

theorem Evolves.imp {new other : Entry → Prop} (h : c.Evolves d foreign new)
    (hn : ∀ e, new e → other e) : c.Evolves d foreign other :=
  ⟨h.holds, fun e he => (h.entries e he).imp_right (hn e), h.failures⟩

theorem Evolves.of_subset {new : Entry → Prop} (hd : d.Holds foreign) (hs : d.entries ⊆ c.entries)
    (hp : ∀ h ∈ d.handles, d.engine.regex? h = c.engine.regex? h)
    (hf : d.counters.releaseFailures = c.counters.releaseFailures) : c.Evolves d foreign new := by
  refine ⟨hd, fun e he => Or.inl ⟨hs he, ?_⟩, hf⟩
  exact List.map_congr_left fun h hm => hp h (List.mem_flatMap.mpr ⟨e, he, hm⟩)

theorem Holds.map_regex? (hh : c.Holds foreign) {e : Entry} (he : e ∈ c.entries) :
    e.handles.map c.engine.regex? = (e.handles.filterMap c.engine.regex?).map some := by
  have hlive : ∀ h ∈ e.handles, c.engine.isLive h = true := fun h hm =>
    hh.live_of_mem (List.mem_flatMap.mpr ⟨e, he, hm⟩)
  generalize e.handles = handles at hlive ⊢
  induction handles with
  | nil => rfl
  | cons h rest ih =>
    obtain ⟨r, hr⟩ := Option.isSome_iff_exists.mp (hlive h (by simp))
    rw [List.map_cons, List.filterMap_cons_some hr, List.map_cons, hr]
    exact congrArg (some r :: ·) (ih fun g hg => hlive g (List.mem_cons_of_mem h hg))

theorem Holds.live_iff_mem (hh : c.Holds []) (h : Handle) :
    c.engine.isLive h = true ↔ h ∈ c.handles := by
  rw [hh.live_iff h, List.append_nil]

end

section

variable {ρ : Type} [Regex ρ] {c d : Cache (RegexArena ρ)} {kept foreign : List Handle}

theorem Holds.evolves (hh : c.Holds foreign) {es : List Entry} (he : d.engine = c.engine)
    (hp : (d.entries ++ es).Perm c.entries)
    (hf : d.counters.releaseFailures = c.counters.releaseFailures) :
    ∃ b, d.releaseAll (.ok ()) es = (.ok (), b) ∧ c.Evolves b foreign fun _ => False := by
  obtain ⟨engine, hr, hleft, hregex⟩ := hh.displace he hp
  have hsub : d.entries ⊆ c.entries := fun e hm => hp.subset (List.mem_append_left es hm)
  refine ⟨{ d with engine }, hr, Evolves.of_subset hleft hsub ?_ hf⟩
  intro h hm
  exact hregex h (List.mem_append_left foreign hm)

theorem Holds.evict (hh : c.Holds foreign) (owner : ScannerId) :
    ∃ d, c.evict owner = (.ok (c.contains owner), d) ∧ c.Evolves d foreign fun _ => False := by
  rw [contains_eq_isSome]
  unfold Cache.evict RecencyList.pop lookup?
  cases he : c.peek owner with
  | none => exact ⟨c, rfl, Evolves.of_subset hh (fun _ hm => hm) (fun _ _ => rfl) rfl⟩
  | some entry =>
    have hp : (c.others owner ++ [entry]).Perm c.entries :=
      (List.perm_append_singleton entry _).trans (RecencyList.perm_of_peek he)
    obtain ⟨b, hr, hb⟩ := hh.evolves (d := { c with toRecencyList := (c.pop owner).2 }) rfl hp rfl
    refine ⟨b, ?_, hb⟩
    have hone : Cache.release { c with toRecencyList := (c.pop owner).2 } entry.handles =
        (.ok (), b) := hr
    simp only [RecencyList.pop] at hone
    simp only [hone]
    rfl

theorem Holds.clear (hh : c.Holds foreign) :
    ∃ d, c.clear = (.ok (), d) ∧ c.Evolves d foreign fun _ => False := by
  rw [c.clear_eq (l := c.keep [] (List.nil_sublist _)) rfl rfl]
  exact hh.evolves rfl c.entries.reverse_perm rfl

theorem Holds.resize (hh : c.Holds foreign) (capacity : Nat) :
    ∃ d, c.resize capacity = (if capacity = 0 then .error .zeroCapacity else .ok (), d) ∧
      c.Evolves d foreign fun _ => False := by
  by_cases h : capacity = 0
  · subst h
    exact ⟨c, rfl, Evolves.of_subset hh (fun _ hm => hm) (fun _ _ => rfl) rfl⟩
  · rw [if_neg h, c.resize_eq h]
    have hp : (c.entries.take capacity ++ (c.entries.drop capacity).reverse).Perm c.entries := by
      apply ((List.reverse_perm _).append_left _).trans
      rw [List.take_append_drop]
    exact hh.evolves rfl hp rfl

theorem Holds.makeRoom (hh : c.Holds kept) :
    ∃ d, c.makeRoom = (.ok (), d) ∧ d.Holds kept ∧
      d.counters.releaseFailures = c.counters.releaseFailures ∧
      ∀ h ∈ d.handles ++ kept, d.engine.regex? h = c.engine.regex? h := by
  unfold Cache.makeRoom
  split
  · rcases hpop : c.popLast with ⟨_ | entry, rest⟩
    · exact ⟨c, rfl, hh, rfl, fun h _ => rfl⟩
    · have hsplit := RecencyList.entries_of_popLast (congrArg Prod.fst hpop)
      obtain rfl : c.popLast.2 = rest := congrArg Prod.snd hpop
      let d := countEvictions { c with toRecencyList := c.popLast.2 } 1
      have hp : (d.entries ++ [entry]).Perm c.entries := List.Perm.of_eq hsplit.symm
      obtain ⟨engine, hr, hleft, hregex⟩ := hh.displace (d := d) rfl hp
      exact ⟨_, hr, hleft, rfl, hregex⟩
  · exact ⟨c, rfl, hh, rfl, fun h _ => rfl⟩

/-- A new entry takes over what was under way, and the others that stay keep their expressions. -/
theorem Holds.insert {owner : ScannerId} {handles : List Handle}
    (hh : c.Holds (handles ++ kept)) (he : c.lookup? owner = none) :
    ∃ d, c.insert ⟨owner, handles⟩ = (.ok (), d) ∧ d.Holds kept ∧
      d.counters.releaseFailures = c.counters.releaseFailures ∧
      handles.map d.engine.regex? = handles.map c.engine.regex? ∧
      ∀ e ∈ d.entries, e = ⟨owner, handles⟩ ∨
        e ∈ c.entries ∧ e.handles.map d.engine.regex? = e.handles.map c.engine.regex? := by
  obtain ⟨d, hroom, hd, hf, hkept⟩ := hh.makeRoom
  have hsub : d.entries ⊆ c.entries := by
    have hentries := entries_makeRoom c
    rw [hroom] at hentries
    rw [show d.entries = _ from hentries]
    exact List.take_subset _ _
  have hput : (d.put ⟨owner, handles⟩).entries = ⟨owner, handles⟩ :: d.entries := by
    have hinsert := entries_insert c ⟨owner, handles⟩ he
    rw [← entries_makeRoom, Cache.insert, hroom] at hinsert
    exact hinsert
  refine ⟨{ d with toRecencyList := d.put ⟨owner, handles⟩ }, ?_, ?_, hf, ?_, ?_⟩
  · simp only [Cache.insert, hroom]
  · refine hd.move rfl ?_
    change ((d.put ⟨owner, handles⟩).entries.flatMap Entry.handles ++ kept).Perm _
    rw [hput, ← List.append_assoc]
    exact List.perm_append_comm.append_right kept
  · exact List.map_congr_left fun h hm =>
      hkept h (List.mem_append_right _ (List.mem_append_left _ hm))
  · intro e hm
    rw [show _ = _ from hput] at hm
    rcases List.mem_cons.mp hm with rfl | hm
    · exact Or.inl rfl
    · refine Or.inr ⟨hsub hm, List.map_congr_left fun h hh => ?_⟩
      exact hkept h (List.mem_append_left _ (List.mem_flatMap.mpr ⟨e, hm, hh⟩))

def regexesFor (c : Cache (RegexArena ρ)) (owner : ScannerId) (patterns : List String) :
    Except Failure (List ρ) :=
  match c.lookup? owner with
  | some entry => .ok (entry.handles.filterMap c.engine.regex?)
  | none => compileAll 0 patterns

def Made (c d : Cache (RegexArena ρ)) (owner : ScannerId) (patterns : List String) (e : Entry) :
    Prop :=
  e.owner = owner ∧ c.lookup? owner = none ∧ ∃ rs : List ρ, compileAll 0 patterns = .ok rs ∧
    e.handles.map d.engine.regex? = rs.map some

/-- A search first gets hold of its expressions, and fails just when there are none. Only if the
scanner had no entry and its patterns compile, an entry with what they compile to comes. -/
theorem Holds.ensureCompiled (hh : c.Holds foreign) (owner : ScannerId) (patterns : List String)
    (hroom : (c.ensureCompiled owner patterns).2.engine.Roomy) :
    ∃ d, c.Evolves d foreign (c.Made d owner patterns) ∧
      match c.regexesFor owner patterns with
      | .ok rs => ∃ hs, c.ensureCompiled owner patterns = (.ok hs, d) ∧
        hs.map d.engine.regex? = rs.map some
      | .error failure => c.ensureCompiled owner patterns = (.error failure, d) := by
  unfold regexesFor
  cases he : c.lookup? owner with
  | some entry =>
    obtain rfl := RecencyList.owner_of_peek he
    have hentries := RecencyList.entries_put_of_peek he
    have hp : (c.put entry).entries.Perm c.entries := by
      rw [hentries]
      exact RecencyList.perm_of_peek he
    refine ⟨countHit { c with toRecencyList := c.put entry }, Evolves.of_subset ?_ hp.subset
      (fun _ _ => rfl) rfl, entry.handles, ?_, ?_⟩
    · exact hh.move rfl ((hp.flatMap_right Entry.handles).append_right foreign)
    · simp only [Cache.ensureCompiled, RecencyList.get_of_peek he]
    · exact hh.map_regex? (RecencyList.mem_of_peek he)
  | none =>
    have hmiss : Holds c.countMiss ([] ++ foreign) := hh.move rfl (List.Perm.refl _)
    have hgrown : (c.countMiss.compileFrom 0 [] patterns).2.engine.slots.size ≤
        (c.ensureCompiled owner patterns).2.engine.slots.size := by
      rw [Cache.ensureCompiled, RecencyList.get_of_peek_eq_none he, compile]
      rcases c.countMiss.compileFrom 0 [] patterns with ⟨failure | hs, d⟩
      · exact Nat.le_refl _
      · exact stepwise_size.insert d.countCompilation _
    obtain ⟨engine, hspec⟩ := hmiss.compileFrom 0 patterns (Nat.le_trans hgrown hroom)
    cases hall : compileAll (ρ := ρ) 0 patterns with
    | error failure =>
      rw [hall] at hspec
      obtain ⟨hc, hleft, hregex⟩ := hspec
      refine ⟨{ c.countMiss with engine },
        Evolves.of_subset hleft (fun _ hm => hm) hregex rfl, ?_⟩
      simp only [Cache.ensureCompiled, RecencyList.get_of_peek_eq_none he, compile, hc]
    | ok rs =>
      rw [hall] at hspec
      obtain ⟨handles, hc, hleft, hnew, hregex⟩ := hspec
      rw [List.reverse_nil, List.nil_append] at hc hleft
      have hcounted : Holds (countCompilation { c.countMiss with engine }) (handles ++ foreign) :=
        hleft.move rfl (List.Perm.refl _)
      obtain ⟨d, hinsert, hd, hf, hsame, hentries⟩ := hcounted.insert he
      have hr : c.ensureCompiled owner patterns = (.ok handles, d) := by
        simp only [Cache.ensureCompiled, RecencyList.get_of_peek_eq_none he, compile, hc, hinsert]
        rfl
      have hstored : handles.map d.engine.regex? = rs.map some := hsame.trans hnew
      refine ⟨d, ⟨hd, ?_, hf⟩, handles, hr, hstored⟩
      intro e hm
      rcases hentries e hm with rfl | ⟨hbefore, hkept⟩
      · exact Or.inr ⟨rfl, he, rs, hall, hstored⟩
      · refine Or.inl ⟨hbefore, hkept.trans (List.map_congr_left fun h hh => ?_)⟩
        exact hregex h (List.mem_append_left _ (List.mem_flatMap.mpr ⟨e, hbefore, hh⟩))

theorem Holds.findBest (hh : c.Holds foreign) (owner : ScannerId) (patterns : List String)
    (text : Array UInt8) (start : Nat)
    (hroom : (c.findBest owner patterns text start).2.engine.Roomy) :
    ∃ d, c.findBest owner patterns text start =
        ((c.regexesFor owner patterns).map (bestMatch · text start), d) ∧
      c.Evolves d foreign (c.Made d owner patterns) := by
  have hgrown : (c.ensureCompiled owner patterns).2.engine.slots.size ≤
      (c.findBest owner patterns text start).2.engine.slots.size := by
    rw [findBest_eq]
    rcases c.ensureCompiled owner patterns with ⟨failure | hs, d⟩
    · exact Nat.le_refl _
    · exact stepwise_size.search d hs text start
  obtain ⟨d, hd, hspec⟩ := hh.ensureCompiled owner patterns (Nat.le_trans hgrown hroom)
  refine ⟨d, ?_, hd⟩
  rw [findBest_eq]
  cases hp : c.regexesFor owner patterns with
  | error failure =>
    rw [hp] at hspec
    simp only [hspec, Except.map]
  | ok rs =>
    rw [hp] at hspec
    obtain ⟨handles, hr, hlive⟩ := hspec
    have hb : Engine.findBest d.engine handles text start = _ :=
      RegexArena.findBest_live hlive text start
    simp only [hr, searched, hb, answered, Except.map]

/-- The reply to a request, as far as entries, expressions and settings determine it. -/
def expected (c : Cache (RegexArena ρ)) : Request → Except Failure Reply
  | .find owner patterns text start =>
    (c.regexesFor owner patterns).map fun rs => .found (bestMatch rs text start)
  | .evict owner => .ok (.evicted (c.contains owner))
  | .clear => .ok .done
  | .resize capacity => if capacity = 0 then .error .zeroCapacity else .ok .done
  | .setLog _ => .ok .done

/-- Whether a request is the first search for an entry's owner, and the entry has its expressions.
-/
def Stores (c d : Cache (RegexArena ρ)) (r : Request) (e : Entry) : Prop :=
  ∃ patterns text start, r = .find e.owner patterns text start ∧ c.Made d e.owner patterns e

theorem expected_eq_error {r : Request} {failure : Failure} (h : c.expected r = .error failure) :
    failure = .zeroCapacity ∨ ∃ index account, failure = .compilation index account := by
  cases r with
  | find owner patterns text start =>
    rw [expected, regexesFor] at h
    split at h
    · cases h
    · cases hall : compileAll (ρ := ρ) 0 patterns with
      | ok rs =>
        rw [hall] at h
        cases h
      | error fault =>
        rw [hall] at h
        cases h
        obtain ⟨before, source, rest, fault, -, -, -, rfl⟩ := compileAll_eq_error_iff.mp hall
        exact Or.inr ⟨_, _, rfl⟩
  | resize capacity =>
    rw [expected] at h
    split at h
    · exact Or.inl (Except.error.inj h).symm
    · cases h
  | evict owner => cases h
  | clear => cases h
  | setLog on => cases h

theorem Holds.serve (hh : c.Holds foreign) (r : Request) (hroom : (c.serve r).2.engine.Roomy) :
    ∃ d, c.serve r = (c.expected r, d) ∧ c.Evolves d foreign (c.Stores d r) := by
  cases r with
  | find owner patterns text start =>
    obtain ⟨d, hr, hd⟩ := hh.findBest owner patterns text start hroom
    refine ⟨d, ?_, hd.imp ?_⟩
    · simp only [Cache.serve, hr, expected]
      cases c.regexesFor owner patterns <;> rfl
    · rintro e ⟨rfl, hmade⟩
      exact ⟨patterns, text, start, rfl, rfl, hmade⟩
  | evict owner =>
    obtain ⟨d, hr, hd⟩ := hh.evict owner
    exact ⟨d, by simp only [Cache.serve, hr]; rfl, hd.imp fun _ => False.elim⟩
  | clear =>
    obtain ⟨d, hr, hd⟩ := hh.clear
    exact ⟨d, by simp only [Cache.serve, hr]; rfl, hd.imp fun _ => False.elim⟩
  | resize capacity =>
    obtain ⟨d, hr, hd⟩ := hh.resize capacity
    refine ⟨d, ?_, hd.imp fun _ => False.elim⟩
    simp only [Cache.serve, hr, expected]
    split <;> rfl
  | setLog on =>
    have hset : (c.setLogEvictions on).Holds foreign := hh.move rfl (List.Perm.refl _)
    exact ⟨_, rfl, Evolves.of_subset hset (fun _ hm => hm) (fun _ _ => rfl) rfl⟩

theorem size_le_after (c : Cache (RegexArena ρ)) (requests : List Request) :
    c.engine.slots.size ≤ (c.after requests).engine.slots.size :=
  stepwise_size.after c requests fun _ _ _ _ => trivial

theorem Holds.after (hh : c.Holds foreign) (requests : List Request)
    (hroom : (c.after requests).engine.Roomy) :
    (c.after requests).Holds foreign ∧
      (c.after requests).counters.releaseFailures = c.counters.releaseFailures := by
  induction requests generalizing c with
  | nil => exact ⟨hh, rfl⟩
  | cons r rest ih =>
    rw [after_cons] at hroom ⊢
    obtain ⟨d, hr, hd⟩ := hh.serve r (Nat.le_trans (size_le_after _ rest) hroom)
    rw [hr] at hroom ⊢
    obtain ⟨hleft, hf⟩ := ih hd.holds hroom
    exact ⟨hleft, hf.trans hd.failures⟩

/-- Every entry came with a search for its owner that found none, was there ever since, and has what
the patterns of that search compile to. -/
theorem Holds.origin (hh : c.Holds foreign) (hempty : c.entries = []) (requests : List Request)
    (hroom : (c.after requests).engine.Roomy) (e : Entry) (he : e ∈ (c.after requests).entries) :
    ∃ before patterns text start rest,
      requests = before ++ .find e.owner patterns text start :: rest ∧
      (c.after before).contains e.owner = false ∧
      (∀ mid, mid <+: rest →
        e ∈ (c.after (before ++ .find e.owner patterns text start :: mid)).entries) ∧
      e.handles.map (c.after requests).engine.regex? =
        patterns.map fun p => (Regex.compile (ρ := ρ) p).toOption := by
  induction requests using List.reverseRecOn with
  | nil =>
    rw [after_nil, hempty] at he
    cases he
  | append_singleton earlier r ih =>
    rw [after_concat] at hroom he ⊢
    have hgrown : _ ≤ ((c.after earlier).serve r).2.engine.slots.size :=
      stepwise_size.serve (c.after earlier) r fun _ _ => trivial
    have hearlier : (c.after earlier).engine.Roomy := Nat.le_trans hgrown hroom
    obtain ⟨d, hr, hd⟩ := (hh.after earlier hearlier).1.serve r hroom
    rw [hr] at he ⊢
    rcases hd.entries e he with
      ⟨hold, hsame⟩ | ⟨patterns, text, start, rfl, -, hn, rs, hall, hp⟩
    · obtain ⟨before, patterns, text, start, rest, rfl, habsent, hever, hp⟩ := ih hearlier hold
      refine ⟨before, patterns, text, start, rest ++ [r], by simp, habsent, ?_, hsame.trans hp⟩
      intro mid hm
      rcases List.prefix_concat_iff.mp hm with rfl | hm
      · rw [← List.cons_append, ← List.append_assoc, after_concat, hr]
        exact he
      · exact hever mid hm
    · have habsent : (c.after earlier).contains e.owner = false := by
        rw [contains_eq_isSome, hn]
        rfl
      refine ⟨earlier, patterns, text, start, [], rfl, habsent, ?_, ?_⟩
      · intro mid hm
        obtain rfl := List.prefix_nil.mp hm
        rw [after_concat, hr]
        exact he
      · rw [hp]
        exact (map_toOption_of_compileAll hall).symm

theorem Holds.liveCount_eq (hh : c.Holds []) (hroom : c.engine.Roomy) :
    c.liveCount = (c.entries.map fun e => e.handles.length).sum := by
  rw [← List.length_flatMap]
  exact hh.engine.live_eq_length hroom hh.handles_nodup hh.live_iff_mem

/-- Whatever is asked of a cache on a new arena, as long as its slots have numbers of their own: the
cache is never over-full, no scanner has two entries, every entry has what the patterns of the
search that created it compile to, in order, every live slot belongs to one place of one entry, and
no release and no search has ever failed. -/
theorem entries_correspond (capacity : Nat) (requests : List Request)
    (hroom : ((new (RegexArena.empty : RegexArena ρ) capacity).after requests).engine.slots.size ≤
      UInt32.size) :
    let start : Cache (RegexArena ρ) := new .empty capacity
    let c := start.after requests
    1 ≤ c.capacity ∧ c.size ≤ c.capacity ∧ (c.entries.map Entry.owner).Nodup ∧
    (∀ e ∈ c.entries, ∃ before patterns text first rest,
      requests = before ++ .find e.owner patterns text first :: rest ∧
      (start.after before).contains e.owner = false ∧
      (∀ mid, mid <+: rest →
        e ∈ (start.after (before ++ .find e.owner patterns text first :: mid)).entries) ∧
      e.handles.map c.engine.regex? =
        patterns.map fun p => (Regex.compile (ρ := ρ) p).toOption) ∧
    c.handles.Nodup ∧ (∀ h, c.engine.isLive h = true ↔ h ∈ c.handles) ∧
    c.liveCount = (c.entries.map fun e => e.handles.length).sum ∧
    c.counters.releaseFailures = 0 ∧
    ∀ reply ∈ start.replies requests, ∀ account,
      reply ≠ .error (.release account) ∧ reply ≠ .error (.searching account) := by
  intro start c
  have hnew : start.Holds [] := holds_empty capacity
  obtain ⟨hh, hf⟩ := hnew.after requests hroom
  refine ⟨c.capacity_pos, c.length_le, c.owners_nodup, hnew.origin rfl requests hroom,
    hh.handles_nodup, hh.live_iff_mem, hh.liveCount_eq hroom, hf, ?_⟩
  intro reply hm account
  obtain ⟨before, r, rest, rfl, rfl⟩ := mem_replies _ hm
  rw [after_append, after_cons] at hroom
  have hserved : ((start.after before).serve r).2.engine.Roomy :=
    Nat.le_trans (size_le_after _ rest) hroom
  have hbefore : (start.after before).engine.Roomy :=
    Nat.le_trans (stepwise_size.serve _ r fun _ _ => trivial) hserved
  obtain ⟨d, hr, -⟩ := (hnew.after before hbefore).1.serve r hserved
  rw [hr]
  constructor
  · intro he
    rcases expected_eq_error he with h | ⟨_, _, h⟩ <;> cases h
  · intro he
    rcases expected_eq_error he with h | ⟨_, _, h⟩ <;> cases h

end

/-- Two patterns of one scanner make room for that of another; a pattern that is refused leaves
nothing. -/
theorem entries_correspond_refused :
    let c := (new (.empty : Arena) 1).after
      [.find ⟨1⟩ ["", ""] #[] 0, .find ⟨2⟩ [""] #[] 0, .find ⟨3⟩ ["", "("] #[] 0]
    c.engine.slots.size ≤ UInt32.size ∧ c.handles.Nodup ∧ c.counters.releaseFailures = 0 ∧
      c.liveCount = (c.entries.map fun e => e.handles.length).sum ∧
      c.handles = [⟨2⟩] ∧ c.engine.slots.size = 3 := by
  intro c
  have hsize : c.engine.slots.size ≤ UInt32.size := by decide +kernel
  obtain ⟨-, -, -, -, hnodup, -, hlive, hfailures, -⟩ := entries_correspond 1 _ hsize
  exact ⟨hsize, hnodup, hfailures, hlive, by decide +kernel, by decide +kernel⟩

end PatternScan.Cache
