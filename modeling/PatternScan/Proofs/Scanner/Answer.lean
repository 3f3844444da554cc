import PatternScan.Proofs.Cache.Correspondence
import PatternScan.Proofs.Scanner.Served

namespace PatternScan

section

variable {ρ : Type} [Regex ρ]

namespace Scanner

/-- What a scanner finds, as if it compiled its sources for this one search. -/
def answer (ρ : Type) [Regex ρ] (s : Scanner) (text : IndexedText) (start : Nat) :
    Except Failure (Option ScanMatch) :=
  if s.sources.isEmpty then .ok none
  else (compileAll 0 s.sources).map fun rs : List ρ =>
    (bestMatch rs text.content (text.toByte start)).map fun f =>
      ⟨f.patternIndex, captures text f.captures⟩

theorem answer_of_empty {s : Scanner} (h : s.sources = []) (text : IndexedText) (start : Nat) :
    s.answer ρ text start = .ok none := by
  rw [answer, h]
  rfl

theorem answer_of_compiles {s : Scanner} {rs : List ρ}
    (h : s.sources.map Regex.compile = rs.map .ok) (text : IndexedText) (start : Nat) :
    s.answer ρ text start = .ok ((bestMatch rs text.content (text.toByte start)).map fun f =>
      ⟨f.patternIndex, captures text f.captures⟩) := by
  have hall : compileAll 0 s.sources = .ok rs := compileAll_eq_ok_iff.mpr h
  rw [answer, hall]
  cases hs : s.sources with
  | nil =>
    rw [hs] at h
    obtain rfl := List.map_eq_nil_iff.mp h.symm
    rw [bestMatch_nil]
    rfl
  | cons source rest => rfl

/-- A search fails just when a source is refused, and then with the least index of such a source. -/
theorem answer_eq_error_iff {s : Scanner} {text : IndexedText} {start : Nat} {failure : Failure} :
    s.answer ρ text start = .error failure ↔
      ∃ before source rest words, s.sources = before ++ source :: rest ∧
        (∀ t ∈ before, ∃ r : ρ, Regex.compile t = .ok r) ∧
        Regex.compile (ρ := ρ) source = .error words ∧
        failure = .compilation before.length words := by
  have hall : compileAll (ρ := ρ) 0 s.sources = .error failure ↔ _ := compileAll_eq_error_iff
  simp only [Nat.zero_add] at hall
  rw [← hall, answer]
  cases hs : s.sources with
  | nil => simp [compileAll]
  | cons source rest => cases compileAll (ρ := ρ) 0 (source :: rest) <;> simp [Except.map]

end Scanner

namespace Cache

variable {c : Cache (RegexArena ρ)} {scanners : List Scanner} {next : ScannerId}

/-- All owners come before `next`, and the entry of a scanner has what its sources compile to. -/
structure Faithful (c : Cache (RegexArena ρ)) (scanners : List Scanner) (next : ScannerId) :
    Prop where
  holds : ∃ foreign, c.Holds foreign
  owner_lt : ∀ e ∈ c.entries, e.owner.number < next.number
  regexes : ∀ e ∈ c.entries, ∀ s ∈ scanners, s.id = e.owner →
    ∃ rs : List ρ, compileAll 0 s.sources = .ok rs ∧
      e.handles.map c.engine.regex? = rs.map some

def Request.Honest (scanners : List Scanner) (next : ScannerId) : Request → Prop
  | .find owner patterns _ _ =>
    owner.number < next.number ∧ ∀ s ∈ scanners, s.id = owner → s.sources = patterns
  | _ => True

/-- An arena may have been in use before it got a cache. -/
theorem faithful_new {engine : RegexArena ρ} (hr : engine.Reachable) (capacity : Nat)
    (scanners : List Scanner) (next : ScannerId) :
    (new engine capacity).Faithful scanners next := by
  obtain ⟨foreign, hn, hl⟩ := engine.exists_live
  have hnone : ∀ e, e ∉ (new engine capacity).entries := fun e => List.not_mem_nil
  refine ⟨⟨foreign, holds_new hr.sound hn hl capacity⟩, ?_, ?_⟩
  · exact fun e he => absurd he (hnone e)
  · exact fun e he => absurd he (hnone e)

theorem Faithful.serve (hc : c.Faithful scanners next) {r : Request}
    (hr : r.Honest scanners next) (hroom : (c.serve r).2.engine.Roomy) :
    (c.serve r).2.Faithful scanners next := by
  obtain ⟨foreign, hh⟩ := hc.holds
  obtain ⟨d, hd, hev⟩ := hh.serve r hroom
  rw [hd]
  refine ⟨⟨foreign, hev.holds⟩, ?_, ?_⟩
  · intro e he
    rcases hev.entries e he with ⟨hold, -⟩ | ⟨patterns, text, start, rfl, -⟩
    · exact hc.owner_lt e hold
    · exact hr.1
  · intro e he s hs hid
    rcases hev.entries e he with
      ⟨hold, hsame⟩ | ⟨patterns, text, start, rfl, -, -, rs, hall, hp⟩
    · obtain ⟨rs, hall, hp⟩ := hc.regexes e hold s hs hid
      exact ⟨rs, hall, hsame.trans hp⟩
    · exact ⟨rs, hr.2 s hs hid ▸ hall, hp⟩

theorem faithful_withConfig {engine : RegexArena ρ} (hr : engine.Reachable) {config : Config}
    (h : withConfig engine config = .ok c) : c.Faithful scanners next := by
  have hnew := faithful_new hr config.capacity scanners next
  unfold withConfig at h
  cases hv : config.validate with
  | error failure =>
    rw [hv] at h
    cases h
  | ok _ =>
    rw [hv] at h
    cases h
    exact ⟨hnew.holds.imp fun _ hh => hh.move rfl (List.Perm.refl _), hnew.owner_lt, hnew.regexes⟩

theorem Faithful.regexesFor (hc : c.Faithful scanners next) {s : Scanner} (hs : s ∈ scanners) :
    c.regexesFor s.id s.sources = compileAll 0 s.sources := by
  unfold Cache.regexesFor
  cases he : c.lookup? s.id with
  | none => rfl
  | some e =>
    obtain ⟨rs, hall, hp⟩ :=
      hc.regexes e (RecencyList.mem_of_peek he) s hs (RecencyList.owner_of_peek he).symm
    have hlive := congrArg (List.filterMap id) hp
    rw [List.filterMap_map, List.filterMap_map, Function.id_comp, Function.id_comp,
      List.filterMap_some] at hlive
    exact (congrArg Except.ok hlive).trans hall.symm

/-- A new identity has no entry yet, so a new scanner finds nothing of its own. -/
theorem Faithful.addScanners (hc : c.Faithful scanners next) {added : List Scanner}
    (ha : ∀ s ∈ added, s.id = next) : c.Faithful (scanners ++ added) next.next := by
  refine ⟨hc.holds, ?_, ?_⟩
  · intro e he
    exact Nat.lt_succ_of_lt (hc.owner_lt e he)
  · intro e he s hs hid
    rcases List.mem_append.mp hs with hs | hs
    · exact hc.regexes e he s hs hid
    · have hlt := hc.owner_lt e he
      rw [← hid, ha s hs] at hlt
      exact absurd hlt (Nat.lt_irrefl _)

end Cache

/-- A cache that nobody holds and that is faithful to scanners, as long as its slots have numbers of
their own. -/
structure SharedCache.Ready (s : SharedCache (RegexArena ρ)) (scanners : List Scanner)
    (next : ScannerId) : Prop where
  free : s.hold = .free
  faithful : s.cache.engine.Roomy → s.cache.Faithful scanners next

end

/-- What each scanner needs of the others: identities were given out, each to one scanner. -/
structure Registered (scanners : List Scanner) (next : ScannerId) : Prop where
  id_lt : ∀ s ∈ scanners, s.id.number < next.number
  id_inj : ∀ s ∈ scanners, ∀ t ∈ scanners, s.id = t.id → s = t

theorem Registered.honest {scanners : List Scanner} {next : ScannerId}
    (hr : Registered scanners next) {s : Scanner} (hs : s ∈ scanners)
    {r : Cache.Request} (ha : s.Asks r) : r.Honest scanners next := by
  cases r with
  | find owner patterns text start =>
    obtain ⟨rfl, rfl, -⟩ := ha
    exact ⟨hr.id_lt s hs, fun t ht hid => congrArg Scanner.sources (hr.id_inj t ht s hs hid)⟩
  | _ => trivial

section

variable {ρ α : Type} [Regex ρ] {shared : SharedCache (RegexArena ρ)} {scanners : List Scanner}
  {next : ScannerId}

theorem SharedCache.Ready.served (hs : shared.Ready scanners next)
    {later : SharedCache (RegexArena ρ)} {allowed : Cache.Request → Prop}
    (h : shared.Served later allowed) (ha : ∀ r, allowed r → r.Honest scanners next) :
    later.Ready scanners next := by
  have hstep : ∀ (c : Cache (RegexArena ρ)) (r : Cache.Request),
      (c.engine.Roomy → c.Faithful scanners next) → allowed r →
        (c.serve r).2.engine.Roomy → (c.serve r).2.Faithful scanners next := by
    intro c r hc hr hroom
    have hbefore : c.engine.Roomy :=
      Nat.le_trans (Cache.stepwise_size.serve c r fun _ _ => trivial) hroom
    exact (hc hbefore).serve (ha r hr) hroom
  exact ⟨h.hold.trans hs.free, h.preserves hstep hs.faithful⟩

theorem SharedCache.Ready.change (hs : shared.Ready scanners next)
    {use : Cache (RegexArena ρ) → Except Failure α × Cache (RegexArena ρ)} {r : Cache.Request}
    (hu : ∀ c, (use c).2 = (c.serve r).2) (hr : r.Honest scanners next) :
    (shared.change use).2.Ready scanners next :=
  hs.served (served_change hu (Eq.refl r)) fun _ he => he ▸ hr

namespace Scanner

theorem findNext_answer (hs : shared.Ready scanners next) {s : Scanner} (hm : s ∈ scanners)
    (text : IndexedText) (start : Nat)
    (hroom : (s.findNext text start shared).2.cache.engine.Roomy) :
    (s.findNext text start shared).1 = s.answer ρ text start := by
  unfold findNext at hroom ⊢
  unfold answer
  split at hroom
  · rename_i hempty
    rw [if_pos hempty, if_pos hempty]
  · rename_i hne
    rw [if_neg hne, if_neg hne]
    rw [SharedCache.change_of_free hs.free] at hroom ⊢
    have hbefore : shared.cache.engine.Roomy :=
      Nat.le_trans (Cache.stepwise_size.findBest shared.cache s.id (fun _ _ => trivial) _ _) hroom
    obtain ⟨foreign, hh⟩ := (hs.faithful hbefore).holds
    obtain ⟨d, hd, -⟩ := hh.findBest s.id s.sources text.content (text.toByte start) hroom
    simp only [hd, (hs.faithful hbefore).regexesFor hm]
    cases compileAll (ρ := ρ) 0 s.sources <;> rfl

theorem ready_findNext (hs : shared.Ready scanners next) (hr : Registered scanners next)
    {s : Scanner} (hm : s ∈ scanners) (text : IndexedText) (start : Nat) :
    (s.findNext text start shared).2.Ready scanners next :=
  hs.served (s.served_findNext text start) fun _ ha => hr.honest hm ha

theorem ready_dispose (hs : shared.Ready scanners next) (s : Scanner) :
    (s.dispose shared).2.Ready scanners next :=
  hs.change (r := .evict s.id) (fun _ => rfl) trivial

end Scanner

namespace Finder

theorem search_answer (hs : shared.Ready scanners next) {f : Finder} {s : Scanner}
    (hf : f.scanner? = some s) (hm : s ∈ scanners) (text : IndexedText) (start : Nat)
    (hroom : (f.search text start shared).2.cache.engine.Roomy) :
    (f.search text start shared).1 =
      (s.answer ρ text start).map fun found => found.map (withText text) := by
  unfold search at hroom ⊢
  rw [hf] at hroom ⊢
  rw [← Scanner.findNext_answer hs hm text start hroom]

theorem ready_search (hs : shared.Ready scanners next) (hr : Registered scanners next) {f : Finder}
    (hf : ∀ s, f.scanner? = some s → s ∈ scanners) (text : IndexedText) (start : Nat) :
    (f.search text start shared).2.Ready scanners next :=
  hs.served (f.served_search text start) fun _ ⟨s, hscanner, ha⟩ => hr.honest (hf s hscanner) ha

theorem ready_test (hs : shared.Ready scanners next) (hr : Registered scanners next) {f : Finder}
    (hf : ∀ s, f.scanner? = some s → s ∈ scanners) (subject : Subject) :
    (f.test subject shared).2.Ready scanners next :=
  hs.served (f.served_test subject) fun _ ⟨s, hscanner, ha⟩ => hr.honest (hf s hscanner) ha

theorem ready_drop (hs : shared.Ready scanners next) (f : Finder) :
    (f.drop shared).Ready scanners next := by
  unfold drop
  split
  · exact Scanner.ready_dispose hs _
  · exact hs

end Finder

theorem SharedCache.Ready.configure (hs : shared.Ready scanners next) (config : Config) :
    (shared.configure config).2.Ready scanners next := by
  apply hs.served (served_configure config)
  rintro r (rfl | rfl) <;> trivial

end

end PatternScan
