import PatternScan.Engine.Scripted
import PatternScan.Proofs.Cache.Disposals

namespace PatternScan.Cache

section

variable {σ : Type} [Engine σ]

/-- An engine compiles patterns one after the other, gives these handles, and then is the last. -/
inductive Compiles : σ → List String → List Handle → σ → Prop where
  | nil (engine : σ) : Compiles engine [] [] engine
  | cons {engine next last : σ} {pattern : String} {rest : List String} {handle : Handle}
      {hs : List Handle} (first : Engine.compile engine (patternBytes pattern) = (.ok handle, next))
      (others : Compiles next rest hs last) : Compiles engine (pattern :: rest) (handle :: hs) last

variable {engine last : σ} {patterns : List String} {hs : List Handle}

theorem compiles_or_refuses (engine : σ) (patterns : List String) :
    (∃ hs last, Compiles engine patterns hs last) ∨
    ∃ before pattern rest hs last status refusing, patterns = before ++ pattern :: rest ∧
      Compiles engine before hs last ∧
      Engine.compile last (patternBytes pattern) = (.error status, refusing) := by
  induction patterns generalizing engine with
  | nil => exact Or.inl ⟨[], engine, .nil engine⟩
  | cons pattern rest ih =>
    rcases hc : Engine.compile engine (patternBytes pattern) with ⟨status | handle, next⟩
    · exact Or.inr ⟨[], pattern, rest, [], engine, status, next, rfl, .nil engine, hc⟩
    · rcases ih next with ⟨hs, last, h⟩ | ⟨before, other, later, hs, last, status, e, rfl, h, hr⟩
      · exact Or.inl ⟨handle :: hs, last, .cons hc h⟩
      · exact Or.inr ⟨pattern :: before, other, later, handle :: hs, last, status, e, rfl,
          .cons hc h, hr⟩

theorem compileFrom_of_compiles {c : Cache σ} (h : Compiles c.engine patterns hs last)
    (index : Nat) (done : List Handle) :
    c.compileFrom index done patterns = (.ok (done.reverse ++ hs), { c with engine := last }) := by
  induction patterns generalizing c index done hs with
  | nil =>
    cases h
    rw [compileFrom, List.append_nil]
  | cons pattern rest ih =>
    obtain _ | ⟨hfirst, hothers⟩ := h
    rw [compileFrom, hfirst]
    dsimp only
    rw [ih (c := { c with engine := _ }) hothers, List.reverse_cons, List.append_assoc]
    rfl

theorem compileFrom_of_refusal {c : Cache σ} {refusing : σ} {pattern : String} {status : Status}
    (h : Compiles c.engine patterns hs last)
    (hr : Engine.compile last (patternBytes pattern) = (.error status, refusing))
    (index : Nat) (done : List Handle) (rest : List String) :
    c.compileFrom index done (patterns ++ pattern :: rest) =
      (.error (.compilation (index + patterns.length) (account refusing)),
        discard { c with engine := refusing } (done.reverse ++ hs)) := by
  induction patterns generalizing c index done hs with
  | nil =>
    cases h
    rw [List.nil_append, compileFrom, hr, List.append_nil]
    rfl
  | cons other before ih =>
    obtain _ | ⟨hfirst, hothers⟩ := h
    rw [List.cons_append, compileFrom, hfirst]
    dsimp only
    rw [ih (c := { c with engine := _ }) hothers, List.reverse_cons, List.append_assoc,
      List.length_cons, Nat.add_assoc, Nat.add_comm 1]
    rfl

theorem findBest_of_refusal {c : Cache σ} {owner : ScannerId} {refusing : σ} {pattern : String}
    {status : Status} (hn : c.lookup? owner = none) (h : Compiles c.engine patterns hs last)
    (hr : Engine.compile last (patternBytes pattern) = (.error status, refusing))
    (rest : List String) (text : Array UInt8) (start : Nat) :
    c.findBest owner (patterns ++ pattern :: rest) text start =
      (.error (.compilation patterns.length (account refusing)),
        disposed { c.countMiss with engine := refusing }
          (disposals refusing (withoutEmpty [hs]))) := by
  have hcompile := compileFrom_of_refusal (c := c.countMiss) h hr 0 [] rest
  unfold findBest ensureCompiled compile
  rw [RecencyList.get_of_peek_eq_none hn]
  dsimp only
  rw [hcompile]
  simp only [discard, release_eq, List.reverse_nil, List.nil_append, Nat.zero_add]

end

section

variable {σ : Type} [Engine σ]

/-- The calls in which patterns were compiled. -/
def compilations (patterns : List String) (hs : List Handle) : List EngineEvent :=
  List.zipWith (fun pattern handle => .compile (patternBytes pattern) (.ok handle)) patterns hs

theorem Compiles.log {r last : Recorded σ} {patterns : List String} {hs : List Handle}
    (h : Compiles r patterns hs last) : last.log = r.log ++ compilations patterns hs := by
  induction h with
  | nil r => exact (List.append_nil _).symm
  | cons hfirst _ ih =>
    rename_i r next last pattern rest handle hs _
    have hlog := r.log_compile (patternBytes pattern)
    rw [hfirst] at hlog
    rw [ih, hlog, List.append_assoc]
    rfl

/-- A search for whose scanner there is no entry, and that the engine ends by refusing a pattern, is
undone: its failure names the pattern and carries what the engine had to say of it before anything
else happened; the engine was asked to compile the patterns up to that one, in order, and to take
back at once what it had compiled, if that was anything, and it was asked nothing more. Entries,
their order and the capacity stay; a miss is counted, and the clean-up if that was refused. The
record of the engine's calls takes no part in this. -/
theorem refused_search_undone {c : Cache (Recorded σ)} {owner : ScannerId} {before : List String}
    {pattern : String} {hs : List Handle} {last refusing : Recorded σ} {status : Status}
    (hn : c.contains owner = false) (hbefore : Compiles c.engine before hs last)
    (hrefused : Engine.compile last (patternBytes pattern) = (.error status, refusing))
    (rest : List String) (text : Array UInt8) (start : Nat) :
    let (outcome, d) := c.findBest owner (before ++ pattern :: rest) text start
    let cleanUp := disposals refusing (if before.isEmpty then [] else [hs])
    outcome = .error (.compilation before.length (account refusing)) ∧
    d.engine.log = c.engine.log ++ compilations before hs ++
      [.compile (patternBytes pattern) (.error status)] ++ cleanUp.map Disposal.event ∧
    d.entries = c.entries ∧ d.contains owner = false ∧
    d.capacity = c.capacity ∧ d.logEvictions = c.logEvictions ∧
    d.counters = { c.counters with
      misses := c.counters.misses + 1
      releaseFailures := c.counters.releaseFailures + cleanUp.countP Disposal.isRefused } ∧
    (c.mapEngine Recorded.inner).findBest owner (before ++ pattern :: rest) text start =
      (outcome, d.mapEngine Recorded.inner) := by
  have hnone : c.lookup? owner = none := by simpa [contains_eq_isSome] using hn
  have hbatch : withoutEmpty [hs] = if before.isEmpty then [] else [hs] := by
    cases hbefore with
    | nil => rfl
    | cons _ _ => rfl
  have hlog := last.log_compile (patternBytes pattern)
  rw [hrefused, hbefore.log] at hlog
  have hsame := findBest_mapEngine Recorded.agrees c owner (before ++ pattern :: rest) text start
  rw [findBest_of_refusal hnone hbefore hrefused, hbatch] at hsame ⊢
  refine ⟨rfl, ?_, rfl, hn, rfl, rfl, rfl, hsame⟩
  exact (log_disposals _ _).trans (congrArg (· ++ _) hlog)

def stubborn : Scripted :=
  { plan := { compiling := [.forward, .fail [110, 111]], disposing := [.fail [98, 97, 100]] } }

/-- In a cache that is full the other scanner's entry stays, and the failure is told in the words
that the engine had before it refused the clean-up. -/
theorem refused_search_undone_not_taken_back :
    let empty : Cache (Recorded Scripted) := new ⟨stubborn, []⟩ 1
    let c : Cache (Recorded Scripted) := { empty with toRecencyList := empty.put ⟨⟨2⟩, []⟩ }
    let (outcome, d) := c.findBest ⟨1⟩ ["", "("] #[] 0
    c.contains ⟨1⟩ = false ∧ outcome = .error (.compilation 1 "no") ∧
    d.entries = [⟨⟨2⟩, []⟩] ∧ d.counters = { misses := 1, releaseFailures := 1 } ∧
    account d.engine = "bad" := by
  intro empty c
  let next := (Engine.compile c.engine (patternBytes "")).2
  let refusing := (Engine.compile next (patternBytes "(")).2
  have hcontains : c.contains ⟨1⟩ = false := rfl
  have hfirst : Engine.compile c.engine (patternBytes "") = (.ok ⟨0⟩, next) :=
    rfl
  have hrefused : Engine.compile next (patternBytes "(") = (.error .compileFailed, refusing) :=
    rfl
  have haccount : account refusing = "no" := by decide +kernel
  obtain ⟨houtcome, -, hentries, -, -, -, hcounters, -⟩ :=
    refused_search_undone hcontains (.cons hfirst (.nil next)) hrefused [] #[] 0
  rw [haccount] at houtcome
  exact ⟨hcontains, houtcome, hentries, hcounters, by decide +kernel⟩

end
end PatternScan.Cache
