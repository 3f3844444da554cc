import PatternScan.Proofs.Cache.Aftermath
import PatternScan.Proofs.Cache.Holding

namespace PatternScan

def EngineEvent.status? : EngineEvent → Option Status
  | .compile _ (.error status) => some status
  | .findBest _ _ _ (.error status) => some status
  | .dispose _ (.error status) => some status
  | _ => none

namespace Cache

/-- What a cache asks of an engine, and what some engine answered: only patterns that the cache
itself was asked for are compiled. -/
inductive Heard (σ : Type) [Engine σ] (asked : String → Prop) : EngineEvent → Prop where
  | compile (s : σ) {pattern : String} (h : asked pattern) : Heard σ asked
    (.compile (patternBytes pattern) (Engine.compile s (patternBytes pattern)).1)
  | findBest (s : σ) (handles : List Handle) (text : Array UInt8) (start : Nat) :
    Heard σ asked (.findBest handles text start (Engine.findBest s handles text start).1)
  | dispose (s : σ) (handles : List Handle) :
    Heard σ asked (.dispose handles (Engine.dispose s handles).1)

section

variable {σ : Type} [Engine σ] {asked : String → Prop} {r s t : Recorded σ}

def HeardSince (asked : String → Prop) (r s : Recorded σ) : Prop :=
  ∃ calls, s.log = r.log ++ calls ∧ ∀ e ∈ calls, Heard σ asked e

theorem HeardSince.refl (r : Recorded σ) : HeardSince asked r r :=
  ⟨[], (List.append_nil _).symm, by simp⟩

theorem HeardSince.trans (hr : HeardSince asked r s) (hs : HeardSince asked s t) :
    HeardSince asked r t := by
  obtain ⟨calls, hs', hcalls⟩ := hr
  obtain ⟨more, ht, hmore⟩ := hs
  refine ⟨calls ++ more, by rw [ht, hs', List.append_assoc], ?_⟩
  intro e he
  exact (List.mem_append.mp he).elim (hcalls e) (hmore e)

theorem HeardSince.concat {e : EngineEvent} (hlog : s.log = r.log ++ [e]) (he : Heard σ asked e) :
    HeardSince asked r s :=
  ⟨[e], hlog, by simpa using he⟩

theorem stepwise_heardSince :
    Stepwise asked fun c d : Cache (Recorded σ) => HeardSince asked c.engine d.engine where
  trans := HeardSince.trans
  book he _ := he ▸ .refl _
  release c hs := by
    by_cases hempty : hs = []
    · subst hempty
      exact .refl _
    · rw [engine_release c hempty]
      exact .concat (c.engine.log_dispose hs) (.dispose c.engine.inner hs)
  compile c _ h := .concat (c.engine.log_compile _) (.compile c.engine.inner h)
  search c hs text start :=
    .concat (c.engine.log_findBest hs text start) (.findBest c.engine.inner hs text start)

end

section

variable {σ : Type} [Engine σ]

theorem exists_refusal_of_findBest {c : Cache σ} {owner : ScannerId} {patterns : List String}
    {text : Array UInt8} {start : Nat}
    (h : refused (c.findBest owner patterns text start).1 = true) :
    ∃ before pattern rest hs last status refusing, patterns = before ++ pattern :: rest ∧
      Compiles c.engine before hs last ∧
      Engine.compile last (patternBytes pattern) = (.error status, refusing) ∧
      (c.findBest owner patterns text start).1 =
        .error (.compilation before.length (account refusing)) := by
  rw [refused_findBest] at h
  rcases c.ensureCompiled_cases owner patterns with
    ⟨entry, -, hr⟩ | ⟨hn, failure, d, hc, hr⟩ | ⟨-, hs, d, -, hr⟩
  · rw [hr] at h
    cases h
  · rcases compiles_or_refuses c.engine patterns with
      ⟨hs, last, hall⟩ | ⟨before, pattern, rest, hs, last, status, refusing, rfl, hbefore, hlast⟩
    · have hok := compileFrom_of_compiles (c := c.countMiss) hall 0 []
      cases hok.symm.trans hc
    · refine ⟨before, pattern, rest, hs, last, status, refusing, rfl, hbefore, hlast, ?_⟩
      rw [findBest_of_refusal hn hbefore hlast]
  · rw [hr, refused_map, insert, releaseOnly_makeRoom.refused_eq_false] at h
    cases h

/-- A request fails over a pattern only if it is a search. The patterns before that one compiled,
and the account is what the engine had to say of it at once. -/
theorem exists_refusal {c : Cache σ} {r : Request} {index : Nat} {words : String}
    (h : (c.serve r).1 = .error (.compilation index words)) :
    ∃ owner before pattern rest text start hs last status refusing,
      r = .find owner (before ++ pattern :: rest) text start ∧ Compiles c.engine before hs last ∧
      Engine.compile last (patternBytes pattern) = (.error status, refusing) ∧
      index = before.length ∧ words = account refusing := by
  have hrefused : refused (c.serve r).1 = true := by rw [h, refused]
  cases r with
  | find owner patterns text start =>
    obtain ⟨before, pattern, rest, hs, last, status, refusing, rfl, hbefore, hlast, hfind⟩ :=
      exists_refusal_of_findBest ((refused_map _ _).symm.trans hrefused)
    have he := hfind.symm.trans (Except.map_eq_error_iff.mp h)
    cases he
    exact ⟨owner, before, pattern, rest, text, start, hs, last, status, refusing, rfl, hbefore,
      hlast, rfl, rfl⟩
  | evict owner =>
    cases hrefused.symm.trans ((refused_map _ _).trans releaseOnly_evict.refused_eq_false)
  | clear => cases hrefused.symm.trans ((refused_map _ _).trans releaseOnly_clear.refused_eq_false)
  | resize capacity => cases hrefused.symm.trans ((refused_map _ _).trans (refused_resize capacity))
  | setLog on => cases h

end

section

variable {ρ : Type} [Regex ρ]

theorem withoutTerminator_patternBytes (pattern : String) :
    RegexArena.withoutTerminator (patternBytes pattern) = Text.Utf8.encode pattern.toList := by
  rw [patternBytes_eq]
  simp [RegexArena.withoutTerminator]

/-- What a cache has compiled is a pattern that it was asked for, and the outcome is what the
compiler makes of that pattern. -/
theorem Heard.compile_arena {asked : String → Prop} {bytes : List UInt8}
    {outcome : Except Status Handle} (h : Heard (RegexArena ρ) asked (.compile bytes outcome)) :
    ∃ pattern, asked pattern ∧ bytes = patternBytes pattern ∧
      ((∃ (r : ρ) (h : Handle), Regex.compile pattern = .ok r ∧ outcome = .ok h) ∨
        ∃ words, Regex.compile (ρ := ρ) pattern = .error words ∧
          outcome = .error .compileFailed) := by
  cases h with
  | @compile a pattern h =>
    refine ⟨pattern, h, rfl, ?_⟩
    change (∃ (r : ρ) (h : Handle), _ ∧ (a.compile (patternBytes pattern)).1 = _) ∨
      ∃ words, _ ∧ (a.compile (patternBytes pattern)).1 = _
    rw [compile_patternBytes]
    cases Regex.compile (ρ := ρ) pattern with
    | ok r => exact Or.inl ⟨r, _, rfl, rfl⟩
    | error words => exact Or.inr ⟨words, rfl, rfl⟩

theorem Heard.ne_invalidInput {asked : String → Prop} {e : EngineEvent}
    (h : Heard (RegexArena ρ) asked e) :
    e.status? ≠ some .invalidInput := by
  cases h with
  | @compile a pattern h =>
    change EngineEvent.status? (.compile _ (a.compile (patternBytes pattern)).1) ≠ _
    rw [compile_patternBytes]
    cases Regex.compile (ρ := ρ) pattern <;> simp [EngineEvent.status?]
  | findBest a handles text start =>
    change EngineEvent.status? (.findBest _ _ _ (a.findBest handles text start).1) ≠ _
    rcases a.findBest_cases handles text start with ⟨found, hf⟩ | ⟨message, hf⟩ <;>
      simp [EngineEvent.status?, hf]
  | dispose a handles =>
    change EngineEvent.status? (.dispose _ (a.dispose handles).1) ≠ _
    rcases a.dispose_cases handles with ⟨-, -, hd⟩ | ⟨message, hd⟩ <;>
      simp [EngineEvent.status?, hd]

theorem Compiles.all_compile {a last : RegexArena ρ} {patterns : List String} {hs : List Handle}
    (h : Compiles a patterns hs last) : ∀ s ∈ patterns, ∃ r : ρ, Regex.compile s = .ok r := by
  induction h with
  | nil => simp
  | @cons a next last pattern rest handle hs first others ih =>
    refine List.forall_mem_cons.mpr ⟨?_, ih⟩
    have hc := (compile_patternBytes a pattern).symm.trans first
    cases hp : Regex.compile (ρ := ρ) pattern with
    | ok r => exact ⟨r, rfl⟩
    | error words =>
      rw [hp] at hc
      cases hc

/-- Pattern text reaches the compiler unchanged. Without its terminator, what an arena gets for a
pattern is the UTF-8 form of that pattern, which is read as the pattern again, and the outcome is
what the compiler makes of it. So whatever requests come to a cache, its arena compiles patterns of
these requests only, refuses one just when the compiler does, and never finds a call unreadable. A
request that fails over a pattern is a search that has to compile it: the patterns before it
compile, it does not, and the account is the compiler's own of that pattern. -/
theorem pattern_text_unchanged (ρ : Type) [Regex ρ] :
    (∀ pattern : String,
      RegexArena.withoutTerminator (patternBytes pattern) = pattern.toUTF8.toList ∧
      Text.Utf8.validate (RegexArena.withoutTerminator (patternBytes pattern)) = .ok pattern ∧
      ∀ a : RegexArena ρ, a.compile (patternBytes pattern) =
        match Regex.compile (ρ := ρ) pattern with
        | .error words => (.error .compileFailed, { a with lastError := words })
        | .ok r => (.ok (a.store r).1, (a.store r).2)) ∧
    (∀ (c : Cache (Recorded (RegexArena ρ))) (requests : List Request), ∃ calls,
      (c.after requests).engine.log = c.engine.log ++ calls ∧
      ∀ e ∈ calls, e.status? ≠ some .invalidInput ∧
        ∀ bytes outcome, e = .compile bytes outcome →
          ∃ pattern, (∃ r ∈ requests, pattern ∈ r.patterns) ∧ bytes = patternBytes pattern ∧
            ((∃ (r : ρ) (h : Handle), Regex.compile pattern = .ok r ∧ outcome = .ok h) ∨
              ∃ words, Regex.compile (ρ := ρ) pattern = .error words ∧
                outcome = .error .compileFailed)) ∧
    ∀ (c : Cache (RegexArena ρ)) (r : Request) (index : Nat) (words : String),
      (c.serve r).1 = .error (.compilation index words) →
        ∃ owner before pattern rest text start,
          r = .find owner (before ++ pattern :: rest) text start ∧ index = before.length ∧
          (∀ s ∈ before, ∃ q : ρ, Regex.compile s = .ok q) ∧
          Regex.compile (ρ := ρ) pattern = .error words := by
  refine ⟨?_, ?_, ?_⟩
  · intro pattern
    rw [withoutTerminator_patternBytes, Text.Utf8.validate_encode, String.ofList_toList]
    exact ⟨(Text.Utf8.toList_toUTF8 pattern).symm, rfl, fun a => compile_patternBytes a pattern⟩
  · intro c requests
    have hasked : ∀ r ∈ requests, ∀ p ∈ r.patterns, ∃ r ∈ requests, p ∈ r.patterns :=
      fun r hr p hp => ⟨r, hr, hp⟩
    obtain ⟨calls, hlog, hcalls⟩ := stepwise_heardSince.after c requests hasked
    refine ⟨calls, hlog, fun e he => ⟨(hcalls e he).ne_invalidInput, ?_⟩⟩
    rintro bytes outcome rfl
    exact (hcalls _ he).compile_arena
  · intro c r index words h
    obtain ⟨owner, before, pattern, rest, text, start, hs, last, status, refusing, rfl, hbefore,
      hlast, rfl, rfl⟩ := exists_refusal h
    have hc := (compile_patternBytes last pattern).symm.trans hlast
    cases hp : Regex.compile (ρ := ρ) pattern with
    | ok q =>
      rw [hp] at hc
      cases hc
    | error words =>
      rw [hp] at hc
      cases hc
      refine ⟨owner, before, pattern, rest, text, start, rfl, rfl, hbefore.all_compile, ?_⟩
      rw [account_arena]
      exact hp

end

example : RegexArena.withoutTerminator (patternBytes "😀\x00") =
    [0xF0, 0x9F, 0x98, 0x80, 0x00] := by decide

end Cache
end PatternScan
