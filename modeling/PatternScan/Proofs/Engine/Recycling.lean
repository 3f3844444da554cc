import Mathlib.Data.List.Basic
import PatternScan.Engine.Arena
import PatternScan.Proofs.Engine.Recorded
import PatternScan.Proofs.Engine.Slots

namespace PatternScan

inductive Engine.Call where
  | compile (pattern : List UInt8)
  | findBest (handles : List Handle) (text : Array UInt8) (start : Nat)
  | dispose (handles : List Handle)

section

variable {σ : Type} [Engine σ]

def Engine.Call.perform (s : σ) : Engine.Call → σ
  | .compile pattern => (Engine.compile s pattern).2
  | .findBest handles text start => (Engine.findBest s handles text start).2
  | .dispose handles => (Engine.dispose s handles).2

def Recorded.after (engine : σ) (calls : List Engine.Call) : Recorded σ :=
  calls.foldl Engine.Call.perform ⟨engine, []⟩

theorem Recorded.inner_foldl (r : Recorded σ) (calls : List Engine.Call) :
    (calls.foldl Engine.Call.perform r).inner = calls.foldl Engine.Call.perform r.inner := by
  have hstep : ∀ (r : Recorded σ) (call : Engine.Call),
      call.perform r.inner = (call.perform r).inner := fun r call => by cases call <;> rfl
  exact (List.foldl_hom Recorded.inner hstep).symm

theorem Recorded.inner_after (engine : σ) (calls : List Engine.Call) :
    (Recorded.after engine calls).inner = calls.foldl Engine.Call.perform engine :=
  inner_foldl _ calls

end

def EngineEvent.Turns (h : Handle) : EngineEvent → Prop
  | .compile _ (.ok g) => g = h
  | .dispose hs (.ok ()) => h ∈ hs
  | _ => False

/-- A handle was returned for a pattern, and since then neither returned nor disposed of. -/
def Standing (log : List EngineEvent) (h : Handle) (pattern : List UInt8) : Prop :=
  ∃ before later, log = before ++ .compile pattern (.ok h) :: later ∧ ∀ e ∈ later, ¬ e.Turns h

section

variable {log : List EngineEvent} {h : Handle} {e : EngineEvent} {pattern : List UInt8}

theorem not_standing_nil : ¬ Standing [] h pattern := by
  rintro ⟨before, later, hlog, -⟩
  exact List.append_ne_nil_of_right_ne_nil before (List.cons_ne_nil _ _) hlog.symm

theorem standing_concat_iff : Standing (log ++ [e]) h pattern ↔
    e = .compile pattern (.ok h) ∨ ¬ e.Turns h ∧ Standing log h pattern := by
  constructor
  · rintro ⟨before, later, hlog, hlater⟩
    -- the last event is the one that returned the handle, or one of those since
    rcases List.eq_nil_or_concat later with rfl | ⟨later, last, rfl⟩
    · exact Or.inl (List.head_eq_of_cons_eq (List.append_inj_right' hlog rfl))
    · rw [List.concat_eq_append] at hlog hlater
      rw [← List.cons_append, ← List.append_assoc] at hlog
      obtain ⟨hbefore, hlast⟩ := List.append_inj' hlog rfl
      obtain rfl := List.head_eq_of_cons_eq hlast
      exact Or.inr ⟨hlater e (by simp),
        before, later, hbefore, fun f hf => hlater f (List.mem_append_left _ hf)⟩
  · rintro (rfl | ⟨hnot, before, later, rfl, hlater⟩)
    · exact ⟨log, [], rfl, by simp⟩
    · refine ⟨before, later ++ [e], by simp, ?_⟩
      intro f hf
      rcases List.mem_append.mp hf with hf | hf
      · exact hlater f hf
      · obtain rfl := List.mem_singleton.mp hf
        exact hnot

end

namespace RegexArena

variable {ρ : Type} {a b : RegexArena ρ} {h : Handle} {r : ρ}

/-- What an arena is when an expression was put into it and a handle for it returned. -/
structure Stored (a : RegexArena ρ) (r : ρ) (h : Handle) (b : RegexArena ρ) : Prop where
  fresh : a.isLive h = false
  regex? : ∀ g, b.regex? g = if g = h then some r else a.regex? g
  /-- The slot freed last is used first, and a new one only if none is free. -/
  slot : h.slot.val = (a.free.map Fin.val).headD a.slots.size
  free : b.free = a.free.tail
  size : b.slots.size = if a.free = [] then a.slots.size + 1 else a.slots.size
  live : b.live = a.live + 1
  lastError : b.lastError = a.lastError

theorem Sound.stored (ha : a.Sound) (hroom : (a.store r).2.Roomy) :
    a.Stored r (a.store r).1 (a.store r).2 := by
  refine ⟨isLive_store ha hroom, regex?_store ha hroom, ?_, ?_, ?_, ?_, ?_⟩
  · cases hf : a.free with
    | nil =>
      simp only [RegexArena.store, hf] at hroom ⊢
      exact val_ofNat_size hroom
    | cons slot free => simp [RegexArena.store, hf]
  all_goals cases hf : a.free <;> simp [RegexArena.store, hf]

theorem Sound.mem_free_iff (ha : a.Sound) (hroom : a.Roomy) (i : Nat) :
    i ∈ a.free.map Fin.val ↔ a.slots[i]? = some none := by
  rw [List.mem_map]
  constructor
  · rintro ⟨slot, hm, rfl⟩
    exact (ha.mem_free slot).mp hm
  · intro hi
    have hlt : i < UInt32.size := Nat.lt_of_lt_of_le (Array.getElem?_eq_some_iff.mp hi).1 hroom
    exact ⟨⟨i, hlt⟩, (ha.mem_free ⟨i, hlt⟩).mpr hi, rfl⟩

theorem roomy_store (hlt : a.slots.size < UInt32.size) : (a.store r).2.Roomy := by
  unfold store
  split
  · simpa [Roomy] using Nat.le_of_lt hlt
  · simpa [Roomy] using Nat.succ_le_of_lt hlt

section

variable [Regex ρ]

theorem perform_size (ha : a.Sound) (hlt : a.slots.size < UInt32.size) (call : Engine.Call) :
    (call.perform a).slots.size = a.slots.size ∨
      a.free = [] ∧ (call.perform a).slots.size = a.slots.size + 1 := by
  cases call with
  | compile pattern =>
    change (a.compile pattern).2.slots.size = _ ∨ _ ∧ (a.compile pattern).2.slots.size = _
    rcases a.compile_cases pattern with ⟨r, -, hc⟩ | ⟨-, status, message, hc⟩
    · have hsize := (ha.stored (roomy_store (r := r) hlt)).size
      rw [hc]
      split at hsize
      · rename_i hfree
        exact Or.inr ⟨hfree, hsize⟩
      · exact Or.inl hsize
    · rw [hc]
      exact Or.inl rfl
  | findBest handles text start => exact Or.inl (a.size_findBest handles text start)
  | dispose handles => exact Or.inl (a.size_dispose handles)

theorem size_le_perform (a : RegexArena ρ) (call : Engine.Call) :
    a.slots.size ≤ (call.perform a).slots.size := by
  cases call with
  | compile pattern => exact a.size_le_compile pattern
  | findBest handles text start => exact Nat.le_of_eq (a.size_findBest handles text start).symm
  | dispose handles => exact Nat.le_of_eq (a.size_dispose handles).symm

theorem size_le_performAll (a : RegexArena ρ) (calls : List Engine.Call) :
    a.slots.size ≤ (calls.foldl Engine.Call.perform a).slots.size := by
  induction calls generalizing a with
  | nil => exact Nat.le_refl _
  | cons call rest ih => exact Nat.le_trans (a.size_le_perform call) (ih _)

/-- The live handles are those that stand in the record, for the patterns they were returned for. -/
structure Recalled (s : Recorded (RegexArena ρ)) : Prop where
  sound : s.inner.Sound
  regex? : ∀ h r, s.inner.regex? h = some r ↔
    ∃ pattern, regexOf? pattern = some r ∧ Standing s.log h pattern
  compiles : ∀ h pattern, Standing s.log h pattern → ∃ r : ρ, regexOf? pattern = some r

theorem recalled_empty : Recalled ⟨(RegexArena.empty : RegexArena ρ), []⟩ := by
  refine ⟨sound_empty, fun h r => ⟨fun hr => ?_, ?_⟩, ?_⟩
  · simp [RegexArena.regex?, empty] at hr
  · rintro ⟨pattern, -, hstands⟩
    exact absurd hstands not_standing_nil
  · exact fun h pattern hstands => absurd hstands not_standing_nil

variable {s t : Recorded (RegexArena ρ)}

theorem Recalled.unturned (hs : Recalled s) {e : EngineEvent} {message : String}
    (hinner : t.inner = { s.inner with lastError := message }) (hlog : t.log = s.log ++ [e])
    (he : ∀ h, ¬ e.Turns h) (hnew : ∀ pattern h, e ≠ .compile pattern (.ok h)) : Recalled t := by
  have hstands : ∀ h pattern, Standing t.log h pattern ↔ Standing s.log h pattern := by
    intro h pattern
    rw [hlog, standing_concat_iff]
    simp [hnew, he]
  refine ⟨hinner ▸ hs.sound.fail message, fun h r => ?_, fun h pattern ht => ?_⟩
  · have hsame : t.inner.regex? h = s.inner.regex? h := by
      rw [hinner]
      rfl
    simp only [hsame, hs.regex?, hstands]
  · exact hs.compiles h pattern ((hstands h pattern).mp ht)

theorem Recalled.compile (hs : Recalled s) (pattern : List UInt8)
    (hroom : (Engine.compile s pattern).2.inner.Roomy) :
    Recalled (Engine.compile s pattern).2 := by
  have hlog := s.log_compile pattern
  have houtcome : (Engine.compile s pattern).1 = (s.inner.compile pattern).1 := rfl
  have hinner : (Engine.compile s pattern).2.inner = (s.inner.compile pattern).2 := rfl
  rcases s.inner.compile_cases pattern with ⟨r, hr, hc⟩ | ⟨-, status, message, hc⟩
  · rw [houtcome, hc] at hlog
    rw [hc] at hinner
    have hstored := hs.sound.stored (hinner ▸ hroom)
    refine ⟨hinner ▸ hs.sound.store r, fun h q => ?_, fun h other ht => ?_⟩
    · rw [hinner, hlog, hstored.regex?]
      simp only [standing_concat_iff]
      -- of what stood before, only the handle just returned can be concerned, and it was free
      by_cases hh : h = (s.inner.store r).1
      · subst hh
        simp [EngineEvent.Turns, hr]
      · simp [EngineEvent.Turns, Ne.symm hh, hh, hs.regex?]
    · rw [hlog, standing_concat_iff] at ht
      rcases ht with he | ⟨-, ht⟩
      · cases he
        exact ⟨r, hr⟩
      · exact hs.compiles h other ht
  · rw [houtcome, hc] at hlog
    rw [hc] at hinner
    exact hs.unturned hinner hlog (fun _ => id) (by simp)

theorem Recalled.findBest (hs : Recalled s) (handles : List Handle) (text : Array UInt8)
    (start : Nat) : Recalled (Engine.findBest s handles text start).2 := by
  have hlog := s.log_findBest handles text start
  have hinner : (Engine.findBest s handles text start).2.inner =
      (s.inner.findBest handles text start).2 := rfl
  rcases s.inner.findBest_cases handles text start with ⟨found, hf⟩ | ⟨message, hf⟩
  · rw [hf] at hinner
    exact hs.unturned hinner hlog (fun _ => id) (by simp)
  · rw [hf] at hinner
    exact hs.unturned hinner hlog (fun _ => id) (by simp)

theorem Recalled.dispose (hs : Recalled s) (handles : List Handle) :
    Recalled (Engine.dispose s handles).2 := by
  have hlog := s.log_dispose handles
  have houtcome : (Engine.dispose s handles).1 = (s.inner.dispose handles).1 := rfl
  have hinner : (Engine.dispose s handles).2.inner = (s.inner.dispose handles).2 := rfl
  rcases s.inner.dispose_cases handles with ⟨hn, hl, hd⟩ | ⟨message, hd⟩
  · rw [houtcome, hd] at hlog
    rw [hd] at hinner
    refine ⟨hinner ▸ hs.sound.foldl_freeSlot hn hl, fun h r => ?_, fun h pattern ht => ?_⟩
    · rw [hinner, hlog, regex?_foldl_freeSlot]
      simp only [standing_concat_iff]
      by_cases hh : h ∈ handles
      · simp [EngineEvent.Turns, hh]
      · simp [EngineEvent.Turns, hh, hs.regex?]
    · rw [hlog, standing_concat_iff] at ht
      rcases ht with he | ⟨-, ht⟩
      · cases he
      · exact hs.compiles h pattern ht
  · rw [houtcome, hd] at hlog
    rw [hd] at hinner
    exact hs.unturned hinner hlog (fun _ => id) (by simp)

theorem Recalled.perform (hs : Recalled s) (call : Engine.Call)
    (hroom : (call.perform s).inner.Roomy) : Recalled (call.perform s) := by
  cases call with
  | compile pattern => exact hs.compile pattern hroom
  | findBest handles text start => exact hs.findBest handles text start
  | dispose handles => exact hs.dispose handles

/-- Slots never go, so an arena that is roomy in the end was so all the time. -/
theorem Recalled.run (hs : Recalled s) (calls : List Engine.Call)
    (hroom : (calls.foldl Engine.Call.perform s).inner.Roomy) :
    Recalled (calls.foldl Engine.Call.perform s) := by
  induction calls generalizing s with
  | nil => exact hs
  | cons call rest ih =>
    refine ih (hs.perform call ?_) hroom
    rw [List.foldl_cons, Recorded.inner_foldl] at hroom
    exact Nat.le_trans (size_le_performAll _ rest) hroom

theorem Recalled.isLive_iff (hs : Recalled s) (h : Handle) :
    s.inner.isLive h = true ↔ ∃ pattern, Standing s.log h pattern := by
  rw [isLive, Option.isSome_iff_exists]
  constructor
  · rintro ⟨r, hr⟩
    obtain ⟨pattern, -, ht⟩ := (hs.regex? h r).mp hr
    exact ⟨pattern, ht⟩
  · rintro ⟨pattern, ht⟩
    obtain ⟨r, hr⟩ := hs.compiles h pattern ht
    exact ⟨r, (hs.regex? h r).mpr ⟨pattern, hr, ht⟩⟩

/-- After any calls of an engine that began empty, with whatever patterns and handles, as long as
there are fewer slots than numbers: the free slots are the empty ones, each listed once, and the
others are counted. So a pattern that compiles gets a handle that was not live, and every other
handle stands for what it stood for; one that does not compile changes nothing but the account of
the latest failure. Only where no slot is free do the slots become more, and then by one. The
handles that stand for an expression are those that were returned for it and have been neither
disposed of nor returned since. -/
theorem slots_recycled (calls : List Engine.Call)
    (hlt : (calls.foldl Engine.Call.perform (empty : RegexArena ρ)).slots.size < UInt32.size) :
    let a := calls.foldl Engine.Call.perform (empty : RegexArena ρ)
    let log := (Recorded.after (empty : RegexArena ρ) calls).log
    (a.free.Nodup ∧ (∀ i, i ∈ a.free.map Fin.val ↔ a.slots[i]? = some none) ∧
      a.live = a.slots.countP Option.isSome) ∧
    (∀ pattern, (∃ r h b, a.compile pattern = (.ok h, b) ∧ regexOf? pattern = some r ∧
        a.Stored r h b) ∨
      ∃ status message, a.compile pattern = (.error status, { a with lastError := message }) ∧
        (regexOf? pattern : Option ρ) = none) ∧
    (∀ call : Engine.Call, (call.perform a).slots.size = a.slots.size ∨
      a.free = [] ∧ (call.perform a).slots.size = a.slots.size + 1) ∧
    (∀ h r, a.regex? h = some r ↔
      ∃ pattern, regexOf? pattern = some r ∧ Standing log h pattern) ∧
    ∀ h, a.isLive h = true ↔ ∃ pattern, Standing log h pattern := by
  intro a log
  have hinner : (Recorded.after (empty : RegexArena ρ) calls).inner = a :=
    Recorded.inner_after _ calls
  have hroom : a.Roomy := Nat.le_of_lt hlt
  have hr : Recalled (Recorded.after (empty : RegexArena ρ) calls) :=
    recalled_empty.run calls (by rw [← Recorded.after, hinner]; exact hroom)
  have ha : a.Sound := hinner ▸ hr.sound
  refine ⟨⟨ha.free_nodup, ha.mem_free_iff hroom, ha.live_eq⟩, ?_, perform_size ha hlt,
    hinner ▸ hr.regex?, hinner ▸ hr.isLive_iff⟩
  intro pattern
  rcases a.compile_cases pattern with ⟨r, hregex, hc⟩ | ⟨hnone, status, message, hc⟩
  · exact Or.inl ⟨r, _, _, hc, hregex, ha.stored (roomy_store hlt)⟩
  · exact Or.inr ⟨status, message, hc, hnone⟩

end

/-- Two letters are compiled and the first is disposed of; the next one gets its slot. -/
theorem slots_recycled_for_next :
    let calls : List Engine.Call := [.compile [97], .compile [98], .dispose [⟨0⟩]]
    let a := calls.foldl Engine.Call.perform (empty : Arena)
    a.slots.size < UInt32.size ∧ a.free.Nodup ∧ a.isLive ⟨1⟩ = true ∧
      ∃ pattern, Standing (Recorded.after (empty : Arena) calls).log ⟨1⟩ pattern := by
  intro calls a
  have hlt : ([.compile [97], .compile [98], .dispose [⟨0⟩]].foldl Engine.Call.perform
      (empty : Arena)).slots.size < UInt32.size := by decide +kernel
  have hlive : ([.compile [97], .compile [98], .dispose [⟨0⟩]].foldl Engine.Call.perform
      (empty : Arena)).isLive ⟨1⟩ = true := by decide +kernel
  obtain ⟨⟨hfree, -⟩, -, -, -, hstanding⟩ := slots_recycled calls hlt
  exact ⟨hlt, hfree, hlive, (hstanding ⟨1⟩).mp hlive⟩

end RegexArena
end PatternScan
