import PatternScan.Proofs.Session.Effects

namespace PatternScan.Session

/-- An action, or a part of the beginning or the end of a hold. -/
inductive Move (σ : Type) where
  | act (action : Action σ)
  | hold (cell : Nat) (mode : Hold)
  | settle (cell : Nat)

variable {σ ρ : Type}

def lookingOn (look : World σ → ρ) (w : World σ) : ρ × World σ := (look w, w)

namespace World

variable {w : World σ}

theorem reworked_setHold (cell : Nat) (mode : Hold) : w.Reworked (w.setHold cell mode)
    fun _ c d => d.shared.cache = c.shared.cache :=
  reworked_modify (R := fun _ c d => d.shared.cache = c.shared.cache) (fun _ _ => rfl)
    fun _ _ => rfl

def holdAt? (w : World σ) (i : Nat) : Option Hold := w.cells[i]?.map fun c => c.shared.hold

theorem holdAt?_setHold (w : World σ) (cell i : Nat) (mode : Hold) :
    (w.setHold cell mode).holdAt? i =
      if cell = i then (w.holdAt? i).map fun _ => mode else w.holdAt? i := by
  simp only [holdAt?, setHold, List.getElem?_modify]
  split <;> cases w.cells[i]? <;> rfl

theorem Reworked.holdAt? {v : World σ}
    (hv : w.Reworked v fun _ c d => d.shared.hold = c.shared.hold) {i : Nat} {mode : Hold}
    (h : w.holdAt? i = some mode) : v.holdAt? i = some mode := by
  obtain ⟨c, hc, rfl⟩ := Option.map_eq_some_iff.mp h
  obtain ⟨d, hd, hsame⟩ := hv.cell i c hc
  exact Option.map_eq_some_iff.mpr ⟨d, hd, hsame⟩

variable [Engine σ]

/-- The callback form of a search is the search, and then the callback. -/
theorem askThen_eq {β : Type} (w : World σ)
    (callback : Except Failure Reply → World σ → β × World σ)
    (query : Query) : w.askThen callback query = callback (w.ask query).1 (w.ask query).2 := by
  cases query with
  | find number text start =>
    simp only [askThen, ask]
    split <;> rfl
  | search number text start =>
    simp only [askThen, ask]
    split <;> rfl
  | test number subject =>
    simp only [askThen, ask]
    split <;> rfl

def move (w : World σ) : Move σ → World σ
  | .act action => (w.act action).2
  | .hold cell mode => w.setHold cell mode
  | .settle cell => w.settle cell

def moves (w : World σ) (ms : List (Move σ)) : World σ := ms.foldl move w

theorem moves_append (w : World σ) (before rest : List (Move σ)) :
    w.moves (before ++ rest) = (w.moves before).moves rest := List.foldl_append

section

variable (look : World σ → ρ)

theorem exists_moves_beginHold (w : World σ) (cache : Nat) (mode : Hold) :
    ∃ ms, (w.beginHold cache mode).2 = w.moves ms := by
  unfold beginHold
  cases w.cellOf? cache with
  | none => exact ⟨[], rfl⟩
  | some cell => exact ⟨[.hold cell mode], rfl⟩

theorem exists_moves_endHold (w : World σ) (held : Option (Nat × Hold)) :
    ∃ ms, w.endHold held = w.moves ms := by
  cases held with
  | none => exact ⟨[], rfl⟩
  | some held => exact ⟨[.hold held.1 held.2, .settle held.1], rfl⟩

mutual

theorem exists_moves_step (w : World σ) : (step : Step σ) →
    ∃ ms, (step.run (lookingOn look) w).2 = w.moves ms
  | .act action => ⟨[.act action], rfl⟩
  | .call query body => by
    obtain ⟨ms, hms⟩ := exists_moves_runAll (w.ask query).2 body
    refine ⟨.act (.ask query) :: ms, ?_⟩
    simp only [Step.run, askThen_eq]
    exact hms
  | .hold cache mode body => by
    obtain ⟨first, hfirst⟩ := exists_moves_beginHold w cache mode
    obtain ⟨middle, hmiddle⟩ := exists_moves_runAll (w.beginHold cache mode).2 body
    obtain ⟨last, hlast⟩ := exists_moves_endHold
      (runAll (lookingOn look) (w.beginHold cache mode).2 body).2 (w.beginHold cache mode).1
    refine ⟨first ++ middle ++ last, ?_⟩
    rw [moves_append, moves_append, ← hfirst, ← hmiddle, ← hlast]
    rfl

/-- The run of a program, holds and callbacks included, is made of moves. -/
theorem exists_moves_runAll (w : World σ) : (steps : List (Step σ)) →
    ∃ ms, (runAll (lookingOn look) w steps).2 = w.moves ms
  | [] => ⟨[], rfl⟩
  | step :: rest => by
    obtain ⟨first, hfirst⟩ := exists_moves_step w step
    obtain ⟨last, hlast⟩ := exists_moves_runAll (step.run (lookingOn look) w).2 rest
    refine ⟨first ++ last, ?_⟩
    rw [moves_append, ← hfirst, ← hlast]
    rfl

end

end

theorem holdAt?_act {i : Nat} {mode : Hold} (h : w.holdAt? i = some mode) (action : Action σ) :
    (w.act action).2.holdAt? i = some mode := by
  obtain ⟨base, hb, hkept⟩ := act_keeps_holds (w := w) action
  obtain ⟨c, hc, hmode⟩ := Option.map_eq_some_iff.mp h
  exact hkept.holdAt? (Option.map_eq_some_iff.mpr ⟨c, hb.cells hc, hmode⟩)

/-- The end of a hold undoes its beginning, if nothing in between changed how the cell is held. -/
theorem holdAt?_endHold {v : World σ} {cache i : Nat} {mode before : Hold}
    (hbody : ∀ {i h}, (w.beginHold cache mode).2.holdAt? i = some h → v.holdAt? i = some h)
    (h : w.holdAt? i = some before) :
    (v.endHold (w.beginHold cache mode).1).holdAt? i = some before := by
  unfold beginHold at hbody ⊢
  cases hcell : w.cellOf? cache with
  | none =>
    simp only [hcell] at hbody
    exact hbody h
  | some cell =>
    simp only [hcell] at hbody ⊢
    have hsettled : ∀ u : World σ, u.Reworked (u.settle cell)
        fun _ c d => d.shared.hold = c.shared.hold := fun u =>
      (reworked_settle (fun _ _ => True) cell trivial).imp fun _ _ _ h => h.served.hold
    refine (hsettled _).holdAt? ?_
    rw [holdAt?_setHold]
    by_cases hi : cell = i
    · subst hi
      have hheld : v.holdAt? cell = some mode := by
        apply hbody
        rw [holdAt?_setHold, if_pos rfl, h]
        rfl
      obtain ⟨c, hc, hmode⟩ := Option.map_eq_some_iff.mp h
      rw [if_pos rfl, hheld, holdOf, hc, ← hmode]
      rfl
    · rw [if_neg hi]
      apply hbody
      rw [holdAt?_setHold, if_neg hi]
      exact h

section

variable (look : World σ → ρ)

mutual

theorem holdAt?_step {i : Nat} {mode : Hold} (w : World σ) : (step : Step σ) →
    w.holdAt? i = some mode → (step.run (lookingOn look) w).2.holdAt? i = some mode
  | .act action, h => holdAt?_act h action
  | .call query body, h => by
    simp only [Step.run, askThen_eq]
    exact holdAt?_runAll (w.ask query).2 body (holdAt?_act h (.ask query))
  | .hold cache other body, h =>
    holdAt?_endHold (fun h => holdAt?_runAll (w.beginHold cache other).2 body h) h

/-- A run leaves every cell held as it was. -/
theorem holdAt?_runAll {i : Nat} {mode : Hold} (w : World σ) : (steps : List (Step σ)) →
    w.holdAt? i = some mode → (runAll (lookingOn look) w steps).2.holdAt? i = some mode
  | [], h => h
  | step :: rest, h =>
    holdAt?_runAll (step.run (lookingOn look) w).2 rest (holdAt?_step w step h)

end

/-- The world inside holds that a program began: each hold follows some steps, and what comes next
in the list happens in it. -/
def inside (w : World σ) (holds : List (List (Step σ) × Nat × Hold)) : World σ :=
  holds.foldl (fun w (steps, cache, mode) =>
    ((runAll (lookingOn look) w steps).2.beginHold cache mode).2) w

theorem exists_moves_inside (w : World σ) (holds : List (List (Step σ) × Nat × Hold)) :
    ∃ ms, w.inside look holds = w.moves ms := by
  induction holds generalizing w with
  | nil => exact ⟨[], rfl⟩
  | cons hold rest ih =>
    obtain ⟨steps, cache, mode⟩ := hold
    obtain ⟨first, hfirst⟩ := exists_moves_runAll look w steps
    obtain ⟨next, hnext⟩ :=
      exists_moves_beginHold (runAll (lookingOn look) w steps).2 cache mode
    obtain ⟨last, hlast⟩ := ih ((runAll (lookingOn look) w steps).2.beginHold cache mode).2
    refine ⟨first ++ next ++ last, ?_⟩
    rw [moves_append, moves_append, ← hfirst, ← hnext, ← hlast]
    rfl

end

theorem Named.move (hw : w.Named) (m : Move σ) : (w.move m).Named := by
  cases m with
  | act action => exact hw.act action
  | hold cell mode => exact hw.reworked (reworked_setHold cell mode)
  | settle cell =>
    exact hw.reworked (reworked_settle (fun _ _ => True) cell trivial)

theorem Named.moves (hw : w.Named) (ms : List (Move σ)) : (w.moves ms).Named := by
  induction ms generalizing w with
  | nil => exact hw
  | cons m rest ih => exact ih (hw.move m)

end World
end PatternScan.Session
