import PatternScan.Proofs.Session.Moves
import PatternScan.Session.Program

namespace PatternScan.Session

variable {σ ν ρ : Type}

def Event.reply? : Event → Option (Except Failure Reply)
  | .answered reply => some reply
  | .entered reply _ => some reply
  | .left => none

def told (events : List Event) : List (Except Failure Reply) := events.filterMap Event.reply?

@[simp] theorem told_append (first rest : List Event) :
    told (first ++ rest) = told first ++ told rest := List.filterMap_append

namespace Program

/-- A run of a program in which every operation was carried out once and every callback was entered
once, when nobody held a cache, and ran to its end before the program went on. -/
inductive Played : Program σ ν → ν → List Event → Prop where
  | done (value : ν) : Played (.done value) value []
  | act {action : Action σ} {next : Except Failure Reply → Program σ ν}
    {reply : Except Failure Reply} {value : ν} {events : List Event}
    (h : Played (next reply) value events) :
    Played (.act action next) value (.answered reply :: events)
  | call {query : Query} {callback : Except Failure Reply → Program σ ν} {next : ν → Program σ ν}
    {reply : Except Failure Reply} {given value : ν} {inner events : List Event}
    (hcallback : Played (callback reply) given inner) (hnext : Played (next given) value events) :
    Played (.call query callback next) value
      (.entered reply true :: inner ++ .left :: events)

def Straight : Program σ ν → Prop
  | .done _ => True
  | .act _ next => ∀ reply, (next reply).Straight
  | .call .. => False

theorem Straight.bind {p : Program σ ν} (hp : p.Straight) {rest : ν → Program σ ν}
    (hr : ∀ value, (rest value).Straight) : (p.bind rest).Straight := by
  induction p with
  | done value => exact hr value
  | act action next ih => exact fun reply => ih reply (hp reply)
  | call => exact hp.elim

theorem straight_flatten (p : Program σ ν) : p.flatten.Straight := by
  induction p with
  | done value => trivial
  | act action next ih => exact ih
  | call query callback next ihc ihn => exact fun reply => (ihc reply).bind ihn

variable {w : World σ}

theorem allFree_of_unheld (hw : w.Unheld) : w.allFree = true :=
  List.all_eq_true.mpr fun c hc => beq_iff_eq.mpr (hw c hc)

variable [Engine σ]

theorem run_bind (p : Program σ ν) (rest : ν → Program σ ν) (w : World σ) :
    (p.bind rest).run w =
      let ((value, events), v) := p.run w
      let ((last, more), u) := (rest value).run v
      ((last, events ++ more), u) := by
  induction p generalizing w with
  | done value => rfl
  | act action next ih =>
    simp only [bind, run, ih]
    rfl
  | call query callback next ihc ihn =>
    simp only [bind, run, ihn, List.append_assoc]

/-- The run of a search with a callback: the search, the callback on the world that it left, and
then the rest. -/
theorem run_call (query : Query) (callback : Except Failure Reply → Program σ ν)
    (next : ν → Program σ ν) (w : World σ) :
    (call query callback next).run w =
      let ((given, inner), v) := (callback (w.ask query).1).run (w.ask query).2
      let ((value, events), u) := (next given).run v
      ((value, .entered (w.ask query).1 (w.ask query).2.allFree :: inner ++ .left :: events),
        u) := by
  simp only [run, World.askThen_eq]
  simp

/-- A callback's steps may as well stand behind its search. -/
theorem run_flatten (p : Program σ ν) (w : World σ) :
    (p.flatten.run w).1.1 = (p.run w).1.1 ∧ told (p.flatten.run w).1.2 = told (p.run w).1.2 ∧
      (p.flatten.run w).2 = (p.run w).2 := by
  induction p generalizing w with
  | done value => exact ⟨rfl, rfl, rfl⟩
  | act action next ih =>
    obtain ⟨hvalue, htold, hworld⟩ := ih (w.act action).1 (w.act action).2
    exact ⟨hvalue, congrArg ((w.act action).1 :: ·) htold, hworld⟩
  | call query callback next ihc ihn =>
    have hcallback := ihc (w.ask query).1 (w.ask query).2
    rw [run_call]
    simp only [flatten, run, World.act, run_bind]
    generalize (callback (w.ask query).1).flatten.run (w.ask query).2 = flat at hcallback ⊢
    generalize (callback (w.ask query).1).run (w.ask query).2 = nested at hcallback ⊢
    obtain ⟨⟨given, inner⟩, v⟩ := nested
    obtain ⟨⟨flatGiven, flatInner⟩, u⟩ := flat
    obtain ⟨rfl, hinner, rfl⟩ := hcallback
    obtain ⟨hvalue, hlast, hworld⟩ := ihn flatGiven u
    refine ⟨hvalue, ?_, hworld⟩
    change _ :: told (flatInner ++ _) = _ :: told (inner ++ .left :: _)
    rw [told_append, told_append, hinner, hlast]
    rfl

/-- Programs that are run while nobody holds a cache: no callback begins while somebody does, and no
operation is told that a cache is busy. -/
theorem played_run (hw : w.Unheld) (p : Program σ ν) :
    Played p (p.run w).1.1 (p.run w).1.2 ∧ (p.run w).2.Unheld ∧
      ∀ reply ∈ told (p.run w).1.2, reply ≠ .error .cacheBusy := by
  induction p generalizing w with
  | done value => exact ⟨.done value, hw, fun _ h => absurd h List.not_mem_nil⟩
  | act action next ih =>
    obtain ⟨hplayed, hunheld, hbusy⟩ := ih (w.act action).1 (hw.act action)
    exact ⟨.act hplayed, hunheld, List.forall_mem_cons.mpr ⟨hw.reply_ne action, hbusy⟩⟩
  | call query callback next ihc ihn =>
    have hasked : (w.ask query).2.Unheld := hw.act (.ask query)
    have hanswered : (w.ask query).1 ≠ .error .cacheBusy := hw.reply_ne (.ask query)
    have hcallback := ihc (w.ask query).1 hasked
    rw [run_call, allFree_of_unheld hasked]
    generalize (callback (w.ask query).1).run (w.ask query).2 = nested at hcallback ⊢
    obtain ⟨⟨given, inner⟩, v⟩ := nested
    obtain ⟨hplayed, hleft, hinner⟩ := hcallback
    obtain ⟨hrest, hunheld, hbusy⟩ := ihn given hleft
    refine ⟨.call hplayed hrest, hunheld, List.forall_mem_cons.mpr ⟨hanswered, ?_⟩⟩
    change ∀ reply ∈ told (inner ++ .left :: _), _
    rw [told_append]
    exact List.forall_mem_append.mpr ⟨hinner, hbusy⟩

end Program

mutual

def Step.HoldFree : Step σ → Prop
  | .act _ => True
  | .call _ body => AllHoldFree body
  | .hold .. => False

def AllHoldFree : List (Step σ) → Prop
  | [] => True
  | step :: rest => step.HoldFree ∧ AllHoldFree rest

end

mutual

def Step.andThen (rest : Program σ Unit) : Step σ → Program σ Unit
  | .act action => .act action fun _ => rest
  | .call query body => .call query (fun _ => programOf body) fun _ => rest
  | .hold _ _ body => (programOf body).bind fun _ => rest

/-- Steps that were chosen beforehand, as a program; it leaves their holds out. -/
def programOf : List (Step σ) → Program σ Unit
  | [] => .done ()
  | step :: rest => step.andThen (programOf rest)

end

mutual

def Answer.results : Answer ρ → List (Except Failure Reply)
  | .reply result _ => [result]
  | .called result body _ => result :: allResults body
  | .held body _ => allResults body

def allResults : List (Answer ρ) → List (Except Failure Reply)
  | [] => []
  | answer :: rest => answer.results ++ allResults rest

end

section

variable [Engine σ] (look : World σ → ρ)

mutual

theorem Step.run_andThen (rest : Program σ Unit) (w : World σ) : (step : Step σ) → step.HoldFree →
    let (answer, v) := step.run (lookingOn look) w
    told ((step.andThen rest).run w).1.2 = answer.results ++ told (rest.run v).1.2 ∧
      ((step.andThen rest).run w).2 = (rest.run v).2
  | .act _, _ => ⟨rfl, rfl⟩
  | .call query body, h => by
    obtain ⟨htold, hworld⟩ := run_programOf (w.ask query).2 body h
    simp only [Step.run, Step.andThen, Program.run_call, World.askThen_eq, lookingOn]
    generalize (programOf body).run (w.ask query).2 = inner at htold hworld ⊢
    generalize runAll (lookingOn look) (w.ask query).2 body = answered at htold hworld ⊢
    obtain ⟨⟨_, events⟩, v⟩ := inner
    obtain ⟨answers, u⟩ := answered
    obtain rfl := hworld
    refine ⟨?_, rfl⟩
    change _ :: told (events ++ .left :: _) = _ :: allResults answers ++ _
    rw [told_append, htold]
    rfl

/-- Steps that hold no cache are run as their program is. -/
theorem run_programOf (w : World σ) : (steps : List (Step σ)) → AllHoldFree steps →
    let (answers, v) := runAll (lookingOn look) w steps
    told ((programOf steps).run w).1.2 = allResults answers ∧ ((programOf steps).run w).2 = v
  | [], _ => ⟨rfl, rfl⟩
  | step :: rest, ⟨hstep, hrest⟩ => by
    obtain ⟨htold, hworld⟩ := Step.run_andThen (programOf rest) w step hstep
    obtain ⟨hmore, hend⟩ := run_programOf (step.run (lookingOn look) w).2 rest hrest
    rw [programOf]
    exact ⟨htold.trans (congrArg (_ ++ ·) hmore), hworld.trans hend⟩

end

end

/-- Whatever a program does in callbacks of callbacks, and whatever it makes of what it is told
there, if nobody holds a cache when it begins: no operation at any depth is told that a cache is
busy, and each callback is entered once, while nobody holds a cache, and runs to its end once. Its
replies, its value and the world that it leaves, with all caches, are those of the program in which
each callback form is replaced by the plain search with the callback's steps behind it. -/
theorem callbacks_flatten [Engine σ] {w : World σ} (hw : w.Unheld) (p : Program σ ν) :
    let ((value, events), v) := p.run w
    let ((flatValue, flatEvents), u) := p.flatten.run w
    (∀ reply ∈ told events, reply ≠ .error .cacheBusy) ∧ p.Played value events ∧
    told events = told flatEvents ∧ value = flatValue ∧ v = u ∧ v.Unheld ∧ p.flatten.Straight ∧
    ∀ {β : Type} (callback : Except Failure Reply → World σ → β × World σ) (query : Query)
      (before : World σ),
      before.askThen callback query = callback (before.ask query).1 (before.ask query).2 := by
  obtain ⟨hplayed, hunheld, hbusy⟩ := p.played_run hw
  obtain ⟨hvalue, htold, hworld⟩ := p.run_flatten w
  exact ⟨hbusy, hplayed, htold.symm, hvalue.symm, hworld.symm, hunheld, p.straight_flatten,
    fun callback query before => before.askThen_eq callback query⟩

/-- A scanner's callback tests with a finder if there was a match, and that callback changes the
settings and searches from where the match ended; then the finder goes. -/
def searchingAgain : Program Arena Nat :=
  .act (.newScanner ["a"] none) fun _ =>
  .act (.newFinder (.pattern "b") none) fun _ =>
  .call (.find 0 (.given (.ofString "ab")) 0)
    (fun found =>
      match found with
      | .ok (.found (some ⟨_, [whole]⟩)) =>
        .call (.test 1 (.text (.given (.ofString "ab"))))
          (fun _ => .act (.configure ⟨1, true⟩) fun _ =>
            .call (.find 0 (.given (.ofString "ab")) whole.stop)
              (fun _ => .act (.dispose 0) fun _ => .done whole.stop) .done)
          fun stop => .act (.drop 1) fun _ => .done (stop + 1)
      | _ => .done 0)
    .done

/-- With room for one of the two, the scanner's entry is gone when it searches again and comes back;
so there is something to dispose of. -/
theorem callbacks_flatten_searching_again :
    let w := World.fresh (.empty : Arena)
    let ((value, events), _) := searchingAgain.run w
    w.Unheld ∧ searchingAgain.Played value events ∧ value = 2 ∧ told events =
      [.ok (.number 0), .ok (.number 1), .ok (.found (some ⟨0, [⟨0, 0, 1, 1⟩]⟩)),
        .ok (.flag true), .ok .nothing, .ok (.found none), .ok (.flag true), .ok .nothing] := by
  have hrun : (told (searchingAgain.flatten.run (World.fresh (.empty : Arena))).1.2,
      (searchingAgain.flatten.run (World.fresh (.empty : Arena))).1.1) =
    ([.ok (.number 0), .ok (.number 1), .ok (.found (some ⟨0, [⟨0, 0, 1, 1⟩]⟩)),
      .ok (.flag true), .ok .nothing, .ok (.found none), .ok (.flag true), .ok .nothing], 2) := by
    decide +kernel
  obtain ⟨htold, hvalue⟩ := Prod.mk.inj hrun
  have hw : (World.fresh (.empty : Arena)).Unheld := World.unheld_fresh (.empty : Arena)
  obtain ⟨-, hplayed, hsame, hvalues, -⟩ := callbacks_flatten hw searchingAgain
  exact ⟨hw, hplayed, hvalues.trans hvalue, hsame.trans htold⟩

end PatternScan.Session
