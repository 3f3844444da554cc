import PatternScan.Script.Run

namespace PatternScan.Script

theorem Value.depth_getD_le (arguments : List Value) (i : Nat) :
    (arguments.getD i .undefined).depth ≤ Value.depthOfList arguments := by
  induction arguments generalizing i with
  | nil => simp [Value.depth]
  | cons v rest ih =>
    cases i with
    | zero => exact Nat.le_max_left _ _
    | succ i => exact Nat.le_trans (ih i) (Nat.le_max_right _ _)

/-- Two runners do the same with the steps inside a value, if it is a function. -/
def AgreeIn (f g : Runner) (v : Value) : Prop :=
  ∀ throws result body, v = .function throws result body → f body = g body

variable {f g : Runner}

theorem agreeIn_of_depth {depth : Nat} (h : ∀ body, Step.depthOfList body < depth → f body = g body)
    {v : Value} (hv : v.depth ≤ depth) : AgreeIn f g v := by
  rintro throws result body rfl
  have hbody : Step.depthOfList body + 1 ≤ Value.depth (.function throws result body) := by
    rw [Value.depth]
    exact Nat.le_max_right _ _
  exact h body (Nat.lt_of_lt_of_le hbody hv)

theorem invoke_congr {callback : Value} (h : AgreeIn f g callback) (arguments : List Value) :
    invoke f callback arguments = invoke g callback arguments := by
  funext w
  cases callback with
  | function throws result body => simp only [invoke, h throws result body rfl]
  | _ => rfl

theorem deliver_congr {callback : Value} (h : AgreeIn f g callback) (outcome : Outcome) :
    (valueHost f).deliver callback outcome = (valueHost g).deliver callback outcome := by
  have hcall : (valueHost f).call callback ((valueHost f).handed outcome) =
      (valueHost g).call callback ((valueHost g).handed outcome) := invoke_congr h _
  unfold Host.deliver
  rw [hcall]

/-- Hosts differ in their calls only, so a search is the same in both if its callback is. -/
theorem withCallback_congr {start callback : Value} (hs : AgreeIn f g start)
    (hc : AgreeIn f g callback) (search : Value → Doing Value) :
    (valueHost f).withCallback start callback search =
      (valueHost g).withCallback start callback search := by
  unfold Host.withCallback Host.splitCallback
  by_cases h₁ : start.isFunction = true
  · simp only [valueHost, h₁, if_true]
    exact congrArg (bind _) (funext fun outcome => deliver_congr hs outcome)
  · by_cases h₂ : callback.isFunction = true
    · simp only [valueHost, h₁, h₂, Bool.false_eq_true, if_false, if_true]
      exact congrArg (bind _) (funext fun outcome => deliver_congr hc outcome)
    · simp only [valueHost, h₁, h₂, Bool.false_eq_true, if_false]
      rfl

theorem callScanner_congr {argument : Nat → Value} (h : ∀ i, AgreeIn f g (argument i))
    (scanner : Scanner) (method : Method) :
    callScanner f scanner method argument = callScanner g scanner method argument := by
  cases method with
  | find => exact congrArg silent (withCallback_congr (h 1) (h 2) _)
  | _ => rfl

theorem callFinder_congr {argument : Nat → Value} (h : ∀ i, AgreeIn f g (argument i))
    (finder : Finder) (method : Method) :
    callFinder f finder method argument = callFinder g finder method argument := by
  cases method with
  | search => exact congrArg silent (withCallback_congr (h 1) (h 2) _)
  | test =>
    have htest : (valueHost f).test finder (argument 0) (argument 1) =
        (valueHost g).test finder (argument 0) (argument 1) := by
      unfold Host.test
      simp only [deliver_congr (h 1)]
      rfl
    exact congrArg silent htest
  | _ => rfl

theorem runStep_congr {step : Step}
    (h : ∀ body, Step.depthOfList body < step.depth → f body = g body) (w : World) :
    runStep f step w = runStep g step w := by
  cases step with
  | call number method arguments =>
    have hargument : ∀ i, AgreeIn f g (arguments.getD i .undefined) := fun i =>
      agreeIn_of_depth h (Value.depth_getD_le arguments i)
    unfold runStep perform
    simp only [callScanner_congr hargument, callFinder_congr hargument]
  | _ => rfl

theorem runEach_congr {steps : List Step}
    (h : ∀ body, Step.depthOfList body < Step.depthOfList steps → f body = g body) :
    runEach f steps = runEach g steps := by
  induction steps with
  | nil => rfl
  | cons step rest ih =>
    have hstep : ∀ w, runStep f step w = runStep g step w := runStep_congr fun body hb =>
      h body (Nat.lt_of_lt_of_le hb (Nat.le_max_left _ _))
    have hrest := ih fun body hb => h body (Nat.lt_of_lt_of_le hb (Nat.le_max_right _ _))
    funext w
    rw [runEach, runEach, hstep, hrest]

theorem runEach_of_flat {steps : List Step} (h : Step.depthOfList steps ≤ 0) :
    runEach f steps = runEach g steps :=
  runEach_congr fun _ hb => absurd (Nat.lt_of_lt_of_le hb h) (Nat.not_lt_zero _)

theorem runNested_eq {n m : Nat} {steps : List Step} (hn : Step.depthOfList steps ≤ n)
    (hm : Step.depthOfList steps ≤ m) : runNested n steps = runNested m steps := by
  induction n generalizing m steps with
  | zero => cases m <;> exact runEach_of_flat hn
  | succ n ih =>
    cases m with
    | zero => exact runEach_of_flat hm
    | succ m =>
      -- what is inside is nested less deep, so either runner may go one less deep there
      apply runEach_congr
      intro body hb
      exact ih (Nat.le_of_lt_succ (Nat.lt_of_lt_of_le hb hn))
        (Nat.le_of_lt_succ (Nat.lt_of_lt_of_le hb hm))

/-- What runs inside a callback is a program like any other. -/
theorem run_eq (steps : List Step) : run steps = runEach run steps := by
  unfold run
  cases hdepth : Step.depthOfList steps with
  | zero => exact runEach_of_flat (Nat.le_of_eq hdepth)
  | succ depth =>
    apply runEach_congr
    intro body hb
    rw [hdepth] at hb
    exact runNested_eq (Nat.le_of_lt_succ hb) (Nat.le_refl _)

end PatternScan.Script
