import PatternScan.Proofs.Script.Depth

namespace PatternScan.Script

section

variable {V S σ α β : Type}

theorem Act.bind_apply (first : Act V S σ α) (next : α → Act V S σ β) (scene : Scene S σ) :
    (first >>= next) scene =
      match first scene with
      | (.ok value, after) => next value after
      | (.error e, after) => (.error e, after) := by
  change (ExceptT.bindCont next (first scene).1) (first scene).2 = _
  rcases first scene with ⟨e | value, after⟩ <;> rfl

/-- What comes of a call whose result nobody wants. -/
def ignoringResult (outcome : Except V V × Scene S σ) : Except V Unit × Scene S σ :=
  (outcome.1.map fun _ => (), outcome.2)

end

namespace Host

variable {V S σ : Type} (host : Host V S σ)

/-- An act that first does what `sync` does, and then calls a function, once: with null and the
result, or with what was thrown. What the function throws comes out, and nothing else. -/
structure HandsOver (callback : V) (sync : Act V S σ V) (called : Act V S σ Unit) : Prop where
  of_ok : ∀ scene result after, sync scene = (.ok result, after) →
    called scene = ignoringResult (host.call callback [host.null, result] after)
  of_error : ∀ scene e after, sync scene = (.error e, after) →
    called scene = ignoringResult (host.call callback [e] after)

/-- A search in its callback form, where `sync` is its form without. A function in the place of the
position is the callback; else one that stands last is. Without a function an error is thrown, and
nothing happens besides. -/
structure CallbackForm (start callback : V) (sync : V → Act V S σ V) (called : Act V S σ Unit) :
    Prop where
  at_start : host.isFunction start = true → host.HandsOver start (sync host.undefined) called
  at_end : host.isFunction start = false → host.isFunction callback = true →
    host.HandsOver callback (sync start) called
  nowhere : host.isFunction start = false → host.isFunction callback = false → ∀ scene,
    let (e, state) := host.makeError true "callback is not a function" scene.host
    called scene = (.error e, { scene with host := state })

theorem deliver_apply (callback : V) (outcome : Except V V) (scene : Scene S σ) :
    host.deliver callback outcome scene =
      ignoringResult (host.call callback (host.handed outcome) scene) := by
  unfold deliver
  rw [Act.bind_apply]
  rcases host.call callback (host.handed outcome) scene with ⟨e | value, after⟩ <;> rfl

theorem handsOver_deliver (callback : V) (sync : Act V S σ V) :
    host.HandsOver callback sync (outcomeOf sync >>= host.deliver callback) := by
  constructor
  · intro scene result after h
    rw [Act.bind_apply, outcomeOf, h]
    exact host.deliver_apply callback (.ok result) after
  · intro scene e after h
    rw [Act.bind_apply, outcomeOf, h]
    exact host.deliver_apply callback (.error e) after

theorem callbackForm_withCallback (start callback : V) (sync : V → Act V S σ V) :
    host.CallbackForm start callback sync (host.withCallback start callback sync) := by
  unfold withCallback splitCallback
  constructor
  · intro h
    rw [if_pos h]
    exact host.handsOver_deliver start (sync host.undefined)
  · intro hs hc
    rw [hs, hc]
    exact host.handsOver_deliver callback (sync start)
  · intro hs hc scene
    rw [hs, hc]
    rfl

theorem newText_of_units {v : V} {units : List Text.CodeUnit} (h : host.units? v = some units) :
    host.newText v = pure (.ofUnits units.toArray) := by
  unfold newText
  rw [h]

variable [Engine σ]

theorem findNow_of_units {v : V} {units : List Text.CodeUnit} (h : host.units? v = some units)
    (scanner : Scanner) (start : V) :
    host.findNow scanner v start = host.findInText scanner (.ofUnits units.toArray) start := by
  unfold findNow toText
  rw [h]
  rfl

/-- Whatever a host does when it converts a value, makes a result or calls a function: a search of a
scanner or a finder with a callback is the one without, and then the call of the callback. A test
needs no callback, and without one it throws nothing. A search in a text object is the one in the
string that it was made of, whatever units it has, and making the object does nothing else. -/
theorem entry_points_agree :
    (∀ (scanner : Scanner) (text start callback : V),
      host.CallbackForm start callback (host.findNow scanner text)
        (host.find scanner text start callback)) ∧
    (∀ (finder : Finder) (text start callback : V),
      host.CallbackForm start callback (host.searchNow finder text)
        (host.search finder text start callback)) ∧
    (∀ (finder : Finder) (subject callback : V),
      (host.isFunction callback = true →
        host.HandsOver callback (host.testNow finder subject)
          (host.test finder subject callback)) ∧
      (host.isFunction callback = false → ∀ scene,
        host.test finder subject callback scene =
          (.ok (), (host.testNow finder subject scene).2))) ∧
    ∀ (scanner : Scanner) (v start : V) (units : List Text.CodeUnit), host.units? v = some units →
      host.newText v = pure (.ofUnits units.toArray) ∧
      host.findInText scanner (.ofUnits units.toArray) start = host.findNow scanner v start ∧
      (host.newText v >>= fun text => host.findInText scanner text start) =
        host.findNow scanner v start := by
  refine ⟨fun scanner text start callback => host.callbackForm_withCallback start callback _,
    fun finder text start callback => host.callbackForm_withCallback start callback _, ?_, ?_⟩
  · intro finder subject callback
    unfold test
    constructor
    · intro h
      simp only [h, if_true]
      exact host.handsOver_deliver callback (host.testNow finder subject)
    · intro h scene
      simp only [h, Bool.false_eq_true, if_false]
      rfl
  · intro scanner v start units h
    have hnow := host.findNow_of_units h scanner start
    refine ⟨host.newText_of_units h, hnow.symm, ?_⟩
    rw [host.newText_of_units h, hnow]
    rfl

end Host

def withScanner : World := (runStep run (.construct .scanner [.array [.ofString ""]]) .fresh).2

/-- A text that throws when it is converted, and in the place of the position a callback that
searches again and then throws: the callback is called once, with what the text threw. -/
theorem entry_points_agree_throwing :
    let host := valueHost run
    let scanner : Scanner := ⟨⟨1⟩, [""]⟩
    let text := Value.stringThrows (.ofString "no")
    let again := Step.call 0 .find [.ofString "", .function false .null []]
    let callback := Value.function true .null [again]
    host.isFunction callback = true ∧
    host.findNow scanner text .undefined withScanner = (.error (.ofString "no"), withScanner) ∧
    ∃ answers later, run [again] withScanner = (answers, later) ∧
      host.find scanner text callback .undefined withScanner =
        (.error .null, { later with host := { later.host with
          calls := [([.ofString "no"], answers)] } }) := by
  intro host scanner text again callback
  refine ⟨rfl, rfl, _, _, rfl, ?_⟩
  have hform := (host.entry_points_agree.1 scanner text callback .undefined).at_start rfl
  exact hform.of_error withScanner (.ofString "no") withScanner rfl

end PatternScan.Script
