import PatternScan.Proofs.Session.Effects

namespace PatternScan.Session.World

variable {σ α : Type}

def asks? (w : World σ) : Query → Option Nat
  | .find number text _ =>
    match w.living? number, w.text? text with
    | some (.scanner scanner cell), some _ => if scanner.sources.isEmpty then none else some cell
    | _, _ => none
  | .search number text _ =>
    match w.living? number, w.text? text with
    | some (.finder finder cell), some _ => finder.scanner?.map fun _ => cell
    | _, _ => none
  | .test number subject =>
    match w.living? number, w.subject? subject with
    | some (.finder finder cell), some (.text _) => finder.scanner?.map fun _ => cell
    | _, _ => none

def needs? (w : World σ) : Action σ → Option Nat
  | .ask query => w.asks? query
  | .dispose number =>
    match w.living? number with
    | some (.scanner _ cell) => some cell
    | _ => none
  | .drop number => (w.living? number).bind Object.cell?
  | .release reference => w.cellOf? reference
  | .findOnBehalf cache object _ _ _ =>
    ((w.object? object).bind Object.id?).bind fun _ => w.cellOf? cache
  | .evict cache object => ((w.object? object).bind Object.id?).bind fun _ => w.cellOf? cache
  | .clear cache => w.cellOf? cache
  | .resize cache _ => w.cellOf? cache
  | .setLog cache _ => w.cellOf? cache
  | .describe cache => w.cellOf? cache
  | .configure config => if config.capacity = 0 then none else some commonCell
  | .statistics => some commonCell
  | .instruct cache _ => w.references[cache]?.map Reference.cell
  | _ => none

/-- Changes a cell behind everybody's back. -/
def modifyCell (w : World σ) (n : Nat) (f : Cell σ → Cell σ) : World σ :=
  { w with cells := w.cells.modify n f }

variable {w : World σ} {n : Nat} {f : Cell σ → Cell σ}

theorem getElem?_modifyCell_ne {i : Nat} (h : i ≠ n) :
    (w.modifyCell n f).cells[i]? = w.cells[i]? := by
  simp only [modifyCell, List.getElem?_modify, if_neg (Ne.symm h), id_map']

theorem needs?_modifyCell (action : Action σ) :
    (w.modifyCell n f).needs? action = w.needs? action := by
  cases action with
  | ask query => cases query <;> rfl
  | _ => rfl

theorem needs?_find_of_empty {number cell : Nat} {scanner : Scanner}
    (ho : w.living? number = some (.scanner scanner cell)) (hs : scanner.sources = [])
    (ref : TextRef) (start : Nat) : w.needs? (.ask (.find number ref start)) = none := by
  cases htext : w.text? ref <;> simp [needs?, asks?, ho, htext, hs]

theorem needs?_search_of_literal {number cell : Nat} {value : Bool}
    (ho : w.living? number = some (.finder (.literal value) cell)) (ref : TextRef) (start : Nat) :
    w.needs? (.ask (.search number ref start)) = none := by
  cases htext : w.text? ref <;> simp [needs?, asks?, ho, htext, Finder.scanner?]

theorem needs?_test_of_literal {number cell : Nat} {value : Bool}
    (ho : w.living? number = some (.finder (.literal value) cell)) (subject : SubjectRef) :
    w.needs? (.ask (.test number subject)) = none := by
  rcases hsubject : w.subject? subject with _ | ⟨_ | _⟩ <;>
    simp [needs?, asks?, ho, hsubject, Finder.scanner?]

theorem onCell_modifyCell {i : Nat} (h : i ≠ n) (use : SharedCache σ → α × SharedCache σ) :
    (w.modifyCell n f).onCell i use = (w.onCell i use).map id (modifyCell · n f) := by
  unfold onCell
  rw [getElem?_modifyCell_ne h]
  cases w.cells[i]? with
  | none => rfl
  | some c =>
    simp only [setShared, modifyCell, Prod.map, id]
    rw [List.modify_modify_ne _ _ _ h]

theorem setShared_self {i : Nat} {c : Cell σ} (h : w.cells[i]? = some c) :
    w.setShared i c.shared = w := by
  have hcells : w.cells.modify i (fun d => { d with shared := c.shared }) = w.cells := by
    apply List.ext_getElem?
    intro j
    rw [List.getElem?_modify]
    by_cases hj : i = j
    · subst hj
      rw [h]
      simp
    · simp [hj]
  rw [setShared, hcells]

theorem replyFrom_modifyCell {cell : Option Nat} (h : cell ≠ some n) (convert : α → Reply)
    (use : SharedCache σ → Except Failure α × SharedCache σ) :
    (w.modifyCell n f).replyFrom cell convert use =
      (w.replyFrom cell convert use).map id (modifyCell · n f) := by
  cases cell with
  | none => rfl
  | some i =>
    have hi : i ≠ n := fun he => h (congrArg some he)
    simp only [replyFrom, onCell_modifyCell hi, Prod.map]
    rcases w.onCell i use with ⟨_ | result, v⟩ <;> rfl

theorem replyFrom_unused {use : SharedCache σ → Except Failure α × SharedCache σ}
    {outcome : Except Failure α} (hu : ∀ s, use s = (outcome, s)) (i : Nat) (convert : α → Reply) :
    w.replyFrom (some i) convert use =
      (if i < w.cells.length then outcome.map convert else .ok .nothing, w) := by
  cases hc : w.cells[i]? with
  | none =>
    have hlt : ¬ i < w.cells.length := Nat.not_lt.mpr (List.getElem?_eq_none_iff.mp hc)
    simp only [replyFrom, onCell, hc, if_neg hlt]
  | some c =>
    have hlt : i < w.cells.length := (List.getElem?_eq_some_iff.mp hc).1
    simp only [replyFrom, onCell, hc, hu, setShared_self hc, if_pos hlt]

theorem replyFrom_unused_modifyCell {use : SharedCache σ → Except Failure α × SharedCache σ}
    {outcome : Except Failure α} (hu : ∀ s, use s = (outcome, s)) (i : Nat) (convert : α → Reply) :
    (w.modifyCell n f).replyFrom (some i) convert use =
      (w.replyFrom (some i) convert use).map id (modifyCell · n f) := by
  rw [replyFrom_unused hu, replyFrom_unused hu, modifyCell, List.length_modify]
  rfl

theorem replySeen_modifyCell {cell : Option Nat} (h : cell ≠ some n) (look : Cache σ → Reply) :
    (w.modifyCell n f).replySeen cell look = w.replySeen cell look := by
  cases cell with
  | none => rfl
  | some i =>
    have hi : i ≠ n := fun he => h (congrArg some he)
    simp only [replySeen, Option.bind_some, getElem?_modifyCell_ne hi]

theorem modify_append_left {l : List α} {i : Nat} (h : i < l.length) (g : α → α) (r : List α) :
    (l ++ r).modify i g = l.modify i g ++ r := by
  apply List.ext_getElem?
  intro j
  rw [List.getElem?_modify, List.getElem?_append, List.getElem?_append, List.length_modify,
    List.getElem?_modify]
  by_cases hj : j < l.length
  · simp only [if_pos hj]
  · have hne : i ≠ j := by omega
    simp [hj, hne]

theorem addCell_modifyCell (hn : n < w.cells.length) (cache : Cache σ) :
    (w.modifyCell n f).addCell cache = (w.addCell cache).modifyCell n f := by
  simp only [addCell, addReference, modifyCell, List.length_modify, modify_append_left hn]

theorem create_modifyCell (cache : Option Nat) (make : ScannerId → Nat → Object) :
    (w.modifyCell n f).create cache make = (w.create cache make).map id (modifyCell · n f) := by
  have hcell : (w.modifyCell n f).cellFor? cache = w.cellFor? cache := by
    cases cache <;> rfl
  unfold create
  rw [hcell]
  cases w.cellFor? cache <;> rfl

theorem onBehalf_modifyCell {cache object : Nat}
    (h : (((w.object? object).bind Object.id?).bind fun _ => w.cellOf? cache) ≠ some n)
    (convert : α → Reply) (use : ScannerId → Cache σ → Except Failure α × Cache σ) :
    (w.modifyCell n f).onBehalf cache object convert use =
      (w.onBehalf cache object convert use).map id (modifyCell · n f) := by
  have hobject : (w.modifyCell n f).object? object = w.object? object := rfl
  have hcell : (w.modifyCell n f).cellOf? cache = w.cellOf? cache := rfl
  unfold onBehalf
  rw [hobject, hcell]
  cases hid : (w.object? object).bind Object.id? with
  | none => rfl
  | some id =>
    rw [hid] at h
    exact replyFrom_modifyCell h convert _

variable [Engine σ]

theorem settle_modifyCell {i : Nat} (h : i ≠ n) :
    (w.modifyCell n f).settle i = (w.settle i).modifyCell n f := by
  have hused : (w.modifyCell n f).inUse i = w.inUse i := by
    simp only [inUse, holdOf, getElem?_modifyCell_ne h]
    rfl
  unfold settle
  rw [hused]
  split
  · rfl
  · simp only [modifyCell]
    rw [List.modify_modify_ne _ _ _ h]

theorem release_modifyCell {reference : Nat} (h : w.cellOf? reference ≠ some n) :
    (w.modifyCell n f).release reference = (w.release reference).modifyCell n f := by
  have hcell : (w.modifyCell n f).cellOf? reference = w.cellOf? reference := rfl
  unfold release
  rw [hcell]
  cases hc : w.cellOf? reference with
  | none => rfl
  | some i =>
    have hi : i ≠ n := fun he => h (hc.trans (congrArg some he))
    have hsettled := settle_modifyCell (w := { w with
      references := w.references.modify reference fun r => { r with released := true } })
      (f := f) hi
    exact hsettled

theorem drop_modifyCell {number : Nat} (h : (w.living? number).bind Object.cell? ≠ some n) :
    (w.modifyCell n f).drop number = (w.drop number).modifyCell n f := by
  have hslots : (w.modifyCell n f).slots = w.slots := rfl
  unfold drop
  rw [hslots]
  cases hs : w.slots[number]? with
  | none => rfl
  | some slot =>
    dsimp only
    split
    · rfl
    · rename_i hliving
      cases hc : slot.object.cell? with
      | none => rfl
      | some i =>
        have hi : i ≠ n := by
          rintro rfl
          simp [living?, hs, hliving, hc] at h
        dsimp only
        rw [onCell_modifyCell hi]
        have hsettled := settle_modifyCell (w := {
          (w.onCell i fun shared => ((), leave slot.object shared)).2 with
          slots := w.slots.set number { slot with dropped := true } }) (f := f) hi
        exact hsettled

theorem ask_modifyCell {query : Query} (h : w.asks? query ≠ some n) :
    (w.modifyCell n f).ask query = (w.ask query).map id (modifyCell · n f) := by
  have hliving : ∀ number, (w.modifyCell n f).living? number = w.living? number := fun _ => rfl
  have htext : ∀ ref, (w.modifyCell n f).text? ref = w.text? ref := fun ref => by cases ref <;> rfl
  have hsubject : ∀ ref, (w.modifyCell n f).subject? ref = w.subject? ref := by
    intro ref
    cases ref with
    | text ref => exact congrArg (Option.map Subject.text) (htext ref)
    | literal value => rfl
  cases query with
  | find number ref start =>
    unfold ask
    dsimp only
    rw [hliving, htext]
    split
    · rename_i scanner cell text ho ht
      by_cases hs : scanner.sources = []
      · exact replyFrom_unused_modifyCell (scanner.findNext_of_empty hs text start) cell _
      · apply replyFrom_modifyCell
        simpa [asks?, ho, ht, hs] using h
    · rfl
  | search number ref start =>
    unfold ask
    dsimp only
    rw [hliving, htext]
    split
    · rename_i finder cell text ho ht
      cases finder with
      | literal value => exact replyFrom_unused_modifyCell (fun _ => rfl) cell _
      | pattern id source =>
        apply replyFrom_modifyCell
        simpa [asks?, ho, ht, Finder.scanner?] using h
    · rfl
  | test number subject =>
    unfold ask
    dsimp only
    rw [hliving, hsubject]
    split
    · rename_i finder cell subject ho ht
      cases finder with
      | literal value =>
        cases subject with
        | literal other => exact replyFrom_unused_modifyCell (fun _ => rfl) cell _
        | text text => exact replyFrom_unused_modifyCell (fun _ => rfl) cell _
      | pattern id source =>
        cases subject with
        | literal value => exact replyFrom_unused_modifyCell (fun _ => rfl) cell _
        | text text =>
          apply replyFrom_modifyCell
          simpa [asks?, ho, ht, Finder.scanner?] using h
    · rfl

/-- Whatever is done to a cell, an action that does not need it answers the same, and does the same
to everything else. -/
theorem act_modifyCell {action : Action σ} (hn : n < w.cells.length)
    (h : w.needs? action ≠ some n) :
    (w.modifyCell n f).act action = (w.act action).map id (modifyCell · n f) := by
  have hliving : ∀ number, (w.modifyCell n f).living? number = w.living? number := fun _ => rfl
  cases action with
  | newCache engine capacity =>
    exact congrArg (Prod.mk _) (addCell_modifyCell hn _)
  | newConfigured engine config =>
    unfold act
    dsimp only
    split
    · exact congrArg (Prod.mk _) (addCell_modifyCell hn _)
    · rfl
  | useCommon => rfl
  | release cache => exact congrArg (Prod.mk _) (release_modifyCell h)
  | newScanner sources cache =>
    exact create_modifyCell cache fun id cell => .scanner ⟨id, sources⟩ cell
  | newFinder source cache =>
    exact create_modifyCell cache fun id cell => .finder (.new id source) cell
  | newIdentity => rfl
  | newText text => rfl
  | ask query => exact ask_modifyCell h
  | source object =>
    unfold act
    dsimp only
    rw [hliving]
    split <;> rfl
  | sources object =>
    unfold act
    dsimp only
    rw [hliving]
    split <;> rfl
  | searchesWith object cache => rfl
  | dispose object =>
    unfold act
    dsimp only
    rw [hliving]
    split
    · rename_i scanner cell ho
      apply replyFrom_modifyCell
      simpa [needs?, ho] using h
    · rfl
  | drop object => exact congrArg (Prod.mk _) (drop_modifyCell h)
  | findOnBehalf cache object patterns text start => exact onBehalf_modifyCell h _ _
  | evict cache object => exact onBehalf_modifyCell h _ _
  | clear cache => exact replyFrom_modifyCell h _ _
  | resize cache capacity => exact replyFrom_modifyCell h _ _
  | setLog cache on => exact replyFrom_modifyCell h _ _
  | describe cache => exact congrArg (Prod.mk · _) (replySeen_modifyCell h _)
  | configure config =>
    by_cases hv : config.capacity = 0
    · have hrefused : ∀ s : SharedCache σ, s.configure config = (.error .zeroCapacity, s) :=
        fun s => s.configure_of_zero hv
      exact replyFrom_unused_modifyCell hrefused commonCell _
    · unfold act
      apply replyFrom_modifyCell
      simpa [needs?, hv] using h
  | statistics => exact congrArg (Prod.mk · _) (replySeen_modifyCell h _)
  | instruct cache instruction =>
    unfold act
    dsimp only
    have href : (w.modifyCell n f).references = w.references := rfl
    rw [href]
    cases hr : w.references[cache]? with
    | none => rfl
    | some reference =>
      have hi : reference.cell ≠ n := by
        simpa [needs?, hr] using h
      dsimp only
      rw [onCell_modifyCell hi]
      rfl

end PatternScan.Session.World
