import Mathlib.Data.List.Basic
import Mathlib.Data.Set.Insert
import PatternScan.Proofs.Pattern.Leftmost

namespace PatternScan.Pattern

/-- An instruction that may come next inside of the given groups, or of more. -/
structure Leads (size : Nat) (inside : Nat → Set Nat) (groups : Set Nat) (next : Nat) : Prop where
  lt : next < size
  subset : groups ⊆ inside next

/-- Whether an instruction inside of the given groups leads to where it may. Marks with even numbers
open groups, those with odd numbers close them. -/
def Inst.Fits (size : Nat) (inside : Nat → Set Nat) (groups : Set Nat) : Inst → Prop
  | .accept => groups = ∅
  | .dead => True
  | .char _ next => Leads size inside groups next
  | .byte _ next => Leads size inside groups next
  | .look _ next => Leads size inside groups next
  | .mark slot next =>
    Leads size inside (if slot % 2 = 0 then insert (slot / 2) groups else groups \ {slot / 2}) next
  | .fork nexts => ∀ next ∈ nexts, Leads size inside groups next

/-- Instructions, and the groups that each of them is inside of. -/
structure Layout where
  insts : Array Inst
  inside : Nat → Set Nat
  fits : ∀ address (inst : Inst), insts[address]? = some inst →
    inst.Fits insts.size inside (inside address)

section

variable {size larger : Nat} {inside other : Nat → Set Nat} {groups : Set Nat} {inst : Inst}

theorem Leads.mono {next : Nat} (h : Leads size inside groups next) (hsize : size ≤ larger)
    (hinside : ∀ a, a < size → other a = inside a) : Leads larger other groups next :=
  ⟨Nat.lt_of_lt_of_le h.lt hsize, hinside next h.lt ▸ h.subset⟩

theorem Inst.Fits.mono (h : inst.Fits size inside groups) (hsize : size ≤ larger)
    (hinside : ∀ a, a < size → other a = inside a) : inst.Fits larger other groups := by
  cases inst with
  | accept => exact h
  | dead => trivial
  | char set next => exact Leads.mono h hsize hinside
  | byte set next => exact Leads.mono h hsize hinside
  | look test next => exact Leads.mono h hsize hinside
  | mark slot next => exact Leads.mono h hsize hinside
  | fork nexts => exact fun next hn => (h next hn).mono hsize hinside

end

namespace Layout

variable {t u v : Layout} {groups : Set Nat} {address : Nat} {inst : Inst}

/-- More instructions behind the same ones, which may have been filled in. -/
structure Extends (u t : Layout) : Prop where
  size_le : t.insts.size ≤ u.insts.size
  inside_eq : ∀ a, a < t.insts.size → u.inside a = t.inside a

theorem extends_self (t : Layout) : t.Extends t := ⟨Nat.le_refl _, fun _ _ => rfl⟩

theorem Extends.trans (h : v.Extends u) (h' : u.Extends t) : v.Extends t :=
  ⟨Nat.le_trans h'.size_le h.size_le, fun a ha =>
    (h.inside_eq a (Nat.lt_of_lt_of_le ha h'.size_le)).trans (h'.inside_eq a ha)⟩

structure At (t : Layout) (groups : Set Nat) (address : Nat) : Prop where
  lt : address < t.insts.size
  inside_eq : t.inside address = groups

theorem At.mono (h : t.At groups address) (hu : u.Extends t) : u.At groups address :=
  ⟨Nat.lt_of_lt_of_le h.lt hu.size_le, (hu.inside_eq address h.lt).trans h.inside_eq⟩

theorem At.leads (h : t.At groups address) : Leads t.insts.size t.inside groups address :=
  ⟨h.lt, h.inside_eq ▸ subset_rfl⟩

theorem exists_push (h : inst.Fits t.insts.size t.inside groups) :
    ∃ u : Layout, u.Extends t ∧ u.insts = t.insts.push inst ∧ u.At groups t.insts.size := by
  let inside := Function.update t.inside t.insts.size groups
  have hsize : t.insts.size ≤ (t.insts.push inst).size := by simp
  have hbefore : ∀ a, a < t.insts.size → inside a = t.inside a := fun a ha =>
    Function.update_of_ne (Nat.ne_of_lt ha) _ _
  have hlast : inside t.insts.size = groups := Function.update_self ..
  refine ⟨⟨t.insts.push inst, inside, ?_⟩, ⟨hsize, hbefore⟩, rfl, ⟨by simp, hlast⟩⟩
  intro a other ha
  rw [Array.getElem?_push] at ha
  split at ha
  · rename_i he
    obtain rfl := Option.some.inj ha
    rw [he, hlast]
    exact h.mono hsize hbefore
  · have hlt : a < t.insts.size := (Array.getElem?_eq_some_iff.mp ha).1
    rw [hbefore a hlt]
    exact (t.fits a other ha).mono hsize hbefore

theorem exists_set (ha : t.At groups address) (h : inst.Fits t.insts.size t.inside groups) :
    ∃ u : Layout, u.Extends t ∧ u.insts = t.insts.setIfInBounds address inst := by
  have hsize : (t.insts.setIfInBounds address inst).size = t.insts.size := by simp
  refine ⟨⟨t.insts.setIfInBounds address inst, t.inside, ?_⟩,
    ⟨Nat.le_of_eq hsize.symm, fun _ _ => rfl⟩, rfl⟩
  intro a other hget
  rw [hsize]
  by_cases he : address = a
  · subst he
    rw [Array.getElem?_setIfInBounds_self, if_pos ha.lt] at hget
    obtain rfl := Option.some.inj hget
    exact ha.inside_eq ▸ h
  · rw [Array.getElem?_setIfInBounds_ne he] at hget
    exact t.fits a other hget

end Layout

namespace Builder

variable {α β : Type} {t : Layout} {groups : Set Nat} {next : Nat}

/-- A builder that finds the instructions of a layout leaves those of one that extends it. -/
def Builds (build : Builder α) (t : Layout) (post : α → Layout → Prop) : Prop :=
  ∃ u : Layout, u.Extends t ∧ (build.run t.insts).2 = u.insts ∧ post (build.run t.insts).1 u

theorem builds_pure {post : α → Layout → Prop} {a : α} (h : post a t) :
    Builds (pure a) t post := ⟨t, t.extends_self, rfl, h⟩

theorem Builds.bind {build : Builder α} {rest : α → Builder β} {mid : α → Layout → Prop}
    {post : β → Layout → Prop} (h : Builds build t mid)
    (hrest : ∀ a (u : Layout), u.Extends t → mid a u → Builds (rest a) u post) :
    Builds (build >>= rest) t post := by
  obtain ⟨u, hu, hinsts, hmid⟩ := h
  obtain ⟨v, hv, hinsts', hpost⟩ := hrest _ u hu hmid
  have hrun : (build >>= rest).run t.insts = (rest (build.run t.insts).1).run u.insts :=
    congrArg (rest (build.run t.insts).1).run hinsts
  exact ⟨v, hv.trans hu, hrun ▸ hinsts', hrun ▸ hpost⟩

theorem builds_emit {inst : Inst} (h : inst.Fits t.insts.size t.inside groups) :
    Builds (emit inst) t fun address u => u.At groups address := by
  obtain ⟨u, hu, hinsts, hat⟩ := Layout.exists_push h
  exact ⟨u, hu, hinsts.symm, hat⟩

theorem builds_reserve (groups : Set Nat) :
    Builds reserve t fun address u => u.At groups address := builds_emit trivial

theorem builds_fill {inst : Inst} {address : Nat} (ha : t.At groups address)
    (h : inst.Fits t.insts.size t.inside groups) :
    Builds (fill address inst) t fun _ _ => True := by
  obtain ⟨u, hu, hinsts⟩ := Layout.exists_set ha h
  exact ⟨u, hu, hinsts.symm, trivial⟩

theorem fits_forkBetween (greedy : Bool) {body exit : Nat} (hb : t.At groups body)
    (he : t.At groups exit) :
    (forkBetween greedy body exit).Fits t.insts.size t.inside groups := by
  intro next hn
  cases greedy
  all_goals
    rcases List.mem_pair.mp hn with rfl | rfl
    · first | exact hb.leads | exact he.leads
    · first | exact hb.leads | exact he.leads

def Steady (body : Nat → Builder Nat) : Prop :=
  ∀ (t : Layout) (groups : Set Nat) (next : Nat), t.At groups next →
    Builds (body next) t fun start u => u.At groups start

theorem steady_literal (bytes : List UInt8) : Steady (literal bytes) := by
  intro t groups next hnext
  induction bytes with
  | nil => exact builds_pure hnext
  | cons b rest ih =>
    rw [literal, List.foldrM_cons]
    exact ih.bind fun after u _ hafter => builds_emit hafter.leads

section

variable {body : Nat → Builder Nat} (hbody : Steady body)

include hbody

theorem steady_copies (count : Nat) : Steady (copies body · count) := by
  intro t groups next hnext
  induction count with
  | zero => exact builds_pure hnext
  | succ count ih => exact ih.bind fun after u _ hafter => hbody u groups after hafter

theorem steady_optionals (greedy : Bool) (count : Nat) :
    Steady (optionals greedy body · count) := by
  intro t groups exit hexit
  induction count with
  | zero => exact builds_pure hexit
  | succ count ih =>
    refine ih.bind fun inner u hu hinner => ?_
    refine (hbody u groups inner hinner).bind fun start v hv hstart => ?_
    exact builds_emit (fits_forkBetween greedy hstart (hexit.mono (hv.trans hu)))

/-- A body that comes back to a choice of doing it again or going on. -/
theorem builds_loop (greedy : Bool) {rest : Nat → Nat → Builder Nat} {post : Nat → Layout → Prop}
    (hnext : t.At groups next)
    (hrest : ∀ again start (u : Layout), u.At groups again → u.At groups start →
      Builds (rest again start) u post) :
    Builds (do
      let again ← reserve
      let start ← body again
      fill again (forkBetween greedy start next)
      rest again start) t post := by
  refine (builds_reserve groups).bind fun again u hu hagain => ?_
  refine (hbody u groups again hagain).bind fun start v hv hstart => ?_
  have hfork := fits_forkBetween greedy hstart (hnext.mono (hv.trans hu))
  refine (builds_fill (hagain.mono hv) hfork).bind fun _ w hw _ => ?_
  exact hrest again start w ((hagain.mono hv).mono hw) (hstart.mono hw)

theorem steady_oneOrMore (greedy : Bool) : Steady (oneOrMore greedy body) := by
  intro t groups next hnext
  exact builds_loop hbody greedy hnext fun _ _ _ _ hstart => builds_pure hstart

theorem steady_zeroOrMore (greedy consumes : Bool) : Steady (zeroOrMore greedy consumes body) := by
  intro t groups next hnext
  unfold zeroOrMore
  split
  · exact builds_loop hbody greedy hnext fun _ _ _ hagain _ => builds_pure hagain
  · refine (steady_oneOrMore hbody greedy t groups next hnext).bind fun start u hu hstart => ?_
    exact builds_emit (fits_forkBetween greedy hstart (hnext.mono hu))

theorem steady_repetition (least : Nat) (most : Option Nat) (greedy consumes : Bool) :
    Steady (repetition least most greedy consumes body) := by
  intro t groups next hnext
  unfold repetition
  split
  · refine (steady_optionals hbody greedy _ t groups next hnext).bind fun rest u _ hrest => ?_
    exact steady_copies hbody least u groups rest hrest
  · split
    · exact steady_zeroOrMore hbody greedy consumes t groups next hnext
    · rename_i before
      refine (steady_oneOrMore hbody greedy t groups next hnext).bind fun last u _ hlast => ?_
      exact steady_copies hbody before u groups last hlast

theorem steady_group (index : Nat) : Steady (fun next => do
    let close ← emit (.mark (2 * index + 1) next)
    let start ← body close
    emit (.mark (2 * index) start)) := by
  intro t groups next hnext
  have hclose : (Inst.mark (2 * index + 1) next).Fits t.insts.size t.inside
      (insert index groups) := by
    refine ⟨hnext.lt, ?_⟩
    rw [if_neg (by omega), show (2 * index + 1) / 2 = index by omega, hnext.inside_eq]
    exact fun group hg => hg.1.resolve_left hg.2
  refine (builds_emit hclose).bind fun close u _ hat => ?_
  refine (hbody u _ close hat).bind fun start v _ hstart => ?_
  refine builds_emit ⟨hstart.lt, ?_⟩
  rw [if_pos (by omega), show 2 * index / 2 = index by omega, hstart.inside_eq]

end

mutual

theorem steady_ofExpr : (expr : Expr) → Steady (ofExpr expr)
  | .empty => by
    intro t groups next hnext
    exact builds_pure hnext
  | .literal bytes => steady_literal bytes
  | .char set => fun t groups next hnext => builds_emit hnext.leads
  | .byte set => fun t groups next hnext => builds_emit hnext.leads
  | .look test => fun t groups next hnext => builds_emit hnext.leads
  | .repetition least most greedy body =>
    steady_repetition (steady_ofExpr body) least most greedy _
  | .group index body => steady_group (steady_ofExpr body) index
  | .sequence parts => steady_ofSequence parts
  | .choice branches => fun t groups next hnext =>
    (builds_ofChoice branches t groups next hnext).bind fun starts u _ hstarts =>
      builds_emit fun start hm => (hstarts start hm).leads

theorem steady_ofSequence : (parts : List Expr) → Steady (ofSequence parts)
  | [] => fun _ _ _ hnext => builds_pure hnext
  | part :: rest => fun t groups next hnext =>
    (steady_ofSequence rest t groups next hnext).bind fun after u _ hafter =>
      steady_ofExpr part u groups after hafter

theorem builds_ofChoice : (branches : List Expr) → ∀ (t : Layout) (groups : Set Nat) (next : Nat),
    t.At groups next →
      Builds (ofChoice branches next) t fun starts u => ∀ start ∈ starts, u.At groups start
  | [], _, _, _, _ => builds_pure (by simp)
  | branch :: rest, t, groups, next, hnext => by
    rw [ofChoice]
    refine (steady_ofExpr branch t groups next hnext).bind fun start u hu hstart => ?_
    refine (builds_ofChoice rest u groups next (hnext.mono hu)).bind fun others v hv hothers => ?_
    exact builds_pure (List.forall_mem_cons.mpr ⟨hstart.mono hv, hothers⟩)

end

end Builder

/-- An expression's program has a layout, and begins outside of all groups. -/
theorem Program.exists_layout (expr : Expr) : ∃ t : Layout,
    t.insts = (Program.ofExpr expr).insts ∧ t.inside (Program.ofExpr expr).entry = ∅ := by
  let t : Layout := ⟨#[], fun _ => ∅, by simp⟩
  have haccept : Inst.accept.Fits t.insts.size t.inside ∅ := rfl
  have hbuilt : Builder.Builds (do
      let accept ← Builder.emit .accept
      Builder.ofExpr expr accept : Builder Nat) t fun start u => u.At ∅ start :=
    (Builder.builds_emit haccept).bind fun accept u _ hat =>
      Builder.steady_ofExpr expr u ∅ accept hat
  obtain ⟨u, -, hinsts, hat⟩ := hbuilt
  exact ⟨u, hinsts.symm, hat.inside_eq⟩

/-- Marks that a search may have recorded inside of the given groups: none lies ahead, and those of
every other group are in order. -/
structure Job.InOrder (job : Job) (groups : Set Nat) : Prop where
  le : ∀ slot place : Nat, job.marks[slot]?.join = some place → place ≤ job.position
  closed : ∀ group, group ∉ groups → ∀ start stop : Nat,
    job.marks[2 * group]?.join = some start → job.marks[2 * group + 1]?.join = some stop →
      start ≤ stop

variable {job next : Job} {groups : Set Nat} {text : Array UInt8}

/-- Going on without a mark. -/
theorem Job.InOrder.move (h : job.InOrder groups) {other : Set Nat} (hsub : groups ⊆ other)
    (hmarks : next.marks = job.marks) (hposition : job.position ≤ next.position) :
    next.InOrder other := by
  constructor
  · rw [hmarks]
    exact fun slot place hp => Nat.le_trans (h.le slot place hp) hposition
  · rw [hmarks]
    exact fun group hg => h.closed group fun hin => hg (hsub hin)

theorem join_getElem?_set {marks : Array (Option Nat)} {slot other position place : Nat}
    (h : (marks.setIfInBounds slot (some position))[other]?.join = some place) :
    slot = other ∧ place = position ∨ slot ≠ other ∧ marks[other]?.join = some place := by
  by_cases he : slot = other
  · subst he
    rw [Array.getElem?_setIfInBounds_self] at h
    split at h
    · exact Or.inl ⟨rfl, (Option.some.inj h).symm⟩
    · cases h
  · rw [Array.getElem?_setIfInBounds_ne he] at h
    exact Or.inr ⟨he, h⟩

/-- Recording the position. A group that is being closed begins no later. -/
theorem Job.InOrder.mark (h : job.InOrder groups) (slot address : Nat) :
    Job.InOrder ⟨address, job.position, job.marks.setIfInBounds slot (some job.position)⟩
      (if slot % 2 = 0 then insert (slot / 2) groups else groups \ {slot / 2}) := by
  constructor
  · intro other place hp
    rcases join_getElem?_set hp with ⟨-, rfl⟩ | ⟨-, hp⟩
    · exact Nat.le_refl _
    · exact h.le other place hp
  · intro group hg start stop hstart hstop
    rcases join_getElem?_set hstop with ⟨rfl, rfl⟩ | ⟨hstop', hstop⟩
    · rcases join_getElem?_set hstart with ⟨he, -⟩ | ⟨-, hstart⟩
      · omega
      · exact h.le _ _ hstart
    · rcases join_getElem?_set hstart with ⟨rfl, rfl⟩ | ⟨-, hstart⟩
      · rw [if_pos (by omega), show 2 * group / 2 = group by omega] at hg
        exact absurd (Set.mem_insert group groups) hg
      · refine h.closed group (fun hin => hg ?_) start stop hstart hstop
        split
        · exact Set.mem_insert_of_mem _ hin
        · refine ⟨hin, fun he => ?_⟩
          obtain rfl : group = slot / 2 := he
          omega

theorem Job.InOrder.step {size : Nat} {inside : Nat → Set Nat} {inst : Inst}
    (h : job.InOrder groups) (hf : inst.Fits size inside groups)
    (hn : next ∈ Program.successors inst text job) : next.InOrder (inside next.address) := by
  cases inst with
  | accept => cases hn
  | dead => cases hn
  | char set address =>
    simp only [Program.successors] at hn
    split at hn
    · split at hn
      · obtain rfl := List.mem_singleton.mp hn
        exact h.move hf.subset rfl (Nat.le_add_right _ _)
      · cases hn
    · cases hn
  | byte set address =>
    simp only [Program.successors] at hn
    split at hn
    · split at hn
      · obtain rfl := List.mem_singleton.mp hn
        exact h.move hf.subset rfl (Nat.le_add_right _ _)
      · cases hn
    · cases hn
  | look test address =>
    simp only [Program.successors] at hn
    split at hn
    · obtain rfl := List.mem_singleton.mp hn
      exact h.move hf.subset rfl (Nat.le_refl _)
    · cases hn
  | mark slot address =>
    obtain rfl := List.mem_singleton.mp hn
    exact (h.mark slot address).move hf.subset rfl (Nat.le_refl _)
  | fork addresses =>
    obtain ⟨address, hm, rfl⟩ := List.mem_map.mp hn
    exact h.move (hf address hm).subset rfl (Nat.le_refl _)

namespace Program

variable {expr : Expr} {start : Nat} {captures : Captures}

theorem mem_spans {marks : Array (Option Nat)} {groups : Nat} {span : Span}
    (h : some span ∈ spans marks groups) : ∃ group,
      marks[2 * group]?.join = some span.start ∧ marks[2 * group + 1]?.join = some span.stop := by
  obtain ⟨group, -, hg⟩ := List.mem_map.mp h
  refine ⟨group, ?_⟩
  split at hg
  · rename_i first last hfirst hlast
    cases hg
    exact ⟨hfirst, hlast⟩
  · cases hg

theorem inOrder_explore {tried : Tried} {fuel : Nat} {done : Job}
    (h : (ofExpr expr).explore text
      [⟨(ofExpr expr).entry, start, Array.replicate (2 * (ofExpr expr).groups) none⟩] tried fuel =
        some done) : done.InOrder ∅ := by
  obtain ⟨t, hinsts, hentry⟩ := exists_layout expr
  have hstep : ∀ job inst next, (ofExpr expr).insts[job.address]? = some inst →
      job.InOrder (t.inside job.address) → next ∈ successors inst text job →
        next.InOrder (t.inside next.address) := by
    intro job inst next hinst hjob hn
    exact hjob.step (t.fits _ _ (hinsts ▸ hinst)) hn
  have hfirst : ∀ job ∈ [Job.mk (ofExpr expr).entry start
      (Array.replicate (2 * (ofExpr expr).groups) none)], job.InOrder (t.inside job.address) := by
    intro job hm
    obtain rfl := List.mem_singleton.mp hm
    have hunset : ∀ slot : Nat,
        (Array.replicate (2 * (ofExpr expr).groups) (none : Option Nat))[slot]?.join = none := by
      intro slot
      rw [Array.getElem?_replicate]
      split <;> rfl
    constructor
    · intro slot place hp
      rw [hunset] at hp
      cases hp
    · intro group hg first last hfirst
      rw [hunset] at hfirst
      cases hfirst
  obtain ⟨hdone, haccept⟩ := explore_keeps hstep hfirst h
  have hnone : Inst.accept.Fits t.insts.size t.inside (t.inside done.address) :=
    t.fits _ _ (hinsts ▸ haccept)
  exact hdone.move (Set.subset_empty_iff.mpr hnone) rfl (Nat.le_refl _)

/-- All captures lie in the text, and none ends before it begins. -/
theorem inText : Regex.InText Program where
  bounds p text start captures _ h span hs := by
    obtain ⟨position, -, hend, hm, -⟩ := search?_eq_some_iff.mp h
    obtain ⟨done, hd, rfl⟩ := Option.map_eq_some_iff.mp hm
    have hw := within_of_start hend hd
    rw [p.eq_ofExpr] at hd
    have ho := inOrder_explore hd
    rcases List.mem_cons.mp hs with hs | hs
    · cases hs
      exact ⟨hw.start_le, hw.le_size⟩
    · obtain ⟨group, hstart, hstop⟩ := mem_spans (List.mem_of_mem_tail hs)
      exact ⟨ho.closed group (Set.notMem_empty group) _ _ hstart hstop,
        Nat.le_trans (ho.le _ _ hstop) hw.le_size⟩

end Program
end PatternScan.Pattern
