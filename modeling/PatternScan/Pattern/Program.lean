import PatternScan.Pattern.Expr

namespace PatternScan.Pattern

/-- An instruction of a table; it names the instructions that may come next, the preferred one
first. -/
inductive Inst where
  | accept
  | dead
  | char (set : CodeSet) (next : Nat)
  | byte (set : CodeSet) (next : Nat)
  | look (test : Look) (next : Nat)
  /-- Records the position. -/
  | mark (slot : Nat) (next : Nat)
  | fork (nexts : List Nat)
  deriving Repr

def Inst.degree : Inst → Nat
  | .fork nexts => nexts.length
  | _ => 1

abbrev Builder := StateM (Array Inst)

namespace Builder

def emit (inst : Inst) : Builder Nat := do
  let insts ← get
  set (insts.push inst)
  return insts.size

/-- An instruction whose successors are not known yet. -/
def reserve : Builder Nat := emit .dead

def fill (address : Nat) (inst : Inst) : Builder Unit := modify fun insts =>
  insts.setIfInBounds address inst

def forkBetween (greedy : Bool) (body exit : Nat) : Inst :=
  .fork (if greedy then [body, exit] else [exit, body])

def literal (bytes : List UInt8) (next : Nat) : Builder Nat :=
  bytes.foldrM (fun b next => emit (.byte (CodeSet.single b.toNat) next)) next

def copies (body : Nat → Builder Nat) (next : Nat) : Nat → Builder Nat
  | 0 => return next
  | count + 1 => do body (← copies body next count)

/-- The body at most a number of times, each time nested in the one before. -/
def optionals (greedy : Bool) (body : Nat → Builder Nat) (exit : Nat) : Nat → Builder Nat
  | 0 => return exit
  | count + 1 => do
    let inner ← optionals greedy body exit count
    let start ← body inner
    emit (forkBetween greedy start exit)

def oneOrMore (greedy : Bool) (body : Nat → Builder Nat) (next : Nat) : Builder Nat := do
  let again ← reserve
  let start ← body again
  fill again (forkBetween greedy start next)
  return start

/-- The body any number of times. If it can match the empty text, its first time is a choice of its
own, so that the preferences come in the right order. -/
def zeroOrMore (greedy consumes : Bool) (body : Nat → Builder Nat) (next : Nat) : Builder Nat := do
  if consumes then
    let again ← reserve
    let start ← body again
    fill again (forkBetween greedy start next)
    return again
  else
    let start ← oneOrMore greedy body next
    emit (forkBetween greedy start next)

def repetition (least : Nat) (most : Option Nat) (greedy consumes : Bool)
    (body : Nat → Builder Nat) (next : Nat) : Builder Nat := do
  match most with
  | some most =>
    let rest ← optionals greedy body next (most - least)
    copies body rest least
  | none =>
    match least with
    | 0 => zeroOrMore greedy consumes body next
    | before + 1 =>
      let last ← oneOrMore greedy body next
      copies body last before

mutual

def ofExpr (expr : Expr) (next : Nat) : Builder Nat :=
  match expr with
  | .empty => return next
  | .literal bytes => literal bytes next
  | .char set => emit (.char set next)
  | .byte set => emit (.byte set next)
  | .look test => emit (.look test next)
  | .repetition least most greedy body =>
    repetition least most greedy ((Expr.minLength body).getD 0 != 0) (ofExpr body) next
  | .group index body => do
    let close ← emit (.mark (2 * index + 1) next)
    let start ← ofExpr body close
    emit (.mark (2 * index) start)
  | .sequence parts => ofSequence parts next
  | .choice branches => do
    let starts ← ofChoice branches next
    emit (.fork starts)

def ofSequence (parts : List Expr) (next : Nat) : Builder Nat :=
  match parts with
  | [] => return next
  | part :: rest => do
    let after ← ofSequence rest next
    ofExpr part after

def ofChoice (branches : List Expr) (next : Nat) : Builder (List Nat) :=
  match branches with
  | [] => return []
  | branch :: rest => do
    let start ← ofExpr branch next
    let others ← ofChoice rest next
    return start :: others

end

/-- An expression's instructions, entered at the address that is returned. -/
def whole (expr : Expr) : Builder Nat := do
  let accept ← emit .accept
  ofExpr expr accept

end Builder

/-- The instructions of an expression. -/
structure Program where
  expr : Expr
  insts : Array Inst
  entry : Nat
  /-- How many captures a match has, the whole match included. -/
  groups : Nat
  built : (entry, insts) = (Builder.whole expr).run #[]
  groups_eq : groups = expr.lastGroup + 1

def Program.ofExpr (expr : Expr) : Program :=
  let built := (Builder.whole expr).run #[]
  ⟨expr, built.2, built.1, expr.lastGroup + 1, rfl, rfl⟩

theorem Program.eq_ofExpr (p : Program) : p = ofExpr p.expr := by
  obtain ⟨expr, insts, entry, groups, built, rfl⟩ := p
  obtain ⟨rfl, rfl⟩ := Prod.mk.inj built
  rfl

end PatternScan.Pattern
