import PatternScan.Session.Run

namespace PatternScan.Session

/-- A program that holds no cache itself, and chooses each step by what it was told before. A search
may be in its callback form: the callback is a program too, and the rest goes on with its value. -/
inductive Program (σ ν : Type) where
  | done (value : ν)
  | act (action : Action σ) (next : Except Failure Reply → Program σ ν)
  | call (query : Query) (callback : Except Failure Reply → Program σ ν) (next : ν → Program σ ν)

inductive Event where
  | answered (reply : Except Failure Reply)
  /-- A callback begins; `free` tells whether nobody holds a cache then. -/
  | entered (reply : Except Failure Reply) (free : Bool)
  | left

def World.allFree {σ : Type} (w : World σ) : Bool := w.cells.all fun c => c.shared.hold == .free

namespace Program

variable {σ ν : Type}

def bind (p : Program σ ν) (rest : ν → Program σ ν) : Program σ ν :=
  match p with
  | done value => rest value
  | act action next => act action fun reply => (next reply).bind rest
  | call query callback next => call query callback fun value => (next value).bind rest

/-- The program in which each search with a callback is a plain one, and what the callback does
comes right behind it. -/
def flatten : Program σ ν → Program σ ν
  | done value => done value
  | act action next => act action fun reply => (next reply).flatten
  | call query callback next =>
    act (.ask query) fun reply => (callback reply).flatten.bind fun value => (next value).flatten

def run [Engine σ] (p : Program σ ν) (w : World σ) : (ν × List Event) × World σ :=
  match p with
  | done value => ((value, []), w)
  | act action next =>
    let (reply, w) := w.act action
    let ((value, events), w) := (next reply).run w
    ((value, .answered reply :: events), w)
  | call query callback next =>
    let ((value, inner), w) := w.askThen (fun reply w =>
      let ((value, events), later) := (callback reply).run w
      ((value, .entered reply w.allFree :: events ++ [.left]), later)) query
    let ((value, events), w) := (next value).run w
    ((value, inner ++ events), w)

end Program

end PatternScan.Session
