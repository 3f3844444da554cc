import PatternScan.Session.Step

namespace PatternScan.Session

namespace World

variable {σ α : Type}

def text? (w : World σ) : TextRef → Option IndexedText
  | .given text => some text
  | .prepared number => w.texts[number]?

def subject? (w : World σ) : SubjectRef → Option Subject
  | .text ref => (w.text? ref).map .text
  | .literal value => some (.literal value)

/-- The cell that a new object searches with. -/
def cellFor? (w : World σ) : Option Nat → Option Nat
  | none => some commonCell
  | some reference => w.cellOf? reference

/-- Works on a cell and turns the result into a reply. Where there is none, nothing happens. -/
def replyFrom (w : World σ) (cell : Option Nat) (convert : α → Reply)
    (use : SharedCache σ → Except Failure α × SharedCache σ) : Except Failure Reply × World σ :=
  match cell with
  | none => (.ok .nothing, w)
  | some cell =>
    match w.onCell cell use with
    | (some result, w) => (result.map convert, w)
    | (none, w) => (.ok .nothing, w)

def replySeen (w : World σ) (cell : Option Nat) (look : Cache σ → Reply) : Except Failure Reply :=
  match cell.bind (w.cells[·]?) with
  | none => .ok .nothing
  | some c => c.shared.read look

variable [Engine σ]

def ask (w : World σ) (query : Query) : Except Failure Reply × World σ :=
  match query with
  | .find number text start =>
    match w.living? number, w.text? text with
    | some (.scanner scanner cell), some text =>
      w.replyFrom (some cell) .found (scanner.findNext text start)
    | _, _ => (.ok .nothing, w)
  | .search number text start =>
    match w.living? number, w.text? text with
    | some (.finder finder cell), some text =>
      w.replyFrom (some cell) .captures (finder.search text start)
    | _, _ => (.ok .nothing, w)
  | .test number subject =>
    match w.living? number, w.subject? subject with
    | some (.finder finder cell), some subject =>
      w.replyFrom (some cell) .flag (finder.test subject)
    | _, _ => (.ok .nothing, w)

section

variable {β : Type} (w : World σ) (callback : Except Failure Reply → World σ → β × World σ)

/-- The callback form of a scanner's search. The callback gets the result, and works on the world
that the search leaves. -/
def findThen (scanner : Scanner) (cell : Nat) (text : IndexedText) (start : Nat) : β × World σ :=
  let (result, w) := w.replyFrom (some cell) .found (scanner.findNext text start)
  callback result w

/-- The callback form of a finder's search. -/
def searchThen (finder : Finder) (cell : Nat) (text : IndexedText) (start : Nat) : β × World σ :=
  let (result, w) := w.replyFrom (some cell) .captures (finder.search text start)
  callback result w

def testThen (finder : Finder) (cell : Nat) (subject : Subject) : β × World σ :=
  let (result, w) := w.replyFrom (some cell) .flag (finder.test subject)
  callback result w

def askThen (query : Query) : β × World σ :=
  match query with
  | .find number text start =>
    match w.living? number, w.text? text with
    | some (.scanner scanner cell), some text => w.findThen callback scanner cell text start
    | _, _ => callback (.ok .nothing) w
  | .search number text start =>
    match w.living? number, w.text? text with
    | some (.finder finder cell), some text => w.searchThen callback finder cell text start
    | _, _ => callback (.ok .nothing) w
  | .test number subject =>
    match w.living? number, w.subject? subject with
    | some (.finder finder cell), some subject => w.testThen callback finder cell subject
    | _, _ => callback (.ok .nothing) w

end

def create (w : World σ) (cache : Option Nat) (make : ScannerId → Nat → Object) :
    Except Failure Reply × World σ :=
  match w.cellFor? cache with
  | none => (.ok .nothing, w)
  | some cell =>
    let (id, w) := w.takeId
    (.ok (.number w.slots.length), w.addObject (make id cell))

/-- Works on a cache on behalf of an object, which may have been dropped. -/
def onBehalf (w : World σ) (cache object : Nat) (convert : α → Reply)
    (use : ScannerId → Cache σ → Except Failure α × Cache σ) : Except Failure Reply × World σ :=
  match (w.object? object).bind Object.id? with
  | none => (.ok .nothing, w)
  | some id => w.replyFrom (w.cellOf? cache) convert fun shared => shared.change (use id)

def act (w : World σ) (action : Action σ) : Except Failure Reply × World σ :=
  match action with
  | .newCache engine capacity =>
    (.ok (.number w.references.length), w.addCell (Cache.new engine capacity))
  | .newConfigured engine config =>
    match Cache.withConfig engine config with
    | .ok cache => (.ok (.number w.references.length), w.addCell cache)
    | .error failure => (.error failure, w)
  | .useCommon => (.ok (.number w.references.length), w.addReference commonCell)
  | .release cache => (.ok .nothing, w.release cache)
  | .newScanner sources cache => w.create cache fun id cell => .scanner ⟨id, sources⟩ cell
  | .newFinder source cache => w.create cache fun id cell => .finder (.new id source) cell
  | .newIdentity =>
    let (id, w) := w.takeId
    (.ok (.number w.slots.length), w.addObject (.identity id))
  | .newText text => (.ok (.number w.texts.length), w.addText text)
  | .ask query => w.ask query
  | .source object =>
    match w.living? object with
    | some (.finder finder _) => (.ok (.source finder.source), w)
    | _ => (.ok .nothing, w)
  | .sources object =>
    match w.living? object with
    | some (.scanner scanner _) => (.ok (.sources scanner.sources), w)
    | _ => (.ok .nothing, w)
  | .searchesWith object cache =>
    let cell := (w.living? object).bind Object.cell?
    (.ok (.flag (cell.isSome && cell == w.cellOf? cache)), w)
  | .dispose object =>
    match w.living? object with
    | some (.scanner scanner cell) => w.replyFrom (some cell) .flag scanner.dispose
    | _ => (.ok .nothing, w)
  | .drop object => (.ok .nothing, w.drop object)
  | .findOnBehalf cache object patterns text start =>
    w.onBehalf cache object .best fun id cache => cache.findBest id patterns text start
  | .evict cache object => w.onBehalf cache object .flag fun id cache => cache.evict id
  | .clear cache => w.replyFrom (w.cellOf? cache) (fun _ => .nothing) (·.change (·.clear))
  | .resize cache capacity =>
    w.replyFrom (w.cellOf? cache) (fun _ => .nothing) (·.change (·.resize capacity))
  | .setLog cache on =>
    w.replyFrom (w.cellOf? cache) (fun _ : Unit => .nothing)
      (·.change fun cache => (.ok (), cache.setLogEvictions on))
  | .describe cache =>
    (w.replySeen (w.cellOf? cache) fun cache => .text cache.description, w)
  | .configure config =>
    w.replyFrom (some commonCell) (fun _ => .nothing) (·.configure config)
  | .statistics =>
    (w.replySeen (some commonCell) fun cache => .statistics cache.statistics, w)
  | .instruct cache instruction =>
    match w.references[cache]? with
    | none => (.ok .nothing, w)
    | some reference =>
      let (_, w) := w.onCell reference.cell fun shared =>
        ((), { shared with
          cache := { shared.cache with engine := instruction shared.cache.engine } })
      (.ok .nothing, w)

/-- Starts holding a cache; also gives the cell and how it was held before. -/
def beginHold (w : World σ) (cache : Nat) (mode : Hold) : Option (Nat × Hold) × World σ :=
  match w.cellOf? cache with
  | none => (none, w)
  | some cell => (some (cell, w.holdOf cell), w.setHold cell mode)

/-- Holds a cell as before; it may be that nobody needs it now. -/
def endHold (w : World σ) : Option (Nat × Hold) → World σ
  | none => w
  | some (cell, before) => (w.setHold cell before).settle cell

end World

section

variable {σ ρ : Type} [Engine σ] (watch : World σ → ρ × World σ)

mutual

/-- Runs a step; `watch` observes the world after it. -/
def Step.run (w : World σ) : Step σ → Answer ρ × World σ
  | .act action =>
    let (reply, w) := w.act action
    let (observed, w) := watch w
    (.reply reply observed, w)
  | .call query body =>
    let ((result, answers), w) := w.askThen (fun result w =>
      let (answers, w) := runAll w body
      ((result, answers), w)) query
    let (observed, w) := watch w
    (.called result answers observed, w)
  | .hold cache mode body =>
    let (held, w) := w.beginHold cache mode
    let (answers, w) := runAll w body
    let (observed, w) := watch (w.endHold held)
    (.held answers observed, w)

def runAll (w : World σ) : List (Step σ) → List (Answer ρ) × World σ
  | [] => ([], w)
  | step :: rest =>
    let (answer, w) := step.run w
    let (answers, w) := runAll w rest
    (answer :: answers, w)

end

def run (w : World σ) (steps : List (Step σ)) : List (Answer ρ) × ρ :=
  let (answers, w) := runAll watch w steps
  (answers, (watch w.finish).1)

end

end PatternScan.Session
