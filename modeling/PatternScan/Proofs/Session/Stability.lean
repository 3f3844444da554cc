import PatternScan.Proofs.Scanner.Start
import PatternScan.Proofs.Session.Transparency

namespace PatternScan

section

variable {ρ : Type} [Regex ρ] {matchAt? : ρ → Array UInt8 → Nat → Option Captures}
  (hl : Regex.Leftmost ρ matchAt?) {rs : List ρ} {text : Array UInt8} {start later : Nat}
  {found : Found}

include hl

theorem bestMatch_eq_none_of_le (hle : start ≤ later) (h : bestMatch rs text start = none) :
    bestMatch rs text later = none := by
  rcases Nat.lt_or_ge text.size later with hlt | hin
  · exact bestMatch_of_size_lt hlt
  · rw [bestMatch_eq_none_iff hl.neverBefore (Nat.le_trans hle hin)] at h
    rw [bestMatch_eq_none_iff hl.neverBefore hin]
    exact fun r hr => hl.eq_none_of_le hle hin (h r hr)

theorem start_le_size_of_bestMatch (h : bestMatch rs text start = some found) :
    ∃ s, found.captures.start? = some s ∧ s ≤ text.size := by
  obtain ⟨hin, r, -, hr⟩ := exists_of_bestMatch h
  obtain ⟨position, -, hend, hm, -⟩ :=
    (hl.found_iff r text start found.captures hin).mp hr
  exact ⟨position, hl.start_eq r text position found.captures hm, hend⟩

/-- The best match from a start is the best match from every later start up to it. -/
theorem bestMatch_of_le_start {s : Nat} (hle : start ≤ later) (hs : later ≤ s)
    (hstart : found.captures.start? = some s) (h : bestMatch rs text start = some found) :
    bestMatch rs text later = some found := by
  obtain ⟨t, ht, hend⟩ := start_le_size_of_bestMatch hl h
  obtain rfl : t = s := Option.some.inj (ht.symm.trans hstart)
  have hin : later ≤ text.size := Nat.le_trans hs hend
  have hn := hl.neverBefore
  obtain ⟨hm, hleast⟩ := (bestMatch_eq_some_iff hn (Nat.le_trans hle hin)).mp h
  obtain ⟨r, hr, hsearch⟩ := mem_matchesFrom_zero_iff.mp hm
  refine (bestMatch_eq_some_iff hn hin).mpr ⟨?_, ?_⟩
  · exact mem_matchesFrom_zero_iff.mpr ⟨r, hr, hl.found_of_le hle hin hs hstart hsearch⟩
  · intro other ho
    obtain ⟨q, hq, hother⟩ := mem_matchesFrom_zero_iff.mp ho
    rcases hl.found_of_later hle hin hother with hsame | ⟨first, u, hfirst, hu, hlt⟩
    · exact hleast other (mem_matchesFrom_zero_iff.mpr ⟨q, hq, hsame⟩)
    · -- the expression had a match in front of the later start, which would have been better
      have hbefore : found.rank ≤ Found.rank ⟨other.patternIndex, first⟩ :=
        hleast _ (mem_matchesFrom_zero_iff.mpr ⟨q, hq, hfirst⟩)
      rw [Found.rank_le_iff, found.place_eq hstart,
        Found.place_eq ⟨other.patternIndex, first⟩ hu] at hbefore
      rcases hbefore with hlt' | ⟨heq, -⟩
      · have := WithTop.coe_lt_coe.mp hlt'
        omega
      · have := WithTop.coe_eq_coe.mp heq
        omega

end

namespace Scanner

variable {text : IndexedText} {start later : Nat}

/-- What the outcomes of a search and of one from a later start have to do with each other: if the
first finds nothing, so does the second, and a match that the later start is not behind is found
again. -/
def Stable (later : Nat) (first second : Except Failure (Option ScanMatch)) : Prop :=
  (first = .ok none → second = .ok none) ∧
  ∀ found whole, first = .ok (some found) → found.captures[0]? = some whole →
    later ≤ whole.start → second = .ok (some found)

theorem stable_of_error (failure : Failure) (second : Except Failure (Option ScanMatch)) :
    Stable later (.error failure) second :=
  ⟨nofun, nofun⟩

/-- The whole match begins with the unit of the byte where it was found. -/
theorem start_of_captures {found : Captures} {whole : Capture} {position : Nat}
    (hposition : found.start? = some position) (hin : position ≤ text.content.size)
    (hwhole : (captures text found)[0]? = some whole) : whole.start = text.toUnit position := by
  obtain ⟨⟨_, stop⟩, hspan, rfl⟩ := Option.map_eq_some_iff.mp hposition
  obtain ⟨rest, rfl⟩ := List.head?_eq_some_iff.mp (Option.join_eq_some_iff.mp hspan)
  rw [captures_eq, List.zipIdx_cons, List.map_cons, List.getElem?_cons_zero] at hwhole
  obtain rfl := Option.some.inj hwhole
  change (captureOf text 0 (some ⟨_, stop⟩)).start = _
  unfold captureOf
  split
  · rfl
  · rename_i hascii
    have hascii : text.hasMultiByte = false := Bool.not_eq_true _ ▸ hascii
    exact (IndexedText.toUnit_of_not_hasMultiByte hascii hin).symm

section

variable {ρ : Type} [Regex ρ] {matchAt? : ρ → Array UInt8 → Nat → Option Captures}
  (hl : Regex.Leftmost ρ matchAt?) (hsize : text.content.size < 2 ^ 32) (hle : start ≤ later)

include hl hsize hle

/-- A later start that is not behind the first unit of a match is not behind the match in bytes,
also if it is the low half of a pair. -/
theorem stable_bestMatch (rs : List ρ) :
    let outcome (start : Nat) : Except Failure (Option ScanMatch) :=
      .ok ((bestMatch rs text.content (text.toByte start)).map fun f =>
        ⟨f.patternIndex, captures text f.captures⟩)
    Stable later (outcome start) (outcome later) := by
  intro outcome
  have hbyte : text.toByte start ≤ text.toByte later :=
    IndexedText.toByte_mono hsize (Int.ofNat_le.mpr hle)
  constructor
  · intro h
    have hnone := Option.map_eq_none_iff.mp (Except.ok.inj h)
    simp only [outcome, bestMatch_eq_none_of_le hl hbyte hnone, Option.map_none]
  · intro found whole h hwhole hlater
    obtain ⟨f, hbest, rfl⟩ := Option.map_eq_some_iff.mp (Except.ok.inj h)
    obtain ⟨position, hstart, hin⟩ := start_le_size_of_bestMatch hl hbest
    have hposition : text.toByte later ≤ position :=
      calc text.toByte later ≤ text.toByte (text.toUnit position) := by
            rw [start_of_captures hstart hin hwhole] at hlater
            exact IndexedText.toByte_mono hsize (Int.ofNat_le.mpr hlater)
        _ ≤ position := IndexedText.toByte_toUnit_le hsize hin
    simp only [outcome, bestMatch_of_le_start hl hbyte hposition hstart hbest, Option.map_some]

theorem stable_findNext (s : Scanner) (shared : SharedCache (RegexArena ρ)) :
    Stable later (s.findNext text start shared).1 (s.findNext text later shared).1 := by
  rcases s.findNext_as_it_is shared with herror | ⟨rs, hrs⟩
  · obtain ⟨failure, hf⟩ := herror text start
    rw [hf]
    exact stable_of_error failure _
  · rw [hrs, hrs]
    exact stable_bestMatch hl hsize hle rs

theorem stable_answer (s : Scanner) :
    Stable later (s.answer ρ text start) (s.answer ρ text later) := by
  cases hall : compileAll (ρ := ρ) 0 s.sources with
  | error failure =>
    obtain ⟨before, source, rest, words, hs, -⟩ := compileAll_eq_error_iff.mp hall
    have hne : s.sources.isEmpty = false := by simp [hs]
    simp only [answer, hne, hall]
    exact stable_of_error failure _
  | ok rs =>
    have hcompiles := compileAll_eq_ok_iff.mp hall
    rw [answer_of_compiles hcompiles, answer_of_compiles hcompiles]
    exact stable_bestMatch hl hsize hle rs

end

end Scanner

namespace Session.World

/-- Two searches of one scanner in one text are stable, with any cache as it is, and whatever a
program did before either of them, with which caches, and in which order they come. -/
theorem find_stable {ρ : Type} [Regex ρ] {matchAt? : ρ → Array UInt8 → Nat → Option Captures}
    (hl : Regex.Leftmost ρ matchAt?) {text : IndexedText} (hsize : text.content.size < 2 ^ 32)
    {start later : Nat} (hle : start ≤ later) (scanner : Scanner) :
    (∀ shared : SharedCache (RegexArena ρ), Scanner.Stable later
      (scanner.findNext text start shared).1 (scanner.findNext text later shared).1) ∧
    ∀ (w v : World (RegexArena ρ)) (number other cell otherCell : Nat) (ref otherRef : TextRef),
      w.Reached → v.Reached → w.living? number = some (.scanner scanner cell) →
      v.living? other = some (.scanner scanner otherCell) →
      w.text? ref = some text → v.text? otherRef = some text →
      (w.ask (.find number ref start)).2.Roomy → (v.ask (.find other otherRef later)).2.Roomy →
      ∃ first second, (w.ask (.find number ref start)).1 = first.map .found ∧
        (v.ask (.find other otherRef later)).1 = second.map .found ∧
        Scanner.Stable later first second := by
  refine ⟨Scanner.stable_findNext hl hsize hle scanner, ?_⟩
  intro w v number other cell otherCell ref otherRef hw hv ho ho' ht ht' hroom hroom'
  exact ⟨scanner.answer ρ text start, scanner.answer ρ text later,
    ask_find_eq_answer hw ho ht start hroom, ask_find_eq_answer hv ho' ht' later hroom',
    Scanner.stable_answer hl hsize hle scanner⟩

/-- Two scanners on a cache with room for one of them. -/
def lookingAhead : List (Action Arena) :=
  [.newCache .empty 1, .newScanner ["$"] (some 0), .newScanner [""] (some 0)]

/-- The end of a text is found from its beginning and, with the other scanner's patterns in the
cache by then, from the second letter. -/
theorem find_stable_looking_ahead :
    let text := IndexedText.ofString "aa"
    let w := (fresh (.empty : Arena)).acts lookingAhead
    let v := w.acts [.ask (.find 0 (.given text) 0), .ask (.find 1 (.given text) 0)]
    Regex.Leftmost Pattern.Program Pattern.Program.matchAt? ∧
    text.content.size < 2 ^ 32 ∧ w.Reached ∧ v.Reached ∧
    w.living? 0 = some (.scanner ⟨⟨1⟩, ["$"]⟩ 1) ∧ v.living? 0 = some (.scanner ⟨⟨1⟩, ["$"]⟩ 1) ∧
    (w.ask (.find 0 (.given text) 0)).2.Roomy ∧ (v.ask (.find 0 (.given text) 1)).2.Roomy ∧
    (w.ask (.find 0 (.given text) 0)).1 = .ok (.found (some ⟨0, [⟨0, 2, 2, 0⟩]⟩)) ∧
    (v.ask (.find 0 (.given text) 1)).1 = .ok (.found (some ⟨0, [⟨0, 2, 2, 0⟩]⟩)) := by
  have hw : ((fresh (.empty : Arena)).acts lookingAhead).Reached := by
    apply Reached.fresh.acts
    intro action hm u
    simp only [lookingAhead, List.mem_cons, List.not_mem_nil, or_false] at hm
    rcases hm with rfl | rfl | rfl
    · exact RegexArena.Reachable.empty
    all_goals trivial
  have ho : ((fresh (.empty : Arena)).acts lookingAhead).living? 0 =
      some (.scanner ⟨⟨1⟩, ["$"]⟩ 1) := rfl
  have ho' : (((fresh (.empty : Arena)).acts lookingAhead).acts
      [.ask (.find 0 (.given (.ofString "aa")) 0),
        .ask (.find 1 (.given (.ofString "aa")) 0)]).living? 0 =
      some (.scanner ⟨⟨1⟩, ["$"]⟩ 1) := rfl
  have hroom : (((fresh (.empty : Arena)).acts lookingAhead).ask
      (.find 0 (.given (.ofString "aa")) 0)).2.Roomy := by decide +kernel
  have hroom' : ((((fresh (.empty : Arena)).acts lookingAhead).acts
      [.ask (.find 0 (.given (.ofString "aa")) 0),
        .ask (.find 1 (.given (.ofString "aa")) 0)]).ask
          (.find 0 (.given (.ofString "aa")) 1)).2.Roomy := by decide +kernel
  have hanswer : (⟨⟨1⟩, ["$"]⟩ : Scanner).answer Pattern.Program (.ofString "aa") 0 =
      .ok (some ⟨0, [⟨0, 2, 2, 0⟩]⟩) := by decide +kernel
  intro text w v
  have hv : v.Reached := by
    apply hw.acts
    intro action hm u
    simp only [List.mem_cons, List.not_mem_nil, or_false] at hm
    rcases hm with rfl | rfl <;> trivial
  have hsize : text.content.size < 2 ^ 32 := by decide
  have hl := Pattern.Program.leftmost
  have hfirst : (w.ask (.find 0 (.given text) 0)).1 =
      .ok (.found (some ⟨0, [⟨0, 2, 2, 0⟩]⟩)) := by
    rw [ask_find_eq_answer hw ho rfl 0 hroom, hanswer]
    rfl
  refine ⟨hl, hsize, hw, hv, ho, ho', hroom, hroom', hfirst, ?_⟩
  obtain ⟨-, hworlds⟩ := find_stable hl hsize (Nat.zero_le 1) ⟨⟨1⟩, ["$"]⟩
  obtain ⟨first, second, hf, hs, -, hagain⟩ := hworlds w v 0 0 1 1 (.given text) (.given text)
    hw hv ho ho' rfl rfl hroom hroom'
  have hfound : first = .ok (some ⟨0, [⟨0, 2, 2, 0⟩]⟩) := by
    rw [hfirst] at hf
    cases first with
    | error failure => cases hf
    | ok result =>
      cases hf
      rfl
  rw [hs, hagain _ ⟨0, 2, 2, 0⟩ hfound rfl (by decide)]
  rfl

end Session.World
end PatternScan
