import PatternScan.Proofs.Engine.Precedence
import PatternScan.Proofs.Pattern.Groups
import PatternScan.Proofs.Scanner.Captures
import PatternScan.Proofs.Text.Wraparound

namespace PatternScan

open Text

section

variable {ρ : Type} [Regex ρ]

/-- A cache as it is, whatever it holds, fails in every search for a scanner, or it answers every
search with the best match of the same expressions. -/
theorem Cache.findBest_as_it_is (c : Cache (RegexArena ρ)) (id : ScannerId)
    (patterns : List String) :
    (∀ text start, ∃ failure, (c.findBest id patterns text start).1 = .error failure) ∨
    ∃ rs : List ρ, ∀ text start,
      (c.findBest id patterns text start).1 = .ok (bestMatch rs text start) := by
  simp only [Cache.findBest_eq]
  rcases c.ensureCompiled id patterns with ⟨failure | handles, d⟩
  · exact Or.inl fun text start => ⟨failure, rfl⟩
  · by_cases hl : ∀ h ∈ handles, d.engine.isLive h = true
    · obtain ⟨rs, hrs⟩ := RegexArena.exists_regexes hl
      refine Or.inr ⟨rs, fun text start => ?_⟩
      have hb : Engine.findBest d.engine handles text start = _ :=
        RegexArena.findBest_live hrs text start
      exact congrArg answered hb
    · have hdead : ∃ h ∈ handles, d.engine.isLive h = false := by simpa using hl
      refine Or.inl fun text start => ?_
      obtain ⟨engine, hb⟩ : ∃ engine, Engine.findBest d.engine handles text start =
          (.error .invalidHandle, engine) :=
        ⟨_, Prod.ext (RegexArena.findBest_eq_invalidHandle_iff.mpr hdead) rfl⟩
      exact ⟨.searching (account engine), congrArg answered hb⟩

end

namespace Scanner

section

variable {ρ : Type} [Regex ρ]

theorem findNext_as_it_is (s : Scanner) (shared : SharedCache (RegexArena ρ)) :
    (∀ text start, ∃ failure, (s.findNext text start shared).1 = .error failure) ∨
    ∃ rs : List ρ, ∀ text start, (s.findNext text start shared).1 =
      .ok ((bestMatch rs text.content (text.toByte start)).map fun f =>
        ⟨f.patternIndex, captures text f.captures⟩) := by
  unfold findNext
  split
  · exact Or.inr ⟨[], fun text start => by rw [bestMatch_nil]; rfl⟩
  · rcases Decidable.em (shared.hold = .free) with hfree | hheld
    · simp only [SharedCache.change_of_free hfree]
      rcases shared.cache.findBest_as_it_is s.id s.sources with herror | ⟨rs, hbest⟩
      · refine Or.inl fun text start => ?_
        obtain ⟨failure, hf⟩ := herror text.content (text.toByte start)
        exact ⟨failure, by rw [hf]; rfl⟩
      · refine Or.inr ⟨rs, fun text start => ?_⟩
        rw [hbest]
        rfl
    · refine Or.inl fun text start => ⟨.cacheBusy, ?_⟩
      rw [SharedCache.change_of_held hheld]
      rfl

end

theorem captures_whole {text : IndexedText} {found : Captures} {position stop : Nat}
    (hhead : found.head? = some (some ⟨position, stop⟩)) (hle : position ≤ stop)
    (hstop : stop ≤ text.content.size) :
    (captures text found)[0]? =
      some (Capture.between 0 (text.toUnit position) (text.toUnit stop)) := by
  obtain ⟨rest, rfl⟩ := List.head?_eq_some_iff.mp hhead
  rw [captures_eq, List.zipIdx_cons, List.map_cons, List.getElem?_cons_zero]
  exact congrArg some (captureOf_eq 0 (Nat.le_trans hle hstop) hstop)

section

variable {ρ : Type} [Regex ρ] (hn : Regex.NeverBefore ρ) (hi : Regex.InText ρ) {s : Scanner}
  {text : IndexedText} {start : Nat} {shared : SharedCache (RegexArena ρ)} {found : ScanMatch}

include hn hi

/-- The whole match of a scanner is the translation of a span that begins at or after the byte of
the start. -/
theorem exists_whole (h : (s.findNext text start shared).1 = .ok (some found)) :
    ∃ position stop, text.toByte start ≤ position ∧ position ≤ stop ∧ stop ≤ text.content.size ∧
      found.captures[0]? =
        some (Capture.between 0 (text.toUnit position) (text.toUnit stop)) := by
  rcases s.findNext_as_it_is shared with herror | ⟨rs, hrs⟩
  · obtain ⟨failure, hf⟩ := herror text start
    rw [hf] at h
    cases h
  · rw [hrs] at h
    obtain ⟨f, hbest, rfl⟩ := Option.map_eq_some_iff.mp (Except.ok.inj h)
    obtain ⟨hin, r, -, hr⟩ := exists_of_bestMatch hbest
    obtain ⟨position, hstart, hle⟩ := hn.le_start r text.content _ f.captures hin hr
    obtain ⟨⟨_, stop⟩, hspan, rfl⟩ := Option.map_eq_some_iff.mp hstart
    have hhead := Option.join_eq_some_iff.mp hspan
    obtain ⟨horder, hstop⟩ :=
      hi.bounds r text.content _ f.captures hin hr _ (List.mem_of_mem_head? hhead)
    exact ⟨_, stop, hle, horder, hstop, captures_whole hhead horder hstop⟩

end

/-- The unit of a place at or after the byte of a start. -/
theorem start_le_toUnit {text : IndexedText} {start position : Nat}
    (hsize : text.hasMultiByte = true → text.content.size < 2 ^ 32) (hin : start ≤ text.size)
    (hstart : text.toByte start ≤ position) (hstop : position ≤ text.content.size) :
    (¬ text.IsLowHalf start → start ≤ text.toUnit position) ∧
      (text.IsLowHalf start → start - 1 ≤ text.toUnit position) := by
  cases hm : text.hasMultiByte with
  | false =>
    rw [IndexedText.toByte_of_not_hasMultiByte hm hin] at hstart
    rw [IndexedText.toUnit_of_not_hasMultiByte hm hstop]
    exact ⟨fun _ => hstart, fun _ => Nat.le_trans (Nat.sub_le _ _) hstart⟩
  | true =>
    have hmono : text.toUnit (text.toByte start) ≤ text.toUnit position :=
      IndexedText.toUnit_mono (hsize hm) (Int.ofNat_le.mpr hstart)
    obtain ⟨hfirst, hlow⟩ := IndexedText.toUnit_toByte (hsize hm) hin
    exact ⟨fun h => hfirst h ▸ hmono, fun h => hlow h ▸ hmono⟩

/-- Whatever a cache holds, every reported match has a capture of the whole match. It begins at or
after a start that is no low half of a pair, and at or after the pair's first unit if the start is
one. From beyond the text nothing is found but an empty match at its end. -/
theorem findNext_not_before {ρ : Type} [Regex ρ] (hn : Regex.NeverBefore ρ) (hi : Regex.InText ρ)
    {s : Scanner} {text : IndexedText} {start : Nat} {shared : SharedCache (RegexArena ρ)}
    {found : ScanMatch} (hsize : text.hasMultiByte = true → text.content.size < 2 ^ 32)
    (h : (s.findNext text start shared).1 = .ok (some found)) :
    ∃ whole, found.captures[0]? = some whole ∧
      (start ≤ text.size → ¬ text.IsLowHalf start → start ≤ whole.start) ∧
      (text.IsLowHalf start → start - 1 ≤ whole.start) ∧
      (text.size < start → whole.start = text.size ∧ whole.stop = text.size) := by
  obtain ⟨position, stop, hstart, horder, hstop, hwhole⟩ := exists_whole hn hi h
  have hposition : position ≤ text.content.size := Nat.le_trans horder hstop
  refine ⟨_, hwhole, ?_, ?_, ?_⟩
  · intro hin
    exact (start_le_toUnit hsize hin hstart hposition).1
  · intro hlow
    exact (start_le_toUnit hsize (Nat.le_of_lt hlow.lt_size) hstart hposition).2 hlow
  · intro hbeyond
    have hend : text.toByte start = text.content.size :=
      IndexedText.toByte_of_size_le (Int.ofNat_le.mpr (Nat.le_of_lt hbeyond))
    obtain rfl : stop = text.content.size := by omega
    obtain rfl : position = text.content.size := by omega
    have hlast : text.toUnit text.content.size = text.size :=
      IndexedText.toUnit_of_size_le (Int.le_refl _)
    exact ⟨hlast, hlast⟩

def emptyProgram : Pattern.Program := ⟨.empty, #[.accept], 0, 1, rfl, rfl⟩

theorem search?_emptyProgram (text : Array UInt8) {start : Nat} (h : start ≤ text.size) :
    emptyProgram.search? text start = some [some ⟨start, start⟩] := by
  have hcount : text.size + 1 - start = (text.size - start) + 1 := by omega
  have hmatch : emptyProgram.matchAt? text start = some [some ⟨start, start⟩] := by
    simp [emptyProgram, Pattern.Program.matchAt?, Pattern.Program.explore, Pattern.Program.effort,
      Pattern.Program.spans]
  rw [Pattern.Program.search?, hcount, Pattern.Program.searchFrom?, hmatch]

theorem findNext_emptyPattern (text : IndexedText) (start byte : Nat)
    (hbyte : text.toByte start = byte) (hle : byte ≤ text.content.size) :
    let shared : SharedCache Arena := ⟨Cache.new .empty 1, .free⟩
    let s : Scanner := ⟨⟨1⟩, [""]⟩
    (s.findNext text start shared).1 = .ok (some ⟨0, captures text [some ⟨byte, byte⟩]⟩) := by
  intro shared s
  have hcompiled : (shared.cache.ensureCompiled s.id s.sources).1 = .ok [⟨0⟩] := rfl
  have hlive : [⟨0⟩].map (shared.cache.ensureCompiled s.id s.sources).2.engine.regex? =
      [emptyProgram].map some := rfl
  have hmatch : Regex.capturesAt emptyProgram text.content byte = some [some ⟨byte, byte⟩] :=
    search?_emptyProgram text.content hle
  have hbest : (Engine.findBest (shared.cache.ensureCompiled s.id s.sources).2.engine [⟨0⟩]
      text.content (text.toByte start)).1 = .ok (some ⟨0, [some ⟨byte, byte⟩]⟩) := by
    apply (congrArg Prod.fst (RegexArena.findBest_live hlive text.content _)).trans
    rw [hbyte, bestMatch, if_neg (Nat.not_lt.mpr hle)]
    simp [bestFrom, hmatch, Captures.improve, Captures.start?]
  exact findNext_found (List.cons_ne_nil _ _) rfl hcompiled hbest

theorem captures_empty_at_start (text : IndexedText) :
    captures text [some ⟨0, 0⟩] = [⟨0, 0, 0, 0⟩] := by
  have hzero : text.toUnit ((0 : Nat) : Int) = 0 := text.toUnit_zero
  simp only [captures, List.zipIdx_cons, List.zipIdx_nil, List.map_cons, List.map_nil,
    Option.getD_some, hzero, ite_self]
  rfl

/-- A start may move back: from the low half of a pair to the high one, from beyond the text to its
end, and in a text of more than four gigabytes, whose table no longer fits its width, to any place.
There the empty pattern matches before the start that was asked for. -/
theorem findNext_before_start :
    let pair := IndexedText.ofUnits #[0xD83D, 0xDE00]
    let long := IndexedText.ofUnits (Array.replicate (2 ^ 31 + 1) 0xE9)
    let first : Capture := ⟨0, 0, 0, 0⟩
    let last : Capture := ⟨0, 2, 2, 0⟩
    let shared : SharedCache Arena := ⟨Cache.new .empty 1, .free⟩
    let s : Scanner := ⟨⟨1⟩, [""]⟩
    ((s.findNext pair 1 shared).1 = .ok (some ⟨0, [first]⟩) ∧ first.start < 1) ∧
    ((s.findNext pair 3 shared).1 = .ok (some ⟨0, [last]⟩) ∧ pair.size < 3 ∧ last.start < 3) ∧
    ((s.findNext long (2 ^ 31) shared).1 = .ok (some ⟨0, [first]⟩) ∧ first.start < 2 ^ 31) := by
  intro pair long first last shared s
  refine ⟨⟨?_, by decide⟩, ⟨?_, by decide, by decide⟩, ?_, by decide⟩
  · rw [findNext_emptyPattern pair 1 0 (by decide) (Nat.zero_le _), captures_empty_at_start]
  · rw [findNext_emptyPattern pair 3 4 (by decide) (by decide)]
    decide
  · have hbyte : long.toByte ((2 ^ 31 : Nat) : Int) = 0 :=
      (IndexedText.toByte_replicate (Nat.lt_succ_self _) (by decide)).trans (by decide)
    rw [findNext_emptyPattern long (2 ^ 31) 0 hbyte (Nat.zero_le _), captures_empty_at_start]

theorem findNext_not_before_end :
    let text := IndexedText.ofUnits #[0xD83D, 0xDE00, 0x61]
    let shared : SharedCache Arena := ⟨Cache.new .empty 1, .free⟩
    let s : Scanner := ⟨⟨1⟩, [""]⟩
    Regex.NeverBefore Pattern.Program ∧ Regex.InText Pattern.Program ∧
    (text.hasMultiByte = true → text.content.size < 2 ^ 32) ∧
      ∃ found, (s.findNext text 3 shared).1 = .ok (some found) ∧
        ∃ whole, found.captures[0]? = some whole ∧ 3 ≤ whole.start := by
  intro text shared s
  have hn : Regex.NeverBefore Pattern.Program := Pattern.Program.leftmost.neverBefore
  have hi : Regex.InText Pattern.Program := Pattern.Program.inText
  have hsize : text.hasMultiByte = true → text.content.size < 2 ^ 32 := fun _ => by decide
  have hfound := findNext_emptyPattern text 3 5 (by decide) (by decide)
  obtain ⟨whole, hwhole, hstart, -, -⟩ := findNext_not_before hn hi hsize hfound
  have hend : ¬ text.IsLowHalf 3 := fun hlow => absurd hlow.lt_size (by decide)
  exact ⟨hn, hi, hsize, _, hfound, whole, hwhole, hstart (by decide) hend⟩

end Scanner
end PatternScan
