import PatternScan.Engine.Arena
import PatternScan.Proofs.Cache.Entries
import PatternScan.Proofs.Scanner.Served
import PatternScan.Proofs.Text.Translation

namespace PatternScan

open Text

namespace IndexedText

variable {t : IndexedText}

theorem size_content_of_not_hasMultiByte (hm : t.hasMultiByte = false) :
    t.content.size = t.size := by
  obtain ⟨front, rest, hc, ha, hmap⟩ := t.exists_front
  have hnone : t.encoding.map? = none := Option.not_isSome_iff_eq_none.mp (Bool.eq_false_iff.mp hm)
  have hrest : rest = [] := by
    cases rest with
    | nil => rfl
    | cons u rest =>
      rw [hnone, if_neg (List.cons_ne_nil u rest)] at hmap
      cases hmap
  rw [size_eq, size_content, hc, hrest, pieces_nil, List.append_nil, unitCount_asciiPieces,
    byteCount_asciiPieces ha]

theorem toUnit_of_not_hasMultiByte (hm : t.hasMultiByte = false) {byte : Nat}
    (hb : byte ≤ t.content.size) : t.toUnit byte = byte := by
  have hsame := size_content_of_not_hasMultiByte hm
  have hnone : t.encoding.map? = none := Option.not_isSome_iff_eq_none.mp (Bool.eq_false_iff.mp hm)
  unfold toUnit
  rw [if_neg (by omega), Int.toNat_natCast, hnone]
  dsimp only
  split
  · rfl
  · omega

theorem toByte_of_not_hasMultiByte (hm : t.hasMultiByte = false) {unit : Nat}
    (hu : unit ≤ t.size) : t.toByte unit = unit := by
  have hsame := size_content_of_not_hasMultiByte hm
  have hnone : t.encoding.map? = none := Option.not_isSome_iff_eq_none.mp (Bool.eq_false_iff.mp hm)
  unfold toByte
  rw [if_neg (by omega), Int.toNat_natCast, hnone]
  dsimp only
  split
  · rfl
  · omega

end IndexedText

namespace Scanner

/-- Where a group stands that took no part. -/
def absent (text : IndexedText) : Span := ⟨text.content.size, text.content.size⟩

/-- The capture of a span, translated if the text has a table. -/
def captureOf (text : IndexedText) (index : Nat) (span : Option Span) : Capture :=
  let span := span.getD (absent text)
  if text.hasMultiByte then Capture.between index (text.toUnit span.start) (text.toUnit span.stop)
  else Capture.between index span.start span.stop

theorem captures_eq (text : IndexedText) (found : Captures) :
    captures text found = found.zipIdx.map fun (span, index) => captureOf text index span := rfl

theorem captureOf_eq {text : IndexedText} (index : Nat) {s : Span}
    (hstart : s.start ≤ text.content.size) (hstop : s.stop ≤ text.content.size) :
    captureOf text index (some s) =
      Capture.between index (text.toUnit s.start) (text.toUnit s.stop) := by
  unfold captureOf
  split
  · rfl
  · rename_i hascii
    have hascii : text.hasMultiByte = false := Bool.not_eq_true _ ▸ hascii
    rw [IndexedText.toUnit_of_not_hasMultiByte hascii hstart,
      IndexedText.toUnit_of_not_hasMultiByte hascii hstop]
    rfl

/-- The captures of a match, each translated whether or not that makes a difference. -/
def translated (text : IndexedText) (found : Captures) : List Capture :=
  found.zipIdx.map fun (span, index) =>
    Capture.between index (text.toUnit (span.getD (absent text)).start)
      (text.toUnit (span.getD (absent text)).stop)

/-- The spans of a match lie in the text and do not end before they begin. -/
def Within (text : IndexedText) (found : Captures) : Prop :=
  ∀ span, some span ∈ found → span.start ≤ span.stop ∧ span.stop ≤ text.content.size

theorem captures_eq_translated {text : IndexedText} {found : Captures} (hf : Within text found) :
    captures text found = translated text found := by
  rw [captures_eq, translated]
  apply List.map_congr_left
  rintro ⟨span, index⟩ hm
  have hin : span ∈ found := List.fst_mem_of_mem_zipIdx hm
  cases span with
  | none => exact captureOf_eq index (Nat.le_refl _) (Nat.le_refl _)
  | some s =>
    obtain ⟨hle, hstop⟩ := hf s hin
    exact captureOf_eq index (Nat.le_trans hle hstop) hstop

theorem getElem?_translated (text : IndexedText) (found : Captures) (k : Nat) :
    (translated text found)[k]? = found[k]?.map fun span =>
      Capture.between k (text.toUnit (span.getD (absent text)).start)
        (text.toUnit (span.getD (absent text)).stop) := by
  rw [translated, List.getElem?_map, List.getElem?_zipIdx, Option.map_map]
  simp [Function.comp_def]

section

variable {text : IndexedText} (hsize : text.content.size < 2 ^ 32)

include hsize

theorem translated_bounds {span : Span} (hle : span.start ≤ span.stop) :
    text.toUnit span.start ≤ text.toUnit span.stop ∧ text.toUnit span.stop ≤ text.size := by
  rw [IndexedText.toUnit_eq hsize, IndexedText.toUnit_eq hsize, IndexedText.size_eq]
  exact ⟨unitsBefore_mono _ hle, unitsBefore_le _ _⟩

theorem toUnit_size_content : text.toUnit text.content.size = text.size := by
  rw [IndexedText.toUnit_eq hsize, IndexedText.size_content, IndexedText.size_eq]
  exact unitsBefore_eq_unitCount (Nat.le_refl _)

end

variable {σ : Type} [Engine σ]

theorem findNext_found {s : Scanner} {text : IndexedText} {start : Nat} {shared : SharedCache σ}
    {handles : List Handle} {found : Found} (hs : s.sources ≠ []) (hfree : shared.hold = .free)
    (hcompiled : (shared.cache.ensureCompiled s.id s.sources).1 = .ok handles)
    (hfound : (Engine.findBest (shared.cache.ensureCompiled s.id s.sources).2.engine handles
      text.content (text.toByte start)).1 = .ok (some found)) :
    (s.findNext text start shared).1 =
      .ok (some ⟨found.patternIndex, captures text found.captures⟩) := by
  have hne : s.sources.isEmpty = false := List.isEmpty_eq_false_iff.mpr hs
  have hbest : (shared.cache.findBest s.id s.sources text.content (text.toByte start)).1 =
      .ok (some found) := by
    rw [Cache.findBest_eq]
    generalize shared.cache.ensureCompiled s.id s.sources = compiled at hcompiled hfound ⊢
    obtain ⟨result, c⟩ := compiled
    cases hcompiled
    dsimp only [Cache.searched] at hfound ⊢
    generalize Engine.findBest c.engine handles text.content (text.toByte start) = best at hfound ⊢
    obtain ⟨result, engine⟩ := best
    cases hfound
    rfl
  unfold findNext
  rw [hne, SharedCache.change_of_free hfree]
  dsimp only
  rw [hbest]
  rfl

/-- Whatever the engine: if it finds a match with spans in the text, the scanner reports the
pattern's number and one capture for each span, in order. A capture begins and ends with the units
of the characters before those that its span begins and ends in; on boundaries nothing is lost. A
group that took no part stands empty at the end. Translating ASCII text would change nothing. -/
theorem findNext_captures {s : Scanner} {text : IndexedText} {start : Nat} {shared : SharedCache σ}
    {handles : List Handle} {found : Found} (hs : s.sources ≠ []) (hfree : shared.hold = .free)
    (hsize : text.content.size < 2 ^ 32)
    (hcompiled : (shared.cache.ensureCompiled s.id s.sources).1 = .ok handles)
    (hfound : (Engine.findBest (shared.cache.ensureCompiled s.id s.sources).2.engine handles
      text.content (text.toByte start)).1 = .ok (some found))
    (hspans : Within text found.captures) :
    ∃ captures : List Capture,
      (s.findNext text start shared).1 = .ok (some ⟨found.patternIndex, captures⟩) ∧
      captures.length = found.captures.length ∧
      (∀ (k : Nat) (capture : Capture), captures[k]? = some capture → capture.index = k ∧
        capture.start ≤ capture.stop ∧ capture.stop ≤ text.size ∧
        capture.length = capture.stop - capture.start) ∧
      (∀ (k : Nat) (capture : Capture) (span : Span), captures[k]? = some capture →
        found.captures[k]? = some (some span) →
        capture.start = unitsBefore text.characters span.start ∧
        capture.stop = unitsBefore text.characters span.stop ∧
        (text.IsBoundary span.start → text.toByte capture.start = span.start) ∧
        (text.IsBoundary span.stop → text.toByte capture.stop = span.stop)) ∧
      (∀ (k : Nat) (capture : Capture), captures[k]? = some capture →
        found.captures[k]? = some none → capture.start = text.size ∧ capture.stop = text.size) ∧
      unitsBefore text.characters text.content.size = text.size ∧
      captures = translated text found.captures := by
  have hcaptures := captures_eq_translated hspans
  refine ⟨translated text found.captures, ?_, ?_, ?_, ?_, ?_, ?_, rfl⟩
  · rw [findNext_found hs hfree hcompiled hfound, hcaptures]
  · rw [translated, List.length_map, List.length_zipIdx]
  · intro k capture hk
    rw [getElem?_translated] at hk
    obtain ⟨span, hspan, rfl⟩ := Option.map_eq_some_iff.mp hk
    have hle : (span.getD (absent text)).start ≤ (span.getD (absent text)).stop := by
      cases span with
      | none => exact Nat.le_refl _
      | some span => exact (hspans span (List.mem_of_getElem? hspan)).1
    obtain ⟨horder, hend⟩ := translated_bounds hsize hle
    exact ⟨rfl, horder, hend, rfl⟩
  · intro k capture span hk hspan
    rw [getElem?_translated, hspan] at hk
    cases hk
    exact ⟨IndexedText.toUnit_eq hsize _, IndexedText.toUnit_eq hsize _,
      IndexedText.toByte_toUnit hsize, IndexedText.toByte_toUnit hsize⟩
  · intro k capture hk hspan
    rw [getElem?_translated, hspan] at hk
    cases hk
    exact ⟨toUnit_size_content hsize, toUnit_size_content hsize⟩
  · rw [← IndexedText.toUnit_eq hsize, toUnit_size_content hsize]

/-- An accent of two bytes, then a pair; the empty pattern matches between them. -/
theorem findNext_captures_between_accent_and_pair :
    let text := IndexedText.ofUnits #[0xE9, 0xD83D, 0xDE00]
    let shared : SharedCache Arena := ⟨Cache.new .empty 1, .free⟩
    let s : Scanner := ⟨⟨1⟩, [""]⟩
    Within text [some ⟨2, 2⟩] ∧ ∃ captures,
      (s.findNext text 1 shared).1 = .ok (some ⟨0, captures⟩) ∧
      captures = translated text [some ⟨2, 2⟩] := by
  intro text shared s
  have hspans : Within text [some ⟨2, 2⟩] := by
    intro span hm
    obtain rfl := Option.some.inj (List.mem_singleton.mp hm)
    decide
  have hcompiled : (shared.cache.ensureCompiled s.id s.sources).1 = .ok [⟨0⟩] := rfl
  have hfound : (Engine.findBest
      (Cache.ensureCompiled (Cache.new (.empty : Arena) 1) ⟨1⟩ [""]).2.engine
      [⟨0⟩] (IndexedText.ofUnits #[0xE9, 0xD83D, 0xDE00]).content
      ((IndexedText.ofUnits #[0xE9, 0xD83D, 0xDE00]).toByte (1 : Nat))).1 =
        .ok (some ⟨0, [some ⟨2, 2⟩]⟩) := by decide +kernel
  obtain ⟨captures, hr, -, -, -, -, -, ht⟩ :=
    findNext_captures (List.cons_ne_nil _ _) rfl (by decide) hcompiled hfound hspans
  exact ⟨hspans, captures, hr, ht⟩

end Scanner
end PatternScan
