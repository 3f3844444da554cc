import Mathlib.Data.List.Forall2
import PatternScan.Proofs.Scanner.Start
import PatternScan.Proofs.Text.Slices

namespace PatternScan

open Text

/-- The text of a capture whose span does not end before it begins. It is read from the units
between the capture's bounds; if the span begins and ends between characters, the text has exactly
the bytes of the span; and a group that took no part has no text. -/
structure Shows (text : IndexedText) (span : Option Span) (c : CapturedText) : Prop where
  decoded : (∀ s ∈ span, s.start ≤ s.stop) → c.capture.start ≤ c.capture.stop ∧
    c.text = lossyString (text.units.extract c.capture.start c.capture.stop).toList
  bytes : ∀ s ∈ span, s.start ≤ s.stop → text.IsBoundary s.start → text.IsBoundary s.stop →
    c.text.toUTF8.data = text.content.extract s.start s.stop
  absent : span = none → c.text = ""

namespace Scanner

variable {text : IndexedText}

theorem forall₂_zipIdx {α : Type} {r : α → α × Nat → Prop} (h : ∀ a index, r a (a, index))
    (l : List α) (index : Nat) : List.Forall₂ r l (l.zipIdx index) := by
  induction l generalizing index with
  | nil => exact .nil
  | cons a rest ih => exact .cons (h a index) (ih (index + 1))

theorem captureOf_start_le (hsize : text.content.size < 2 ^ 32) (index : Nat) {s : Span}
    (hle : s.start ≤ s.stop) :
    (captureOf text index (some s)).start ≤ (captureOf text index (some s)).stop := by
  unfold captureOf
  split
  · exact IndexedText.toUnit_mono hsize (Int.ofNat_le.mpr hle)
  · exact hle

theorem captureOf_none (text : IndexedText) (index : Nat) :
    (captureOf text index none).start = (captureOf text index none).stop := by
  unfold captureOf
  split <;> rfl

theorem shows_captureOf (hsize : text.content.size < 2 ^ 32) (span : Option Span) (index : Nat) :
    Shows text span ⟨captureOf text index span,
      text.substring (captureOf text index span).start (captureOf text index span).stop⟩ where
  decoded hordered := by
    have hle : (captureOf text index span).start ≤ (captureOf text index span).stop := by
      cases span with
      | none => exact Nat.le_of_eq (captureOf_none text index)
      | some s => exact captureOf_start_le hsize index (hordered s rfl)
    exact ⟨hle, text.substring_of_le hle⟩
  bytes s hs hle hstart hstop := by
    obtain rfl := Option.mem_def.mp hs
    rw [captureOf_eq index hstart.le_size hstop.le_size]
    exact IndexedText.toUTF8_substring hsize hstart hstop hle
  absent hnone := by
    subst hnone
    rw [captureOf_none]
    exact text.substring_self _

theorem shows_captures (hsize : text.content.size < 2 ^ 32) (found : Captures) :
    List.Forall₂ (Shows text) found
      ((captures text found).map fun c => ⟨c, text.substring c.start c.stop⟩) := by
  rw [captures_eq, List.forall₂_map_right_iff, List.forall₂_map_right_iff]
  exact forall₂_zipIdx (fun span index => shows_captureOf hsize span index) found 0

end Scanner

theorem Cache.within_findBest {ρ : Type} [Regex ρ] (hi : Regex.InText ρ) {c : Cache (RegexArena ρ)}
    {owner : ScannerId} {patterns : List String} {text : IndexedText} {start : Nat} {found : Found}
    (h : (c.findBest owner patterns text.content start).1 = .ok (some found)) :
    Scanner.Within text found.captures := by
  rcases c.findBest_as_it_is owner patterns with herror | ⟨rs, hrs⟩
  · obtain ⟨failure, hf⟩ := herror text.content start
    rw [hf] at h
    cases h
  · rw [hrs] at h
    obtain ⟨hin, r, -, hr⟩ := exists_of_bestMatch (Except.ok.inj h)
    exact fun span hspan => hi.bounds r text.content start found.captures hin hr span hspan

/-- What the engine found, what a scanner makes of it, and what a finder does. With a match, the
finder has the captures of the scanner, and a text for each span. -/
inductive Decorates (text : IndexedText) : Except Failure (Option Found) →
    Except Failure (Option ScanMatch) → Except Failure (Option (List CapturedText)) → Prop where
  | failed (failure : Failure) : Decorates text (.error failure) (.error failure) (.error failure)
  | nothing : Decorates text (.ok none) (.ok none) (.ok none)
  | found {found : Found} {m : ScanMatch} {captured : List CapturedText}
    (hsame : captured.map CapturedText.capture = m.captures)
    (hshows : List.Forall₂ (Shows text) found.captures captured) :
    Decorates text (.ok (some found)) (.ok (some m)) (.ok (some captured))

namespace Finder

variable {σ : Type} [Engine σ]

/-- What the engine finds for the search of a finder, if the cache is free. -/
def raw (id : ScannerId) (source : String) (text : IndexedText) (start : Nat)
    (shared : SharedCache σ) : Except Failure (Option Found) :=
  (shared.change fun cache => cache.findBest id [source] text.content (text.toByte start)).1

theorem map_capture_withText (text : IndexedText) (m : ScanMatch) :
    (withText text m).map CapturedText.capture = m.captures := by
  rw [withText, List.map_map]
  exact List.map_id _

theorem decorates_search (id : ScannerId) (source : String) {text : IndexedText}
    (hsize : text.content.size < 2 ^ 32) (start : Nat) (shared : SharedCache σ) :
    Decorates text (raw id source text start shared)
      ((⟨id, [source]⟩ : Scanner).findNext text start shared).1
      ((Finder.pattern id source).search text start shared).1 := by
  unfold Finder.search Scanner.findNext raw
  simp only [Finder.scanner?, List.isEmpty_cons, Bool.false_eq_true, if_false]
  generalize shared.change _ = used
  obtain ⟨failure | _ | found, after⟩ := used
  · exact .failed failure
  · exact .nothing
  · exact .found (map_capture_withText text _) (Scanner.shows_captures hsize found.captures)

/-- Whatever the engine and the cache, a finder fails, finds nothing or finds captures just as the
scanner of its one pattern does, with the same bounds, and leaves the cache as the scanner does.
Each capture's text is read from the units between its bounds; if its span of bytes has boundaries
of characters for ends, the text has exactly the bytes of the span; and groups that took no part
have no text. A test tells whether a search from the beginning finds anything. If a library finds
spans in the text only, none of which ends before it begins, so does every search that an arena of
its expressions answers. -/
theorem search_shows_match (id : ScannerId) (source : String) (text : IndexedText)
    (hsize : text.content.size < 2 ^ 32) :
    (∀ {σ : Type} [Engine σ] (start : Nat) (shared : SharedCache σ),
      let f : Finder := .pattern id source
      let s : Scanner := ⟨id, [source]⟩
      Decorates text (raw id source text start shared) (s.findNext text start shared).1
        (f.search text start shared).1 ∧
      (f.search text start shared).2 = (s.findNext text start shared).2 ∧
      (∀ failure, (f.test (.text text) shared).1 = .error failure ↔
        (f.search text 0 shared).1 = .error failure) ∧
      ((f.test (.text text) shared).1 = .ok true ↔
        ∃ captured, (f.search text 0 shared).1 = .ok (some captured)) ∧
      ((f.test (.text text) shared).1 = .ok false ↔ (f.search text 0 shared).1 = .ok none) ∧
      (f.test (.text text) shared).2 = (f.search text 0 shared).2) ∧
    ∀ {ρ : Type} [Regex ρ], Regex.InText ρ →
      ∀ (start : Nat) (shared : SharedCache (RegexArena ρ)) (found : Found),
        raw id source text start shared = .ok (some found) →
          Scanner.Within text found.captures := by
  refine ⟨fun start shared => ?_, ?_⟩
  · intro f s
    have htest : f.test (.text text) shared =
        ((f.search text 0 shared).1.map Option.isSome, (f.search text 0 shared).2) := rfl
    refine ⟨decorates_search id source hsize start shared, rfl, ?_⟩
    rw [htest]
    generalize f.search text 0 shared = searched
    obtain ⟨failure | _ | captured, after⟩ := searched <;> simp [Except.map]
  · intro ρ _ hi start shared found h
    unfold raw at h
    rcases Decidable.em (shared.hold = .free) with hfree | hheld
    · rw [SharedCache.change_of_free hfree] at h
      exact Cache.within_findBest hi h
    · rw [SharedCache.change_of_held hheld] at h
      cases h

/-- A pair stands between a letter and half of another pair, and is found; a group is not. -/
theorem search_shows_match_of_pair :
    let text := IndexedText.ofUnits #[0x61, 0xD83D, 0xDE00, 0xDC00]
    let shared : SharedCache Arena := ⟨Cache.new .empty 1, .free⟩
    let f : Finder := .pattern ⟨1⟩ "(b)|😀"
    text.content.size < 2 ^ 32 ∧ ∃ whole group,
      (f.search text 0 shared).1 = .ok (some [whole, group]) ∧
      whole.text.toUTF8.data = #[0xF0, 0x9F, 0x98, 0x80] ∧ group.text = "" ∧
      Scanner.Within text [some ⟨1, 5⟩, none] := by
  intro text shared f
  have hsize : text.content.size < 2 ^ 32 := by decide
  have hraw : raw ⟨1⟩ "(b)|😀" text 0 shared = .ok (some ⟨0, [some ⟨1, 5⟩, none]⟩) := by
    decide +kernel
  have hstart : text.IsBoundary 1 := ⟨_, _, (List.take_append_drop 1 _).symm, by decide⟩
  have hstop : text.IsBoundary 5 := ⟨_, _, (List.take_append_drop 2 _).symm, by decide⟩
  obtain ⟨hany, hspans⟩ := search_shows_match ⟨1⟩ "(b)|😀" text hsize
  have hwithin := hspans Pattern.Program.inText 0 shared _ hraw
  have hfound := (hany 0 shared).1
  refine ⟨hsize, ?_⟩
  rw [hraw] at hfound
  change ∃ whole group, (Finder.search (.pattern ⟨1⟩ "(b)|😀") text 0 shared).1 = _ ∧ _
  generalize (Finder.search (.pattern ⟨1⟩ "(b)|😀") text 0 shared).1 = searched at hfound ⊢
  generalize (Scanner.findNext ⟨⟨1⟩, ["(b)|😀"]⟩ text 0 shared).1 = scanned at hfound
  cases hfound with
  | found hsame hshows =>
    cases hshows with
    | @cons _ whole _ _ hwhole hrest =>
      cases hrest with
      | @cons _ group _ _ hgroup hnil =>
        cases hnil
        exact ⟨whole, group, rfl, hwhole.bytes ⟨1, 5⟩ rfl (by decide) hstart hstop,
          hgroup.absent rfl, hwithin⟩

end Finder
end PatternScan
