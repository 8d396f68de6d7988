import Mathlib.Data.List.Forall2
import MixinExterns.Externs.Selection

/-!
Which paths lie in a test directory. The segments of a path are its parts without separators that
begin and end at separators or at the ends of the path, so a test segment is one that stands whole
between them. Which of the separators are written makes no difference.
-/

namespace MixinExterns

namespace TestPath

variable {text s a b : List Char}

theorem segments_of_free (h : ∀ c ∈ s, isSeparator c = false) : segments s = [s] := by
  induction s with
  | nil => rfl
  | cons c s ih =>
    have hrest := ih fun d hd => h d (.tail _ hd)
    simp [segments, h c (.head _), hrest]

/-- A text has no separator, or there is a first one. -/
theorem free_or_first_separator (text : List Char) : (∀ c ∈ text, isSeparator c = false) ∨
    ∃ a c b, text = a ++ c :: b ∧ isSeparator c = true ∧ ∀ d ∈ a, isSeparator d = false := by
  induction text with
  | nil => exact .inl (by simp)
  | cons c rest ih =>
    cases hc : isSeparator c with
    | true => exact .inr ⟨[], c, rest, rfl, hc, by simp⟩
    | false =>
      rcases ih with hfree | ⟨a, d, b, rfl, hd, ha⟩
      · exact .inl (List.forall_mem_cons.mpr ⟨hc, hfree⟩)
      · exact .inr ⟨c :: a, d, b, rfl, hd, List.forall_mem_cons.mpr ⟨hc, ha⟩⟩

/-- Whether a text is empty or ends at a separator. -/
def EndsAtSeparator (a : List Char) : Prop :=
  a = [] ∨ ∃ front c, isSeparator c = true ∧ a = front ++ [c]

/-- Whether a text is empty or begins with a separator. -/
def BeginsWithSeparator (b : List Char) : Prop :=
  b = [] ∨ ∃ c back, isSeparator c = true ∧ b = c :: back

/-- What stands whole between separators, or the ends of a path, is one of its segments. -/
theorem mem_segments_of_whole (hs : ∀ c ∈ s, isSeparator c = false) (ha : EndsAtSeparator a)
    (hb : BeginsWithSeparator b) : s ∈ segments (a ++ s ++ b) := by
  have hbehind : s ∈ segments (s ++ b) := by
    rcases hb with rfl | ⟨c, back, hc, rfl⟩
    · simp [segments_of_free hs]
    · simp [segments_append hc, segments_of_free hs]
  rcases ha with rfl | ⟨front, c, hc, rfl⟩
  · exact hbehind
  · rw [List.append_assoc, List.append_assoc, List.singleton_append, segments_append hc]
    exact List.mem_append_right _ hbehind

/-- A segment holds no separator and stands whole between separators or the ends of the path. -/
theorem whole_of_mem_segments (h : s ∈ segments text) : (∀ c ∈ s, isSeparator c = false) ∧
    ∃ a b, text = a ++ s ++ b ∧ EndsAtSeparator a ∧ BeginsWithSeparator b := by
  induction hn : text.length using Nat.strongRecOn generalizing text with
  | _ n ih =>
    rcases free_or_first_separator text with hfree | ⟨front, c, back, rfl, hc, hfront⟩
    · obtain rfl : s = text := by simpa [segments_of_free hfree] using h
      exact ⟨hfree, [], [], by simp, .inl rfl, .inl rfl⟩
    · rw [segments_append hc, segments_of_free hfront, List.singleton_append, List.mem_cons] at h
      rcases h with rfl | h
      · exact ⟨hfront, [], c :: back, by simp, .inl rfl, .inr ⟨c, back, hc, rfl⟩⟩
      · have hshorter : back.length < n := by
          rw [← hn, List.length_append, List.length_cons]
          omega
        obtain ⟨hs, a, b, rfl, ha, hb⟩ := ih _ hshorter h rfl
        refine ⟨hs, front ++ c :: a, b, by simp, .inr ?_, hb⟩
        rcases ha with rfl | ⟨inner, d, hd, rfl⟩
        · exact ⟨front, c, hc, rfl⟩
        · exact ⟨front ++ c :: inner, d, hd, by simp⟩

/-- Two characters that are the same, or both separators. -/
def SameUpToSeparators (c d : Char) : Prop :=
  c = d ∨ isSeparator c = true ∧ isSeparator d = true

/-- The segments of a path do not depend on which separators stand between them. -/
theorem segments_congr {text' : List Char} (h : List.Forall₂ SameUpToSeparators text text') :
    segments text = segments text' := by
  induction h with
  | nil => rfl
  | cons hfirst _ ih =>
    rcases hfirst with rfl | ⟨hc, hd⟩
    · simp only [segments, ih]
    · simp only [segments, hc, hd, ih, if_true]

end TestPath

/-- Whether a path has `test` or `tests` as a whole segment. -/
def HasTestSegment (path : String) : Prop :=
  ∃ before segment after : String, path = before ++ segment ++ after ∧
    (segment = "test" ∨ segment = "tests") ∧
    (before = "" ∨ ∃ front, before = front ++ "/" ∨ before = front ++ "\\") ∧
    (after = "" ∨ ∃ back, after = "/" ++ back ∨ after = "\\" ++ back)

namespace TestPath

theorem isSeparator_iff {c : Char} : isSeparator c = true ↔ c = '/' ∨ c = '\\' := by
  simp [isSeparator]

theorem endsAtSeparator_iff (before : String) : EndsAtSeparator before.toList ↔
    before = "" ∨ ∃ front, before = front ++ "/" ∨ before = front ++ "\\" := by
  have hconcat (front : List Char) (c : Char) :
      before.toList = front ++ [c] ↔ before = String.ofList front ++ String.singleton c := by
    rw [← String.toList_inj]
    simp
  simp only [EndsAtSeparator, isSeparator_iff, hconcat, String.toList_eq_nil_iff]
  refine or_congr_right ⟨?_, ?_⟩
  · rintro ⟨front, c, rfl | rfl, h⟩
    · exact ⟨_, .inl h⟩
    · exact ⟨_, .inr h⟩
  · rintro ⟨front, h | h⟩
    · exact ⟨front.toList, '/', .inl rfl, by simpa using h⟩
    · exact ⟨front.toList, '\\', .inr rfl, by simpa using h⟩

theorem beginsWithSeparator_iff (after : String) : BeginsWithSeparator after.toList ↔
    after = "" ∨ ∃ back, after = "/" ++ back ∨ after = "\\" ++ back := by
  have hcons (c : Char) (back : List Char) :
      after.toList = c :: back ↔ after = String.singleton c ++ String.ofList back := by
    rw [← String.toList_inj]
    simp
  simp only [BeginsWithSeparator, isSeparator_iff, hcons, String.toList_eq_nil_iff]
  refine or_congr_right ⟨?_, ?_⟩
  · rintro ⟨c, back, rfl | rfl, h⟩
    · exact ⟨_, .inl h⟩
    · exact ⟨_, .inr h⟩
  · rintro ⟨back, h | h⟩
    · exact ⟨'/', back.toList, .inl rfl, by simpa using h⟩
    · exact ⟨'\\', back.toList, .inr rfl, by simpa using h⟩

theorem isTestSegment_iff (segment : String) : isTestSegment segment.toList = true ↔
    segment = "test" ∨ segment = "tests" := by
  simp [isTestSegment, ← String.toList_inj]

theorem isSeparator_of_isTestSegment (h : isTestSegment s = true) :
    ∀ c ∈ s, isSeparator c = false := by
  have hs : s = ['t', 'e', 's', 't'] ∨ s = ['t', 'e', 's', 't', 's'] := by
    simpa [isTestSegment] using h
  rcases hs with rfl | rfl <;> simp [isSeparator]

end TestPath

open TestPath in
theorem hasTestSegment_iff (path : String) : HasTestSegment path ↔ isTestPath path = true := by
  simp only [HasTestSegment, isTestPath, List.any_eq_true, ← endsAtSeparator_iff,
    ← beginsWithSeparator_iff, ← isTestSegment_iff]
  constructor
  · rintro ⟨before, segment, after, rfl, htest, hbefore, hafter⟩
    refine ⟨segment.toList, ?_, htest⟩
    rw [String.toList_append, String.toList_append]
    exact mem_segments_of_whole (isSeparator_of_isTestSegment htest) hbefore hafter
  · rintro ⟨s, hs, htest⟩
    obtain ⟨-, a, b, htext, ha, hb⟩ := whole_of_mem_segments hs
    refine ⟨String.ofList a, String.ofList s, String.ofList b, ?_, by simpa, by simpa, by simpa⟩
    exact String.toList_inj.mp (by simpa using htext)

instance (path : String) : Decidable (HasTestSegment path) :=
  decidable_of_iff _ (hasTestSegment_iff path).symm

/-- A path lies in a test directory if and only if one of its whole segments is `test` or `tests`.
So it does if a part of it before or behind a separator does, and which of the separators are
written makes no difference. The mixins that are selected are those whose file, if they have one,
has no such segment, in order and as often as they occur. -/
theorem isTestPath_whole_segments :
    (∀ path, isTestPath path = true ↔ HasTestSegment path) ∧
    (∀ p q : String, ∀ separator ∈ ["/", "\\"],
      isTestPath (p ++ separator ++ q) = (isTestPath p || isTestPath q)) ∧
    (∀ p p' : String, List.Forall₂ TestPath.SameUpToSeparators p.toList p'.toList →
      isTestPath p = isTestPath p') ∧
    ∀ fs : List Feature, (selectMixins fs).value =
      fs.filter fun f => "element-mixin" ∈ f.kinds ∧ ∀ file ∈ f.sourceFile, ¬ HasTestSegment file := by
  refine ⟨fun path => (hasTestSegment_iff path).symm, fun p q separator hseparator => ?_,
    fun p p' halike => ?_, fun fs => ?_⟩
  · have hsplit : ∀ c, TestPath.isSeparator c = true →
        isTestPath (p ++ String.singleton c ++ q) = (isTestPath p || isTestPath q) := by
      intro c hc
      simp [isTestPath, TestPath.segments_append hc]
    rcases List.mem_pair.mp hseparator with rfl | rfl
    · exact hsplit '/' rfl
    · exact hsplit '\\' rfl
  · unfold isTestPath
    rw [TestPath.segments_congr halike]
  · refine List.filter_congr fun f _ => ?_
    have htest : f.isTest = false ↔ ∀ file ∈ f.sourceFile, ¬ HasTestSegment file := by
      simp [Feature.isTest, Option.any_eq_false, hasTestSegment_iff]
    rw [Bool.eq_iff_iff]
    simp [Feature.isSelected, Feature.isMixin, htest]

theorem isTestPath_whole_segments_mixed :
    isTestPath "lib/tests\\a.js" = true ∧ isTestPath "lib\\tests/a.js" = true ∧
      isTestPath "lib\\contest/a.js" = false := by
  obtain ⟨hwhole, hjoined, halike, -⟩ := isTestPath_whole_segments
  have htests : isTestPath "lib/tests\\a.js" = true :=
    (hwhole _).mpr ⟨"lib/", "tests", "\\a.js", rfl, .inr rfl, .inr ⟨"lib", .inl rfl⟩,
      .inr ⟨"a.js", .inr rfl⟩⟩
  refine ⟨htests, ?_, ?_⟩
  · rw [← htests]
    refine (halike _ _ ?_).symm
    simp [TestPath.SameUpToSeparators, TestPath.isSeparator]
  · rw [show "lib\\contest/a.js" = "lib\\contest" ++ "/" ++ "a.js" from rfl,
      hjoined _ _ _ (.head _)]
    decide

end MixinExterns
