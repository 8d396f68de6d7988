import MixinExterns.Log.Event

/-!
Which features are mixins to be emitted: those tagged as element mixins that are not declared in a
test directory. A path lies in a test directory if one of its segments, between solidi of either
direction, is `test` or `tests`.
-/

namespace MixinExterns

namespace TestPath

/-- Whether a character separates the segments of a path. -/
def isSeparator (c : Char) : Bool := c = '/' || c = '\\'

/-- The segments of a path: one more than it has separators. -/
def segments : List Char → List (List Char)
  | [] => [[]]
  | c :: rest =>
    if isSeparator c then [] :: segments rest
    else
      match segments rest with
      | [] => [[c]]
      | s :: ss => (c :: s) :: ss

def isTestSegment (s : List Char) : Bool :=
  s = ['t', 'e', 's', 't'] || s = ['t', 'e', 's', 't', 's']

end TestPath

/-- Whether a path has a segment that names a test directory. -/
def isTestPath (path : String) : Bool :=
  (TestPath.segments path.toList).any TestPath.isTestSegment

namespace Feature

def isTest (f : Feature) : Bool := f.sourceFile.any isTestPath

/-- Whether the feature is a mixin outside of test directories. -/
def isSelected (f : Feature) : Bool := f.isMixin && !f.isTest

/-- What is reported when the feature is passed over. -/
def selectionEvents (f : Feature) : List Event :=
  if f.isMixin && f.isTest then [.testMixin f.name] else []

end Feature

/-- The selected mixins, in order. -/
def selectMixins (features : List Feature) : Logged (List Feature) :=
  ⟨features.filter (·.isSelected), features.flatMap (·.selectionEvents)⟩

namespace TestPath

theorem segments_ne_nil (s : List Char) : segments s ≠ [] := by
  cases s with
  | nil => simp [segments]
  | cons c rest =>
    unfold segments
    split
    · simp
    · split <;> simp

/-- A separator splits a path into the segments before it and those after it. -/
theorem segments_append {a b : List Char} {c : Char} (h : isSeparator c = true) :
    segments (a ++ c :: b) = segments a ++ segments b := by
  induction a with
  | nil => simp [segments, h]
  | cons d rest ih =>
    simp only [List.cons_append, segments]
    split
    · simp [ih]
    · rw [ih]
      cases hs : segments rest with
      | nil => exact absurd hs (segments_ne_nil rest)
      | cons s ss => simp

end TestPath

end MixinExterns
