import Mathlib.Data.List.Infix
import Mathlib.Tactic.FinCases
import MixinExterns.Script.Lexer

/-!
Text that a script does not see: blanks and closed comments. A reader of gaps goes through such a
text and stops at the first character of a token. What is written between the two marks of a
comment does not matter as long as it does not close the comment itself.
-/

namespace MixinExterns.Script

/-- A text that can stand inside of a comment: nothing in it closes the comment. -/
def NoClose (text : List Char) : Prop := ¬ ['*', '/'] <:+: text

def asciiBlanks : List Char := [' ', '\t', '\n', '\r', '\x0b', '\x0c']

/-- A text made of blanks and closed comments. -/
inductive Inert : List Char → Prop where
  | nil : Inert []
  | blank {c : Char} {rest : List Char} (hc : c ∈ asciiBlanks) (h : Inert rest) :
      Inert (c :: rest)
  | comment {body rest : List Char} (hbody : NoClose body) (h : Inert rest) :
      Inert ('/' :: '*' :: (body ++ '*' :: '/' :: rest))

theorem noClose_nil : NoClose [] := by
  simp [NoClose]

theorem noClose_cons {c : Char} {text : List Char} :
    NoClose (c :: text) ↔ ¬ (c = '*' ∧ text.head? = some '/') ∧ NoClose text := by
  unfold NoClose
  rw [List.infix_cons_iff, not_or]
  apply and_congr_left'
  cases text with
  | nil => simp [List.prefix_iff_eq_take]
  | cons d rest => simp [eq_comm]

/-- A text closes no comment if neither of its two parts does and the seam does not either. -/
theorem noClose_append {a b : List Char} (ha : NoClose a) (hb : NoClose b)
    (hseam : a.getLast? ≠ some '*' ∨ b.head? ≠ some '/') : NoClose (a ++ b) := by
  induction a with
  | nil => exact hb
  | cons c rest ih =>
    obtain ⟨hc, hrest⟩ := noClose_cons.mp ha
    rw [List.cons_append, noClose_cons]
    cases rest with
    | nil =>
      refine ⟨?_, hb⟩
      rintro ⟨rfl, hhead⟩
      simp [List.nil_append] at hhead
      simp [hhead] at hseam
    | cons d rest =>
      refine ⟨?_, ih hrest ?_⟩
      · simpa using hc
      · simpa [List.getLast?_cons_cons] using hseam

theorem noClose_of_not_mem {text : List Char} (h : '*' ∉ text) : NoClose text := by
  intro hclose
  exact h (hclose.subset (by simp))

/-- A reader inside of a comment goes to the end of the comment and no further. -/
theorem skipGap_comment {body : List Char} (hbody : NoClose body) (rest : List Char) (n : Nat)
    (b : Bool) :
    skipGap .blockComment (body ++ '*' :: '/' :: rest) n b =
      skipGap .blanks rest (n + body.length + 2) (b || body.any isLineEnd) := by
  induction body generalizing n b with
  | nil => simp [skipGap]
  | cons c body ih =>
    obtain ⟨hc, hrest⟩ := noClose_cons.mp hbody
    have hopen : ∀ tail, c = '*' → body ++ '*' :: '/' :: rest = '/' :: tail → False := by
      intro tail hstar htail
      cases body with
      | nil => simp at htail
      | cons d body => exact hc ⟨hstar, by simp_all⟩
    rw [List.cons_append, skipGap.eq_8 _ _ _ _ hopen, ih hrest]
    simp [Bool.or_assoc, Nat.add_comm, Nat.add_left_comm]

theorem Inert.append {a b : List Char} (ha : Inert a) (hb : Inert b) : Inert (a ++ b) := by
  induction ha with
  | nil => exact hb
  | blank hc _ ih => exact .blank hc ih
  | comment hbody _ ih => simpa using Inert.comment hbody ih

theorem inert_blank {c : Char} (hc : c ∈ asciiBlanks) : Inert [c] := .blank hc .nil

theorem Inert.of_comment {body : List Char} (hbody : NoClose body) :
    Inert ('/' :: '*' :: (body ++ ['*', '/'])) :=
  .comment hbody .nil

private theorem skipGap_blank {c : Char} (hc : c ∈ asciiBlanks) (rest : List Char) (n : Nat)
    (b : Bool) :
    skipGap .blanks (c :: rest) n b = skipGap .blanks rest (n + 1) (b || isLineEnd c) := by
  have hgap : isGap c = true := by
    fin_cases hc <;> decide
  fin_cases hc <;> simp_all [skipGap]

/-- A reader of gaps goes through a text of blanks and comments, whatever follows it. -/
theorem skipGap_inert {gap : List Char} (hgap : Inert gap) (rest : List Char) (n : Nat)
    (b : Bool) :
    skipGap .blanks (gap ++ rest) n b =
      skipGap .blanks rest (n + gap.length) (b || gap.any isLineEnd) := by
  induction hgap generalizing n b with
  | nil => simp
  | @blank c text hc _ ih =>
    rw [List.cons_append, skipGap_blank hc, ih]
    simp [Bool.or_assoc, Nat.add_comm, Nat.add_left_comm]
  | @comment body text hbody _ ih =>
    have hmarks : isLineEnd '/' = false ∧ isLineEnd '*' = false := by decide
    simp only [List.cons_append, List.append_assoc, skipGap]
    rw [skipGap_comment hbody, ih]
    simp [hmarks, Bool.or_assoc, Nat.add_comm, Nat.add_left_comm]

def stopsGap (c : Char) : Bool := !isGap c && c ≠ '/' && c ≠ '<' && c ≠ '-'

theorem skipGap_stops {c : Char} (hc : stopsGap c = true) (rest : List Char) (n : Nat)
    (b : Bool) : skipGap .blanks (c :: rest) n b = ⟨n, b, false, c :: rest⟩ := by
  simp only [stopsGap, Bool.and_eq_true, Bool.not_eq_true', decide_eq_true_eq] at hc
  obtain ⟨⟨⟨hgap, hslash⟩, hless⟩, hminus⟩ := hc
  rw [skipGap.eq_5]
  · simp [hgap]
  all_goals
    intros
    simp_all

private theorem dropWhileEnd_append {p : Char → Bool} {a b : List Char} :
    ((a ++ b).reverse.dropWhile p).reverse =
      if (b.reverse.dropWhile p).reverse = [] then (a.reverse.dropWhile p).reverse
      else a ++ (b.reverse.dropWhile p).reverse := by
  rw [List.reverse_append, List.dropWhile_append]
  cases hb : b.reverse.dropWhile p with
  | nil => simp
  | cons c rest => simp

/-- Trimming the end of blanks and closed comments leaves blanks and closed comments. -/
theorem Inert.trimEnd {text : List Char} (h : Inert text) :
    Inert (text.reverse.dropWhile Text.isBlank).reverse := by
  induction h with
  | nil => exact .nil
  | @blank c rest hc _ ih =>
    rw [← List.singleton_append, dropWhileEnd_append]
    split
    · have hblank : Text.isBlank c = true := by
        fin_cases hc <;> decide
      simpa [hblank] using Inert.nil
    · exact .blank hc ih
  | @comment body rest hbody _ ih =>
    have hslash : Text.isBlank '/' = false := by decide
    have hsplit : '/' :: '*' :: (body ++ '*' :: '/' :: rest) =
        ('/' :: '*' :: (body ++ ['*', '/'])) ++ rest := by simp
    rw [hsplit, dropWhileEnd_append]
    split
    · simpa [hslash] using Inert.of_comment hbody
    · simpa using Inert.comment hbody ih

end MixinExterns.Script
