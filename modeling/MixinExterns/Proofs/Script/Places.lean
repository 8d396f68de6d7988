import MixinExterns.Proofs.Script.Words
import MixinExterns.Script.Position

/-!
Places behind whole lines. The number of a line is one more than the number of line breaks above it,
and graphic characters of ASCII take one column each.
-/

namespace MixinExterns.Script

/-- The number of line breaks in a text. A carriage return and the line feed behind it are one. -/
def lineBreaks : List Char → Nat
  | [] => 0
  | '\r' :: '\n' :: rest => lineBreaks rest + 1
  | c :: rest => lineBreaks rest + if c = '\n' ∨ c = '\r' then 1 else 0

def isGraphic (c : Char) : Bool := 0x20 ≤ c.toNat && c.toNat < 0x7F

theorem isGraphic_of_namePart {c : Char} (h : isNamePart c = true) : isGraphic c = true :=
  of_ascii (P := fun c => isNamePart c = true → isGraphic c = true) (by decide) (namePart_lt h) h

theorem columns_of_graphic {c : Char} (h : isGraphic c = true) : columns c = 1 := by
  simp only [isGraphic, Bool.and_eq_true, decide_eq_true_eq] at h
  have hc : c ≠ '\n' := by
    rintro rfl
    exact absurd h.1 (by decide)
  have hunits : Text.codeUnits c = 1 := by
    rw [Text.codeUnits, if_pos (by omega)]
  rw [columns, if_neg hc, hunits, Text.width_of_graphic h.1 h.2]

theorem endsLine_of_graphic {c : Char} (h : isGraphic c = true) (rest : List Char) :
    endsLine c rest = false := by
  have hfeed : c ≠ '\n' := by
    rintro rfl
    exact absurd h (by decide)
  have hreturn : c ≠ '\r' := by
    rintro rfl
    exact absurd h (by decide)
  simp [endsLine, hfeed, hreturn]

/-- The place of a later character is found from that of an earlier one. -/
theorem placeFrom_append (p : Place) (above below : List Char) (n : Nat) :
    placeFrom p (above ++ below) (above.length + n) =
      placeFrom (placeFrom p (above ++ below) above.length) below n := by
  induction above generalizing p with
  | nil => simp [placeFrom]
  | cons c above ih =>
    rw [List.length_cons, Nat.add_right_comm, List.cons_append, placeFrom, placeFrom, ih]

/-- Behind lines that are complete stands the first column of the next line. -/
theorem placeFrom_lines {above : List Char} (habove : above.getLast? = some '\n')
    {below : List Char} (hbelow : below ≠ []) (p : Place) :
    placeFrom p (above ++ below) above.length = ⟨p.line + lineBreaks above, 0⟩ := by
  fun_induction lineBreaks above generalizing p with
  | case1 => simp at habove
  | case2 rest ih =>
    have hreturn : endsLine '\r' ('\n' :: (rest ++ below)) = false := by simp [endsLine]
    have hfeed : endsLine '\n' (rest ++ below) = true := by simp [endsLine, hbelow]
    simp only [List.cons_append, List.length_cons, placeFrom, hreturn, hfeed, if_true,
      Bool.false_eq_true, if_false]
    cases rest with
    | nil => simp [placeFrom, lineBreaks]
    | cons d rest =>
      rw [ih (by simpa using habove)]
      simp only [Place.mk.injEq, and_true]
      omega
  | case3 c rest hpair ih =>
    simp only [List.cons_append, List.length_cons, placeFrom]
    cases rest with
    | nil =>
      obtain rfl : c = '\n' := by simpa using habove
      simp [placeFrom, endsLine, hbelow, lineBreaks]
    | cons d rest =>
      have hends : endsLine c (d :: rest ++ below) = decide (c = '\n' ∨ c = '\r') := by
        have hd : c = '\r' → d ≠ '\n' := by
          rintro rfl rfl
          exact hpair _ rfl rfl
        by_cases hc : c = '\r' <;> simp_all [endsLine]
      rw [hends, ih (by simpa using habove)]
      by_cases hc : c = '\n' ∨ c = '\r'
      · simp only [hc, decide_true, if_true, Place.mk.injEq, and_true]
        omega
      · simp [hc]

theorem placeFrom_graphic {word : List Char} (hword : ∀ c ∈ word, isGraphic c = true)
    (below : List Char) (p : Place) :
    placeFrom p (word ++ below) word.length = ⟨p.line, p.column + word.length⟩ := by
  induction word generalizing p with
  | nil => simp [placeFrom]
  | cons c word ih =>
    have hc := hword c (.head _)
    rw [List.cons_append, List.length_cons, placeFrom, endsLine_of_graphic hc,
      columns_of_graphic hc, ih fun d hd => hword d (.tail _ hd)]
    simp only [Bool.false_eq_true, if_false, Place.mk.injEq, true_and]
    omega

/-- The place behind some graphic characters at the beginning of a line. -/
theorem place_in_line {above word : List Char} (habove : above.getLast? = some '\n')
    (hword : ∀ c ∈ word, isGraphic c = true) {below : List Char} (hbelow : below ≠ []) :
    place (above ++ (word ++ below)) (above.length + word.length) =
      ⟨1 + lineBreaks above, word.length⟩ := by
  rw [place, placeFrom_append, placeFrom_lines habove (by simp [hbelow]), placeFrom_graphic hword]
  simp

end MixinExterns.Script
