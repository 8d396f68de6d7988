import MixinExterns.Proofs.Script.Parsing
import MixinExterns.Proofs.Script.Words

/-!
The productions that the statements of externs go through: names, members of names, functions with
an empty body, and assignments of these.
-/

namespace MixinExterns.Script

open MixinExterns.Script.Parser

variable {c : Context} {ts rest : List Token} {t u : Token} {g : Grammar}

/-- The context of code that is neither strict nor inside of a special function. -/
structure Context.IsSloppy (c : Context) : Prop where
  strict : c.strict = false
  inAsync : c.inAsync = false
  inGenerator : c.inGenerator = false

/-- The grammar of scripts with a bound on how deep its productions call each other. -/
abbrev grammar (depth : Nat) : Grammar := Grammar.close productions depth

theorem isReservedIn_identifier (hc : c.IsSloppy) {w : String} (hw : isIdentifier w = true) :
    isReservedIn c w = false := by
  have henum : w ≠ "enum" := by
    rintro rfl
    exact not_reserved_of_identifier hw (by decide)
  simp [isReservedIn, isReserved_of_identifier hw, henum, hc.strict, hc.inAsync, hc.inGenerator]

theorem isValid_of_word {w : String} (ht : t.lexeme = .word w) : t.IsValid := by
  intro place
  simp [ht]

theorem isValid_of_mark {m : Mark} (ht : t.lexeme = .mark m) : t.IsValid := by
  intro place
  simp [ht]

theorem takes_seesVariable_mark {m : Mark} (ht : t.lexeme = .mark m) :
    Takes seesVariable c (t :: ts) false (t :: ts) := by
  apply takes_peek.bind
  simp only [List.head?_cons, Option.map_some, ht]
  exact takes_pure

theorem takes_seesVariable_word (hc : c.IsSloppy) {w : String} (ht : t.lexeme = .word w)
    (hw : isIdentifier w = true) : Takes seesVariable c (t :: ts) true (t :: ts) := by
  apply takes_peek.bind
  simp only [List.head?_cons, Option.map_some, ht]
  apply takes_context.bind
  rw [isReservedIn_identifier hc hw]
  exact takes_pure

theorem takes_variableName (hc : c.IsSloppy) {w : String} (ht : t.lexeme = .word w)
    (hw : isIdentifier w = true) : Takes variableName c (t :: ts) w ts := by
  apply (takes_current? (isValid_of_word ht)).bind
  simp only [ht]
  apply takes_advance.bind
  apply takes_lastStart
  intro place
  rw [isReserved_of_identifier hw]
  apply takes_context.bind
  rw [isReservedIn_identifier hc hw, hc.strict]
  exact takes_pure

theorem takes_bindingName (hc : c.IsSloppy) {w : String} (ht : t.lexeme = .word w)
    (hw : isIdentifier w = true) : Takes bindingName c (t :: ts) w ts := by
  apply (takes_variableName hc ht hw).bind
  apply takes_context.bind
  rw [hc.strict]
  exact takes_pure

theorem takes_anyMemberName {w : String} (ht : t.lexeme = .word w) :
    Takes anyMemberName c (t :: ts) () ts := by
  apply (passes_eatToken (by simp [ht])).bind
  apply (takes_current? (isValid_of_word ht)).bind
  simp only [ht]
  exact takes_advance

/-- A name that a dot follows, at the place where it begins. -/
def nameAt (start : Nat) (w : String) : Expression := ⟨start, .name w, [], [], []⟩

def memberAt (start : Nat) : Expression := ⟨start, .member, [], [start], []⟩

theorem takes_nameOperand (hc : c.IsSloppy) {w : String} (ht : t.lexeme = .word w)
    (hw : isIdentifier w = true) (hu : u.lexeme = .mark .dot) (start : Nat) (mayBeArrow : Bool) :
    Takes (nameOperand g start mayBeArrow) c (t :: u :: ts) (nameAt start w) (u :: ts) := by
  apply (takes_variableName hc ht hw).bind
  apply takes_lineBreak.bind
  have hplain : Takes (do
      let __do_lift ← context
      let faults := if (__do_lift.strict && unboundInStrict.contains w) = true then [start] else []
      pure (⟨start, .name w, faults, faults, []⟩ : Expression)) c (u :: ts) (nameAt start w)
      (u :: ts) := by
    apply takes_context.bind
    rw [hc.strict]
    exact takes_pure
  split
  · apply (takes_seesVariable_mark hu).bind
    simp only [Bool.and_false, Bool.false_eq_true, if_false]
    apply (takes_sees _).bind
    simp only [List.head?_cons, Option.map_some, hu]
    exact hplain
  · exact hplain

/-- An identifier begins none of the operands that begin with a keyword. -/
theorem takes_primary_name (hc : c.IsSloppy) {w : String} (ht : t.lexeme = .word w)
    (hw : isIdentifier w = true) (hu : u.lexeme = .mark .dot) :
    Takes (primary g) c (t :: u :: ts) (nameAt t.start w) (u :: ts) := by
  have hnot := not_reserved_of_identifier hw
  refine takes_here.bind (takes_state fun s _ _ => takes_peek.bind ?_)
  have hname (b : Bool) : Takes (nameOperand g t.start b) c (t :: u :: ts) (nameAt t.start w)
      (u :: ts) := takes_nameOperand hc ht hw hu t.start b
  simp only [List.head?_cons, Option.map_some, ht]
  split
  case h_5 =>
    apply takes_peekBehind.bind
    simp only [List.drop_one, List.tail_cons, List.head?_cons, Option.map_some, hu]
    exact hname _
  case h_16 =>
    apply (takes_seesVariable_word hc ht hw).bind
    exact hname _
  all_goals
    next heq =>
      simp only [Option.some.injEq, Lexeme.word.injEq, reduceCtorEq] at heq
      try
        subst heq
        exact absurd (by decide) hnot

/-- A token behind which neither a member nor an operator follows: the end of a statement or the
sign of an assignment. -/
def Token.EndsOperand (t : Token) : Prop := t.lexeme = .mark .semicolon ∨ t.lexeme = .assign "="

theorem Token.EndsOperand.isValid (ht : t.EndsOperand) : t.IsValid := by
  intro place
  rcases ht with ht | ht <;> simp [ht]

private theorem takes_optional (ht : t.lexeme ≠ .mark .question) :
    Takes (do
      if (← seesMark .question) && (← peekBehind) = some (.mark .dot) then
        advance
        advance
        return true
      else return false) c (t :: ts) false (t :: ts) := by
  refine (takes_sees _).bind (takes_peekBehind.bind ?_)
  simp only [List.head?_cons, Option.map_some, Option.some.injEq, ht, decide_false,
    Bool.false_and, Bool.false_eq_true, if_false]
  exact takes_pure

theorem takes_subscript (mayCall : Bool) {e : Expression} (he : e.asValue = []) {w : String}
    (ht : t.lexeme = .mark .dot) (hu : u.lexeme = .word w) :
    Takes (subscript g mayCall e) c (t :: u :: ts) (some (memberAt e.start)) ts := by
  apply (takes_optional (by simp [ht])).bind
  apply (takes_current? (isValid_of_mark ht)).bind
  simp only [ht, Bool.false_eq_true, if_false]
  refine (takes_use he).bind (takes_advance.bind ?_)
  exact (takes_anyMemberName hu).bind takes_pure

theorem passes_subscript (mayCall : Bool) {e : Expression} (ht : t.EndsOperand) :
    Takes (subscript g mayCall e) c (t :: ts) none (t :: ts) := by
  have hquestion : t.lexeme ≠ .mark .question := by
    rcases ht with ht | ht <;> simp [ht]
  refine (takes_optional hquestion).bind ((takes_current? ht.isValid).bind ?_)
  rcases ht with ht | ht <;>
    · simp only [ht, Bool.false_eq_true, if_false]
      exact takes_pure

def memberLexemes (names : List String) : List Lexeme :=
  names.flatMap fun w => [.mark .dot, .word w]

/-- The members behind an operand are taken up to the end of the operand. -/
theorem loops_subscript (mayCall : Bool) {names : List String} {members : List Token}
    (hmembers : members.map (·.lexeme) = memberLexemes names) (hu : u.EndsOperand)
    {e : Expression} (he : e.asValue = []) (rest : List Token) :
    Loops (subscript g mayCall) c (members ++ u :: rest) e
      (if names.isEmpty then e else memberAt e.start) (u :: rest) := by
  induction names generalizing members e with
  | nil =>
    obtain rfl : members = [] := by simpa [memberLexemes] using hmembers
    exact loops_done (passes_subscript mayCall hu)
  | cons w names ih =>
    simp only [memberLexemes, List.flatMap_cons, List.cons_append, List.nil_append] at hmembers
    obtain ⟨t, members, rfl, ht, hmembers⟩ := List.map_eq_cons_iff.mp hmembers
    obtain ⟨v, members, rfl, hv, hmembers⟩ := List.map_eq_cons_iff.mp hmembers
    have hloop := ih (e := memberAt e.start) hmembers rfl
    have hsame : (if names.isEmpty then memberAt e.start else memberAt (memberAt e.start).start) =
        memberAt e.start := by
      split <;> rfl
    rw [hsame] at hloop
    have hshorter : (members ++ u :: rest).length < (t :: v :: members ++ u :: rest).length := by
      simp only [List.length_append, List.length_cons]
      omega
    exact Loops.step (takes_subscript mayCall he ht hv) hshorter hloop

def prefixWords : List String := ["new", "super", "import", "await", "delete", "void", "typeof"]

section

variable {w : String} {e : Expression}

private theorem passes_eatWord (ht : t.lexeme = .word w) {v : String} (hw : w ≠ v) :
    Takes (eatWord v) c (t :: ts) false (t :: ts) :=
  passes_eatToken (by simp [ht, hw])

private theorem takes_seesWord (ht : t.lexeme = .word w) {v : String} (hw : w ≠ v) :
    Takes (seesWord v) c (t :: ts) false (t :: ts) := by
  have h : Takes (sees (.word v)) c (t :: ts) _ (t :: ts) := takes_sees (.word v)
  simp only [List.head?_cons, Option.map_some, ht, Option.some.injEq, Lexeme.word.injEq, hw,
    decide_false] at h
  exact h

theorem takes_memberOrNew {first : Expression} {mid : List Token} (ht : t.lexeme = .word w)
    (hw : w ∉ prefixWords) (hfirst : Takes (primary g) c (t :: ts) first mid)
    (harrow : first.isArrow = false) (hmembers : Loops (subscript g false) c mid first e rest) :
    Takes (memberOrNew g) c (t :: ts) e rest := by
  simp only [prefixWords, List.mem_cons, List.not_mem_nil, or_false, not_or] at hw
  refine takes_here.bind ((passes_eatWord ht hw.1).bind ?_)
  refine (takes_seesWord ht hw.2.1).bind ((takes_seesWord ht hw.2.2.1).bind ?_)
  simp only [Bool.false_eq_true, if_false]
  apply hfirst.bind
  rw [harrow]
  exact takes_repeated hmembers

theorem takes_leftHandSide (ht : t.lexeme = .word w) (hw : w ∉ prefixWords)
    (hoperand : Takes (memberOrNew g) c (t :: ts) e (u :: rest)) (harrow : e.isArrow = false)
    (hu : u.EndsOperand) : Takes (leftHandSide g) c (t :: ts) e (u :: rest) := by
  simp only [prefixWords, List.mem_cons, List.not_mem_nil, or_false, not_or] at hw
  apply (takes_seesWord ht hw.2.1).bind
  simp only [Bool.false_eq_true, if_false]
  apply hoperand.bind
  rw [harrow]
  apply takes_peek.bind
  rcases hu with hu | hu <;>
    · simp only [List.head?_cons, Option.map_some, hu]
      exact takes_pure

private theorem not_unaryWord (hdelete : w ≠ "delete") (hvoid : w ≠ "void")
    (htypeof : w ≠ "typeof") :
    (unaryWords.any fun v => some (Lexeme.word w) = some (.word v)) = false := by
  simp [unaryWords, hdelete, hvoid, htypeof]

theorem takes_unaryExpression (ht : t.lexeme = .word w) (hw : w ∉ prefixWords)
    (hoperand : Takes (leftHandSide g) c (t :: ts) e (u :: rest)) (hu : u.EndsOperand) :
    Takes (unaryExpression g) c (t :: ts) e (u :: rest) := by
  simp only [prefixWords, List.mem_cons, List.not_mem_nil, or_false, not_or] at hw
  refine takes_here.bind (takes_peek.bind ?_)
  simp only [List.head?_cons, Option.map_some, ht]
  rw [not_unaryWord hw.2.2.2.2.1 hw.2.2.2.2.2.1 hw.2.2.2.2.2.2]
  simp only [Bool.false_eq_true, if_false]
  apply takes_context.bind
  simp only [Option.some.injEq, Lexeme.word.injEq, hw.2.2.2.1, decide_false, Bool.false_and,
    Bool.false_eq_true, if_false]
  refine hoperand.bind (takes_lineBreak.bind ?_)
  split
  · exact takes_pure
  · apply takes_peek.bind
    rcases hu with hu | hu <;>
      · simp only [List.head?_cons, Option.map_some, hu]
        exact takes_pure

/-- An operand fails where its first part does. -/
theorem fails_unaryExpression {place : Nat} (ht : t.lexeme = .word w) (hw : w ∉ prefixWords)
    (hfirst : Fails (primary g) c (t :: ts) place rest) :
    Fails (unaryExpression g) c (t :: ts) place rest := by
  simp only [prefixWords, List.mem_cons, List.not_mem_nil, or_false, not_or] at hw
  have hmember : Fails (memberOrNew g) c (t :: ts) place rest := by
    refine takes_here.bind_fails ((passes_eatWord ht hw.1).bind_fails ?_)
    refine (takes_seesWord ht hw.2.1).bind_fails ((takes_seesWord ht hw.2.2.1).bind_fails ?_)
    simp only [Bool.false_eq_true, if_false]
    exact hfirst.bind
  have hleft : Fails (leftHandSide g) c (t :: ts) place rest := by
    apply (takes_seesWord ht hw.2.1).bind_fails
    simp only [Bool.false_eq_true, if_false]
    exact hmember.bind
  refine takes_here.bind_fails (takes_peek.bind_fails ?_)
  simp only [List.head?_cons, Option.map_some, ht]
  rw [not_unaryWord hw.2.2.2.2.1 hw.2.2.2.2.2.1 hw.2.2.2.2.2.2]
  simp only [Bool.false_eq_true, if_false]
  apply takes_context.bind_fails
  simp only [Option.some.injEq, Lexeme.word.injEq, hw.2.2.2.1, decide_false, Bool.false_and,
    Bool.false_eq_true, if_false]
  exact hleft.bind

theorem takes_operatorsBehind (hu : u.EndsOperand) :
    Takes (operatorsBehind g e) c (u :: rest) e (u :: rest) := by
  have hnone : Takes operator? c (u :: rest) none (u :: rest) := by
    apply (takes_current? hu.isValid).bind
    rcases hu with hu | hu <;>
      · simp only [hu]
        exact takes_pure
  refine (takes_repeated_none ?_).bind ?_
  · exact hnone.bind takes_pure
  · exact takes_pure

/-- An operand that ends with a statement or in front of an assignment is all of a conditional
expression. -/
theorem takes_conditionalExpression
    (hoperand : Takes (g.parse .unary) c (t :: ts) e (u :: rest)) (harrow : e.isArrow = false)
    (hu : u.EndsOperand) : Takes (conditionalExpression g) c (t :: ts) e (u :: rest) := by
  have hbinary : Takes (binaryExpression g) c (t :: ts) e (u :: rest) := by
    refine takes_begin.bind ((takes_orElse hoperand).bind ?_)
    rw [harrow]
    exact takes_operatorsBehind hu
  apply hbinary.bind
  rw [harrow]
  refine (passes_eatToken (l := .mark .question) ?_).bind takes_pure
  rcases hu with hu | hu <;> simp [hu]

/-- A comma is no operator, so an operand that fails at one is not recovered from. -/
theorem fails_conditionalExpression {place : Nat} {v : Token} {after : List Token}
    (hoperand : Fails (g.parse .unary) c (t :: ts) place (v :: after))
    (hv : v.lexeme = .mark .comma) :
    Fails (conditionalExpression g) c (t :: ts) place (v :: after) := by
  have hbinary : Fails (binaryExpression g) c (t :: ts) place (v :: after) := by
    refine takes_begin.bind_fails (fails_orElse hoperand ?_).bind
    apply (takes_current (isValid_of_mark hv)).bind_fails
    simp only [hv]
    exact fails_fail
  exact hbinary.bind

end

end MixinExterns.Script
