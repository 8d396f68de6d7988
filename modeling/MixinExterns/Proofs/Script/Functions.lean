import MixinExterns.Proofs.Script.Productions

/-!
Functions with an empty body. Their parameters are names; the list of them may end in a comma, but
a comma without a name in front of it stops the parser.
-/

namespace MixinExterns.Script

open MixinExterns.Script.Parser

variable {c : Context} {ts rest : List Token} {t u : Token} {g : Grammar}

/-- The lexemes of one parameter: none if it has no name. -/
def paramLexeme (name : String) : List Lexeme := if name = "" then [] else [.word name]

def paramLexemes : List String → List Lexeme
  | [] => []
  | [name] => paramLexeme name
  | name :: next :: names => paramLexeme name ++ .mark .comma :: paramLexemes (next :: names)

/-- Whether a parameter is called by an identifier or by nothing at all. -/
def IsParamName (name : String) : Prop := name = "" ∨ isIdentifier name = true

instance (name : String) : Decidable (IsParamName name) :=
  inferInstanceAs (Decidable (name = "" ∨ isIdentifier name = true))

/-- Whether a parameter without a name has others behind it. -/
def LeavesGap (names : List String) : Prop := "" ∈ names.dropLast

instance (names : List String) : Decidable (LeavesGap names) :=
  inferInstanceAs (Decidable ("" ∈ names.dropLast))

/-- The parameters that a function with parameters of these names has. -/
def boundNames (names : List String) : List ParamName := (names.filter (· ≠ "")).map some

theorem takes_binding (hc : c.IsSloppy) {d : Nat} {w : String} (ht : t.lexeme = .word w)
    (hw : isIdentifier w = true) :
    Takes ((grammar (d + 1)).parse .binding) c (t :: ts) (some w) ts := by
  apply (takes_current (isValid_of_word ht)).bind
  simp only [ht]
  exact (takes_bindingName hc ht hw).bind takes_pure

theorem fails_binding {d : Nat} (ht : t.lexeme = .mark .comma) :
    Fails ((grammar (d + 1)).parse .binding) c (t :: ts) t.start (t :: ts) := by
  apply (takes_current (isValid_of_mark ht)).bind_fails
  simp only [ht]
  exact fails_here

theorem passes_parameter (ht : t.lexeme = .mark .rightParen) (names : List ParamName) :
    Takes (parameter g (names, none)) c (t :: ts) none (t :: ts) := by
  apply takes_peek.bind
  simp only [List.head?_cons, Option.map_some, ht]
  exact takes_pure

theorem takes_parameter {names : List ParamName} {w : String} (ht : t.lexeme = .word w)
    (hname : Takes (g.parse .binding) c (t :: u :: ts) (some w) (u :: ts))
    (hu : u.lexeme = .mark .rightParen ∧ rest = u :: ts ∨ u.lexeme = .mark .comma ∧ rest = ts) :
    Takes (parameter g (names, none)) c (t :: u :: ts) (some (some w :: names, none)) rest := by
  apply takes_peek.bind
  simp only [List.head?_cons, Option.map_some, ht]
  refine takes_here.bind ((passes_eatToken (by simp [ht])).bind (hname.bind ?_))
  have hplain : u.lexeme ≠ .assign "=" := by
    rcases hu with hu | hu <;> simp [hu.1]
  apply (passes_eatToken (by simpa using hplain)).bind
  simp only [Bool.false_eq_true, if_false, Bool.false_or, Bool.false_and]
  apply (takes_sees _).bind
  rcases hu with ⟨hu, rfl⟩ | ⟨hu, rfl⟩
  · simp only [List.head?_cons, Option.map_some, hu, decide_true, if_true]
    exact takes_pure
  · simp only [List.head?_cons, Option.map_some, hu, Option.some.injEq, Lexeme.mark.injEq,
      reduceCtorEq, decide_false, Bool.false_eq_true, if_false]
    exact (takes_expect hu).bind ((takes_sees _).bind takes_pure)

theorem fails_parameter {names : List ParamName} (ht : t.lexeme = .mark .comma)
    (hname : Fails (g.parse .binding) c (t :: ts) t.start (t :: ts)) :
    Fails (parameter g (names, none)) c (t :: ts) t.start (t :: ts) := by
  apply takes_peek.bind_fails
  simp only [List.head?_cons, Option.map_some, ht]
  refine takes_here.bind_fails ((passes_eatToken (by simp [ht])).bind_fails ?_)
  exact hname.bind

/-- The parameters of a function are taken up to the closing parenthesis, in reverse order. -/
theorem loops_parameter (hc : c.IsSloppy) {d : Nat} {names : List String} {params : List Token}
    (hlexemes : params.map (·.lexeme) = paramLexemes names)
    (hnames : ∀ name ∈ names, IsParamName name) (hgap : ¬ LeavesGap names)
    (hu : u.lexeme = .mark .rightParen) (rest : List Token) (taken : List ParamName) :
    Loops (parameter (grammar (d + 1))) c (params ++ u :: rest) (taken, none)
      ((boundNames names).reverse ++ taken, none) (u :: rest) := by
  induction names generalizing params taken with
  | nil =>
    obtain rfl : params = [] := by simpa [paramLexemes] using hlexemes
    exact loops_done (passes_parameter hu taken)
  | cons name names ih =>
    by_cases hempty : name = ""
    · -- A name can only be missing at the end of the list, where it leaves no lexeme.
      obtain rfl : names = [] := by
        cases names with
        | nil => rfl
        | cons next names => exact absurd (by simp [LeavesGap, hempty]) hgap
      subst hempty
      obtain rfl : params = [] := by simpa [paramLexemes, paramLexeme] using hlexemes
      exact loops_done (passes_parameter hu taken)
    · have hname : isIdentifier name = true := (hnames name (by simp)).resolve_left hempty
      have hbound : (boundNames (name :: names)).reverse ++ taken =
          (boundNames names).reverse ++ some name :: taken := by
        simp [boundNames, hempty]
      rw [hbound]
      cases names with
      | nil =>
        simp only [paramLexemes, paramLexeme, hempty, if_false] at hlexemes
        obtain ⟨t, params, rfl, ht, hlexemes⟩ := List.map_eq_cons_iff.mp hlexemes
        obtain rfl : params = [] := by simpa using hlexemes
        exact Loops.step
          (takes_parameter ht (takes_binding hc ht hname) (Or.inl ⟨hu, rfl⟩)) (by simp)
          (loops_done (passes_parameter hu _))
      | cons next names =>
        simp only [paramLexemes, paramLexeme, hempty, if_false, List.cons_append,
          List.nil_append] at hlexemes
        obtain ⟨t, params, rfl, ht, hlexemes⟩ := List.map_eq_cons_iff.mp hlexemes
        obtain ⟨v, params, rfl, hv, hlexemes⟩ := List.map_eq_cons_iff.mp hlexemes
        have hrest : ¬ LeavesGap (next :: names) := by
          intro h
          exact hgap (by simp only [LeavesGap, List.dropLast_cons_cons] at h ⊢; exact .tail _ h)
        have hshorter : (params ++ u :: rest).length < (t :: v :: params ++ u :: rest).length := by
          simp only [List.length_append, List.length_cons]
          omega
        have hlater := ih hlexemes (fun n hn => hnames n (.tail _ hn)) hrest (some name :: taken)
        exact Loops.step
          (takes_parameter ht (takes_binding hc ht hname) (Or.inr ⟨hv, rfl⟩)) hshorter hlater

/-- The first parameter without a name that others follow stops the parser at its comma. -/
theorem loopFails_parameter (hc : c.IsSloppy) {d : Nat} {names : List String}
    {params : List Token} (hlexemes : params.map (·.lexeme) = paramLexemes names)
    (hnames : ∀ name ∈ names, IsParamName name) (hgap : LeavesGap names)
    (rest : List Token) (taken : List ParamName) :
    ∃ v after, v.lexeme = .mark .comma ∧
      LoopFails (parameter (grammar (d + 1))) c (params ++ rest) (taken, none) v.start
        (v :: after) := by
  induction names generalizing params taken with
  | nil => exact absurd hgap (by simp [LeavesGap])
  | cons name names ih =>
    obtain ⟨next, names, rfl⟩ : ∃ next rest, names = next :: rest := by
      cases names with
      | nil => exact absurd hgap (by simp [LeavesGap])
      | cons next names => exact ⟨next, names, rfl⟩
    by_cases hempty : name = ""
    · subst hempty
      simp only [paramLexemes, paramLexeme, if_true, List.nil_append] at hlexemes
      obtain ⟨v, params, rfl, hv, -⟩ := List.map_eq_cons_iff.mp hlexemes
      exact ⟨v, params ++ rest, hv, loopFails_now (fails_parameter hv (fails_binding hv))⟩
    · have hname : isIdentifier name = true := (hnames name (by simp)).resolve_left hempty
      simp only [paramLexemes, paramLexeme, hempty, if_false, List.cons_append,
        List.nil_append] at hlexemes
      obtain ⟨t, params, rfl, ht, hlexemes⟩ := List.map_eq_cons_iff.mp hlexemes
      obtain ⟨v, params, rfl, hv, hlexemes⟩ := List.map_eq_cons_iff.mp hlexemes
      have hrest : LeavesGap (next :: names) := by
        simp only [LeavesGap, List.dropLast_cons_cons, List.mem_cons] at hgap ⊢
        exact hgap.resolve_left (Ne.symm hempty)
      obtain ⟨w, after, hw, hfails⟩ :=
        ih hlexemes (fun n hn => hnames n (.tail _ hn)) hrest (some name :: taken)
      have hshorter : (params ++ rest).length < (t :: v :: params ++ rest).length := by
        simp only [List.length_append, List.length_cons]
        omega
      refine ⟨w, after, hw, LoopFails.step ?_ hshorter hfails⟩
      exact takes_parameter ht (takes_binding hc ht hname) (Or.inr ⟨hv, rfl⟩)

theorem takes_parameters (hc : c.IsSloppy) {d : Nat} {names : List String} {params : List Token}
    (hlexemes : params.map (·.lexeme) = paramLexemes names)
    (hnames : ∀ name ∈ names, IsParamName name) (hgap : ¬ LeavesGap names)
    (hu : u.lexeme = .mark .rightParen) (rest : List Token) :
    Takes (parameters (grammar (d + 1))) c (params ++ u :: rest) (boundNames names)
      (u :: rest) := by
  have hloop := loops_parameter hc (d := d) hlexemes hnames hgap hu rest []
  have hreverse : ((boundNames names).reverse ++ []).reverse = boundNames names := by simp
  rw [← hreverse]
  exact (takes_repeated hloop).bind takes_pure

theorem fails_parameters (hc : c.IsSloppy) {d : Nat} {names : List String} {params : List Token}
    (hlexemes : params.map (·.lexeme) = paramLexemes names)
    (hnames : ∀ name ∈ names, IsParamName name) (hgap : LeavesGap names) (rest : List Token) :
    ∃ v after, v.lexeme = .mark .comma ∧
      Fails (parameters (grammar (d + 1))) c (params ++ rest) v.start (v :: after) := by
  obtain ⟨v, after, hv, hloop⟩ := loopFails_parameter hc (d := d) hlexemes hnames hgap rest []
  exact ⟨v, after, hv, (fails_repeated hloop).bind⟩

/-- The lexemes of a function behind its keyword and name: parameters and an empty body. -/
def stubLexemes (names : List String) : List Lexeme :=
  .mark .leftParen :: (paramLexemes names ++
    [.mark .rightParen, .mark .leftBrace, .mark .rightBrace])

theorem isSloppy_inFunction (hc : c.IsSloppy) : (inFunction false false c).IsSloppy :=
  ⟨hc.strict, rfl, rfl⟩

theorem takes_functionBody (ht : t.lexeme = .mark .leftBrace) (hu : u.lexeme = .mark .rightBrace) :
    Takes (functionBody g) c (t :: u :: rest) () rest := by
  have hend : Takes (nextStatement g false true ([], true, false)) c (u :: rest) none rest := by
    apply (takes_current? (isValid_of_mark hu)).bind
    simp only [hu, if_true]
    exact takes_advance.bind takes_pure
  have hstatements : Takes (statements g true false true) c (u :: rest) [] rest :=
    (takes_repeated (loops_done hend)).bind takes_pure
  exact (takes_expect ht).bind (hstatements.bind takes_pure)

theorem takes_functionRest (hc : c.IsSloppy) {d : Nat} {names : List String} {stub : List Token}
    (hlexemes : stub.map (·.lexeme) = stubLexemes names)
    (hnames : ∀ name ∈ names, IsParamName name) (hgap : ¬ LeavesGap names) (rest : List Token) :
    Takes (functionRest (grammar (d + 1)) false false) c (stub ++ rest) (boundNames names)
      rest := by
  obtain ⟨t, stub, rfl, ht, hlexemes⟩ := List.map_eq_cons_iff.mp hlexemes
  obtain ⟨params, stub, rfl, hparams, hlexemes⟩ := List.map_eq_append_iff.mp hlexemes
  obtain ⟨u, stub, rfl, hu, hlexemes⟩ := List.map_eq_cons_iff.mp hlexemes
  obtain ⟨v, stub, rfl, hv, hlexemes⟩ := List.map_eq_cons_iff.mp hlexemes
  obtain ⟨w, stub, rfl, hw, hlexemes⟩ := List.map_eq_cons_iff.mp hlexemes
  obtain rfl : stub = [] := by simpa using hlexemes
  have hparameters := takes_parameters (isSloppy_inFunction hc) (d := d) hparams hnames hgap hu
    (v :: w :: rest)
  apply takes_within
  simp only [List.cons_append, List.append_assoc, List.nil_append]
  refine (takes_expect ht).bind (hparameters.bind ?_)
  exact (takes_expect hu).bind ((takes_functionBody hv hw).bind takes_pure)

theorem fails_functionRest (hc : c.IsSloppy) {d : Nat} {names : List String} {stub : List Token}
    (hlexemes : stub.map (·.lexeme) = stubLexemes names)
    (hnames : ∀ name ∈ names, IsParamName name) (hgap : LeavesGap names) (rest : List Token) :
    ∃ v after, v.lexeme = .mark .comma ∧
      Fails (functionRest (grammar (d + 1)) false false) c (stub ++ rest) v.start (v :: after) := by
  obtain ⟨t, stub, rfl, ht, hlexemes⟩ := List.map_eq_cons_iff.mp hlexemes
  obtain ⟨params, stub, rfl, hparams, -⟩ := List.map_eq_append_iff.mp hlexemes
  obtain ⟨v, after, hv, hparameters⟩ :=
    fails_parameters (isSloppy_inFunction hc) (d := d) hparams hnames hgap (stub ++ rest)
  refine ⟨v, after, hv, fails_within ?_⟩
  simp only [List.cons_append, List.append_assoc]
  exact (takes_expect ht).bind_fails hparameters.bind

theorem takes_functionOperand (hc : c.IsSloppy) {d : Nat} {names : List String}
    {stub : List Token} (hlexemes : stub.map (·.lexeme) = stubLexemes names)
    (hnames : ∀ name ∈ names, IsParamName name) (hgap : ¬ LeavesGap names) (start : Nat)
    (rest : List Token) :
    Takes (functionOperand (grammar (d + 1)) start false) c (t :: (stub ++ rest))
      (.plain start (.function (boundNames names))) rest := by
  have hrest := takes_functionRest hc (d := d) hlexemes hnames hgap rest
  obtain ⟨u, stub, rfl, hu, -⟩ := List.map_eq_cons_iff.mp hlexemes
  refine takes_advance.bind ((passes_eatToken (by simp [hu])).bind ?_)
  apply (takes_within (takes_seesVariable_mark hu)).bind
  simp only [Bool.false_eq_true, if_false]
  exact hrest.bind takes_pure

theorem fails_functionOperand (hc : c.IsSloppy) {d : Nat} {names : List String}
    {stub : List Token} (hlexemes : stub.map (·.lexeme) = stubLexemes names)
    (hnames : ∀ name ∈ names, IsParamName name) (hgap : LeavesGap names) (rest : List Token)
    (start : Nat) :
    ∃ v after, v.lexeme = .mark .comma ∧
      Fails (functionOperand (grammar (d + 1)) start false) c (t :: (stub ++ rest)) v.start
        (v :: after) := by
  obtain ⟨v, after, hv, hrest⟩ :=
    fails_functionRest hc (d := d) hlexemes hnames hgap rest
  obtain ⟨u, stub, rfl, hu, -⟩ := List.map_eq_cons_iff.mp hlexemes
  refine ⟨v, after, hv, ?_⟩
  refine takes_advance.bind_fails ((passes_eatToken (by simp [hu])).bind_fails ?_)
  apply (takes_within (takes_seesVariable_mark hu)).bind_fails
  simp only [Bool.false_eq_true, if_false]
  exact hrest.bind

theorem takes_primary_function (ht : t.lexeme = .word "function") {e : Expression}
    (hoperand : Takes (functionOperand g t.start false) c (t :: ts) e rest) :
    Takes (primary g) c (t :: ts) e rest := by
  refine takes_here.bind (takes_state fun s _ _ => takes_peek.bind ?_)
  simp only [List.head?_cons, Option.map_some, ht]
  exact hoperand

theorem fails_primary_function (ht : t.lexeme = .word "function") {place : Nat}
    (hoperand : Fails (functionOperand g t.start false) c (t :: ts) place rest) :
    Fails (primary g) c (t :: ts) place rest := by
  refine takes_here.bind_fails (fails_state fun s _ _ => takes_peek.bind_fails ?_)
  simp only [List.head?_cons, Option.map_some, ht]
  exact hoperand

end MixinExterns.Script
