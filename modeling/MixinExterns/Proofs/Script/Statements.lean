import MixinExterns.Proofs.Script.Functions
import MixinExterns.Script.Check

/-!
Scripts made of the three kinds of statements that stand for declarations: functions without
parameters, members alone, and functions that are assigned to members. Such a script is parsed
unless a function in it has a parameter without a name in front of another one, or a dot in its
name.
-/

namespace MixinExterns.Script

open MixinExterns.Script.Parser

variable {c : Context} {ts rest : List Token} {t u : Token} {g : Grammar}

private theorem memberLexemes_head {path : List String} (hpath : path ≠ []) {members : List Token}
    (hmembers : members.map (·.lexeme) = memberLexemes path) :
    ∃ v tail, members = v :: tail ∧ v.lexeme = .mark .dot := by
  cases path with
  | nil => exact absurd rfl hpath
  | cons name path =>
    simp only [memberLexemes, List.flatMap_cons, List.cons_append] at hmembers
    obtain ⟨v, tail, rfl, hv, -⟩ := List.map_eq_cons_iff.mp hmembers
    exact ⟨v, tail, rfl, hv⟩

theorem takes_unary_members (hc : c.IsSloppy) {d : Nat} {w : String} (ht : t.lexeme = .word w)
    (hw : isIdentifier w = true) {path : List String} (hpath : path ≠ []) {members : List Token}
    (hmembers : members.map (·.lexeme) = memberLexemes path) (hu : u.EndsOperand)
    (rest : List Token) :
    Takes ((grammar (d + 1)).parse .unary) c (t :: (members ++ u :: rest)) (memberAt t.start)
      (u :: rest) := by
  have hplain : w ∉ prefixWords := by
    intro hmem
    have hreserved : ∀ v ∈ prefixWords, v ∈ reservedWords := by decide
    exact not_reserved_of_identifier hw (hreserved w hmem)
  have hloop := loops_subscript (g := grammar d) (c := c) false hmembers hu
    (e := nameAt t.start w) rfl rest
  have hnonempty : path.isEmpty = false := by simpa using hpath
  rw [hnonempty] at hloop
  obtain ⟨v, members, rfl, hv⟩ := memberLexemes_head hpath hmembers
  have hmember : Takes (memberOrNew (grammar d)) c (t :: (v :: members ++ u :: rest))
      (memberAt t.start) (u :: rest) :=
    takes_memberOrNew ht hplain (takes_primary_name hc ht hw hv) rfl hloop
  exact takes_unaryExpression ht hplain (takes_leftHandSide ht hplain hmember rfl hu) hu

theorem takes_unary_function (hc : c.IsSloppy) {d : Nat} (ht : t.lexeme = .word "function")
    {names : List String} {stub : List Token} (hlexemes : stub.map (·.lexeme) = stubLexemes names)
    (hnames : ∀ name ∈ names, IsParamName name) (hgap : ¬ LeavesGap names)
    (hu : u.EndsOperand) (rest : List Token) :
    Takes ((grammar (d + 2)).parse .unary) c (t :: (stub ++ u :: rest))
      (.plain t.start (.function (boundNames names))) (u :: rest) := by
  have hword : "function" ∉ prefixWords := by decide
  have hoperand := takes_functionOperand (t := t) hc (d := d) hlexemes hnames hgap t.start
    (u :: rest)
  have hmember : Takes (memberOrNew (grammar (d + 1))) c (t :: (stub ++ u :: rest))
      (.plain t.start (.function (boundNames names))) (u :: rest) :=
    takes_memberOrNew ht hword (takes_primary_function ht hoperand) rfl
      (loops_done (passes_subscript false hu))
  exact takes_unaryExpression ht hword (takes_leftHandSide ht hword hmember rfl hu) hu

theorem fails_unary_function (hc : c.IsSloppy) {d : Nat} (ht : t.lexeme = .word "function")
    {names : List String} {stub : List Token} (hlexemes : stub.map (·.lexeme) = stubLexemes names)
    (hnames : ∀ name ∈ names, IsParamName name) (hgap : LeavesGap names) (rest : List Token) :
    ∃ v after, v.lexeme = .mark .comma ∧
      Fails ((grammar (d + 2)).parse .unary) c (t :: (stub ++ rest)) v.start (v :: after) := by
  obtain ⟨v, after, hv, hoperand⟩ :=
    fails_functionOperand (t := t) hc (d := d) hlexemes hnames hgap rest t.start
  exact ⟨v, after, hv,
    fails_unaryExpression ht (by decide) (fails_primary_function ht hoperand)⟩

theorem takes_arrowPlace {w : String} (ht : t.lexeme = .word w) :
    Takes arrowPlace c (t :: ts) (if isReserved w then none else some t.start) (t :: ts) := by
  apply (takes_current (isValid_of_word ht)).bind
  simp only [ht]
  exact takes_here.bind takes_pure

theorem takes_assignmentExpression (hc : c.IsSloppy) {w : String} (ht : t.lexeme = .word w)
    {e a : Expression} {mid : List Token}
    (hoperand : Takes (conditionalExpression g) c (t :: ts) e mid)
    (hbehind : Takes (assignmentBehind g e) c mid a rest) :
    Takes (assignmentExpression g) c (t :: ts) a rest := by
  apply takes_context.bind
  rw [hc.inGenerator]
  apply (takes_sees _).bind
  simp only [Bool.false_and, Bool.false_eq_true, if_false]
  refine (takes_arrowPlace ht).bind ((takes_setArrowStart _).bind ?_)
  exact hoperand.bind hbehind

theorem fails_assignmentExpression (hc : c.IsSloppy) {w : String} (ht : t.lexeme = .word w)
    {place : Nat}
    (hrest : Fails (conditionalExpression g >>= assignmentBehind g) c (t :: ts) place rest) :
    Fails (assignmentExpression g) c (t :: ts) place rest := by
  apply takes_context.bind_fails
  rw [hc.inGenerator]
  apply (takes_sees _).bind_fails
  simp only [Bool.false_and, Bool.false_eq_true, if_false]
  exact (takes_arrowPlace ht).bind_fails ((takes_setArrowStart _).bind_fails hrest)

theorem passes_assignmentBehind (hu : u.lexeme = .mark .semicolon) (e : Expression) :
    Takes (assignmentBehind g e) c (u :: rest) e (u :: rest) := by
  unfold assignmentBehind
  split
  case h_6 =>
    apply (takes_current? (isValid_of_mark hu)).bind
    simp only [hu]
    exact takes_pure
  all_goals exact takes_pure

/-- The assignment of a function to something that begins at a place. -/
def functionAssignedAt (start : Nat) (params : List ParamName) : Expression :=
  ⟨start, .assignment true (some params), [], [], []⟩

theorem takes_assignmentBehind (hu : u.lexeme = .assign "=") {start place : Nat}
    {params : List ParamName}
    (hright : Takes (g.parse .assignment) c ts (.plain place (.function params)) rest) :
    Takes (assignmentBehind g (memberAt start)) c (u :: ts) (functionAssignedAt start params)
      rest := by
  apply (takes_current? (Token.EndsOperand.isValid (.inr hu))).bind
  simp only [hu, if_true]
  refine takes_reportAll_nil.bind (takes_advance.bind (hright.bind ?_))
  exact (takes_use rfl).bind takes_pure

theorem fails_assignmentBehind (hu : u.lexeme = .assign "=") {start place : Nat}
    (hright : Fails (g.parse .assignment) c ts place rest) :
    Fails (assignmentBehind g (memberAt start)) c (u :: ts) place rest := by
  apply (takes_current? (Token.EndsOperand.isValid (.inr hu))).bind_fails
  simp only [hu, if_true]
  exact takes_reportAll_nil.bind_fails (takes_advance.bind_fails hright.bind)

/-- An expression in front of a semicolon is a statement, unless it may be a label. -/
theorem takes_expressionStatement {e : Expression}
    (hexpression : Takes (g.parse .assignment) { c with allowsIn := true } (t :: ts) e (u :: rest))
    (hu : u.lexeme = .mark .semicolon) (hvalue : e.asValue = [])
    (hform : ∀ text, e.form ≠ .name text ∧ e.form ≠ .string text) :
    Takes (expressionStatement g) c (t :: ts) ⟨e.statement, false⟩ rest := by
  have hnested : Takes (nestedExpression g) c (t :: ts) e (u :: rest) := by
    refine takes_within (hexpression.bind ((takes_sees _).bind ?_))
    simp only [List.head?_cons, Option.map_some, hu, Option.some.injEq, Lexeme.mark.injEq,
      reduceCtorEq, decide_false, Bool.false_eq_true, if_false]
    exact takes_pure
  have hstrict : asksStrict e = false := by
    unfold asksStrict
    split
    · next text heq => exact absurd heq (hform text).2
    · rfl
  have hend : Takes (endExpression g e) c (u :: rest) ⟨e.statement, false⟩ rest := by
    rw [← hstrict]
    have hsemicolon : Takes eatSemicolon c (u :: rest) true rest :=
      (takes_eatToken hu).bind takes_pure
    exact (takes_use hvalue).bind (hsemicolon.bind takes_pure)
  apply hnested.bind
  split
  · next text heq => exact absurd heq (hform text).1
  · exact hend

theorem fails_expressionStatement {place : Nat}
    (hexpression : Fails (g.parse .assignment) { c with allowsIn := true } ts place rest) :
    Fails (expressionStatement g) c ts place rest :=
  (fails_within hexpression.bind).bind

/-- A statement that begins with an identifier and a dot is an expression. -/
theorem statementAt_name {w : String} (ht : t.lexeme = .word w) (hw : isIdentifier w = true)
    (hu : u.lexeme = .mark .dot) (declarations top : Bool) :
    ActsAs (statementAt g declarations top) (expressionStatement g) c (t :: u :: ts) := by
  have hnot := not_reserved_of_identifier hw
  refine ActsAs.look (a := .word w) (fun s hs => ?_) ?_
  · simp [current, current?, peek, hs, ht, bind, pure]
  split
  case h_23 =>
    refine ActsAs.look (a := some (.mark .dot)) (fun s hs => by simp [peekBehind, hs, hu]) ?_
    refine ActsAs.look (a := u.afterLineBreak)
      (fun s hs => by simp [lineBreakBehind, hs]) ?_
    exact ActsAs.refl _
  case h_24 => exact ActsAs.refl _
  all_goals
    next heq =>
      simp only [Lexeme.word.injEq, reduceCtorEq] at heq
      try
        subst heq
        exact absurd (by decide) hnot

/-- The code of a declaration. -/
inductive Stub where
  | function (name : String)
  /-- Members of members of `owner`. -/
  | member (owner : String) (path : List String)
  /-- A function that is assigned to such a member. -/
  | assigned (owner : String) (path params : List String)

namespace Stub

def lexemes : Stub → List Lexeme
  | function name => .word "function" :: .word name :: stubLexemes []
  | member owner path => .word owner :: (memberLexemes path ++ [.mark .semicolon])
  | assigned owner path params =>
    .word owner :: (memberLexemes path ++
      .assign "=" :: .word "function" :: (stubLexemes params ++ [.mark .semicolon]))

def statement : Stub → Statement
  | function name => .function name
  | member _ _ => .member
  | assigned _ _ params => .assignedFunction (boundNames params)

/-- Whether what the code names is called by identifiers; a parameter may have no name. -/
def IsNamed : Stub → Prop
  | function name => isIdentifier name = true
  | member owner path => isIdentifier owner = true ∧ path ≠ []
  | assigned owner path params =>
    isIdentifier owner = true ∧ path ≠ [] ∧ ∀ name ∈ params, IsParamName name

def HasGap : Stub → Prop
  | assigned _ _ params => LeavesGap params
  | _ => False

end Stub

theorem isSloppy_allowsIn (hc : c.IsSloppy) (b : Bool) :
    ({ c with allowsIn := b } : Context).IsSloppy :=
  ⟨hc.strict, hc.inAsync, hc.inGenerator⟩

theorem takes_function (hc : c.IsSloppy) {d : Nat} {name : String}
    (hname : isIdentifier name = true) {code : List Token}
    (hcode : code.map (·.lexeme) = (Stub.function name).lexemes) (top : Bool) :
    Takes ((grammar (d + 2)).parse (.statement true top)) c (code ++ rest)
      ⟨.function name, false⟩ rest := by
  obtain ⟨t, code, rfl, ht, hcode⟩ := List.map_eq_cons_iff.mp hcode
  obtain ⟨u, stub, rfl, hu, hstub⟩ := List.map_eq_cons_iff.mp hcode
  have hrest := takes_functionRest hc (d := d) hstub (by simp) (by simp [LeavesGap]) rest
  apply (takes_current (isValid_of_word ht)).bind
  simp only [ht, if_true]
  refine takes_advance.bind ((passes_eatToken (by simp [hu])).bind ?_)
  exact (takes_bindingName hc hu hname).bind (hrest.bind takes_pure)

/-- A function whose name goes on behind a dot fails at the dot, where its parameters should be. -/
theorem fails_function (hc : c.IsSloppy) {d : Nat} {name : String}
    (ht : t.lexeme = .word "function") (hu : u.lexeme = .word name)
    (hname : isIdentifier name = true) {dot : Token} (hdot : dot.lexeme = .mark .dot) (top : Bool) :
    Fails ((grammar (d + 1)).parse (.statement true top)) c (t :: u :: dot :: rest) dot.start
      (dot :: rest) := by
  have hrest : Fails (functionRest (grammar d) false false) c (dot :: rest) dot.start
      (dot :: rest) := fails_within (fails_expect (by simp [hdot])).bind
  apply (takes_current (isValid_of_word ht)).bind_fails
  simp only [ht, if_true]
  refine takes_advance.bind_fails ((passes_eatToken (by simp [hu])).bind_fails ?_)
  exact (takes_bindingName hc hu hname).bind_fails hrest.bind

theorem takes_member (hc : c.IsSloppy) {d : Nat} {owner : String} {path : List String}
    (howner : isIdentifier owner = true) (hpath : path ≠ []) {code : List Token}
    (hcode : code.map (·.lexeme) = (Stub.member owner path).lexemes) (top : Bool) :
    Takes ((grammar (d + 3)).parse (.statement true top)) c (code ++ rest) ⟨.member, false⟩
      rest := by
  obtain ⟨t, code, rfl, ht, hcode⟩ := List.map_eq_cons_iff.mp hcode
  obtain ⟨members, code, rfl, hmembers, hcode⟩ := List.map_eq_append_iff.mp hcode
  obtain ⟨u, code, rfl, hu, hcode⟩ := List.map_eq_cons_iff.mp hcode
  obtain rfl : code = [] := by simpa using hcode
  have hc' := isSloppy_allowsIn hc true
  have hoperand := takes_conditionalExpression (g := grammar (d + 1)) (takes_unary_members
    hc' (d := d) ht howner hpath hmembers (.inl hu) rest) rfl (.inl hu)
  have hstatement := takes_expressionStatement (g := grammar (d + 2))
    (takes_assignmentExpression hc' ht hoperand (passes_assignmentBehind hu _)) hu rfl
    (by simp [memberAt])
  obtain ⟨v, tail, rfl, hv⟩ := memberLexemes_head hpath hmembers
  simp only [List.cons_append, List.append_assoc, List.nil_append] at hstatement ⊢
  exact (statementAt_name ht howner hv true top).takes hstatement

section

variable {d : Nat} {owner : String} {path params : List String}

private theorem assigned_code {code : List Token}
    (hcode : code.map (·.lexeme) = (Stub.assigned owner path params).lexemes) :
    ∃ t members u f stub w, code = t :: (members ++ u :: f :: (stub ++ [w])) ∧
      t.lexeme = .word owner ∧ members.map (·.lexeme) = memberLexemes path ∧
      u.lexeme = .assign "=" ∧ f.lexeme = .word "function" ∧
      stub.map (·.lexeme) = stubLexemes params ∧ w.lexeme = .mark .semicolon := by
  obtain ⟨t, code, rfl, ht, hcode⟩ := List.map_eq_cons_iff.mp hcode
  obtain ⟨members, code, rfl, hmembers, hcode⟩ := List.map_eq_append_iff.mp hcode
  obtain ⟨u, code, rfl, hu, hcode⟩ := List.map_eq_cons_iff.mp hcode
  obtain ⟨f, code, rfl, hf, hcode⟩ := List.map_eq_cons_iff.mp hcode
  obtain ⟨stub, code, rfl, hstub, hcode⟩ := List.map_eq_append_iff.mp hcode
  obtain ⟨w, code, rfl, hw, hcode⟩ := List.map_eq_cons_iff.mp hcode
  obtain rfl : code = [] := by simpa using hcode
  exact ⟨t, members, u, f, stub, w, rfl, ht, hmembers, hu, hf, hstub, hw⟩

theorem takes_assigned (hc : c.IsSloppy) (howner : isIdentifier owner = true) (hpath : path ≠ [])
    (hparams : ∀ name ∈ params, IsParamName name) (hgap : ¬ LeavesGap params) {code : List Token}
    (hcode : code.map (·.lexeme) = (Stub.assigned owner path params).lexemes) (top : Bool) :
    Takes ((grammar (d + 5)).parse (.statement true top)) c (code ++ rest)
      ⟨.assignedFunction (boundNames params), false⟩ rest := by
  obtain ⟨t, members, u, f, stub, w, rfl, ht, hmembers, hu, hf, hstub, hw⟩ := assigned_code hcode
  have hc' := isSloppy_allowsIn hc true
  have hfunction := takes_conditionalExpression (g := grammar (d + 2)) (takes_unary_function
    hc' (d := d) hf hstub hparams hgap (.inl hw) rest) rfl (.inl hw)
  have hright := takes_assignmentExpression hc' hf hfunction (passes_assignmentBehind hw _)
  have hoperand := takes_conditionalExpression (g := grammar (d + 3)) (takes_unary_members hc'
    ht howner hpath hmembers (.inr hu) (f :: (stub ++ w :: rest))) rfl (.inr hu)
  have hstatement := takes_expressionStatement (g := grammar (d + 4))
    (takes_assignmentExpression hc' ht hoperand (takes_assignmentBehind hu hright)) hw rfl
    (by simp [functionAssignedAt])
  obtain ⟨v, tail, rfl, hv⟩ := memberLexemes_head hpath hmembers
  simp only [List.cons_append, List.append_assoc, List.nil_append] at hstatement ⊢
  exact (statementAt_name ht howner hv true top).takes hstatement

theorem fails_assigned (hc : c.IsSloppy) (howner : isIdentifier owner = true) (hpath : path ≠ [])
    (hparams : ∀ name ∈ params, IsParamName name) (hgap : LeavesGap params) {code : List Token}
    (hcode : code.map (·.lexeme) = (Stub.assigned owner path params).lexemes) (top : Bool)
    (rest : List Token) :
    ∃ place after, Fails ((grammar (d + 5)).parse (.statement true top)) c (code ++ rest) place
      after := by
  obtain ⟨t, members, u, f, stub, w, rfl, ht, hmembers, hu, hf, hstub, -⟩ := assigned_code hcode
  have hc' := isSloppy_allowsIn hc true
  obtain ⟨comma, after, hcomma, hfunction⟩ :=
    fails_unary_function hc' (d := d) hf hstub hparams hgap (w :: rest)
  have hright := fails_assignmentExpression hc' hf
    (fails_conditionalExpression (g := grammar (d + 2)) hfunction hcomma).bind
  have hoperand := takes_conditionalExpression (g := grammar (d + 3)) (takes_unary_members hc'
    ht howner hpath hmembers (.inr hu) (f :: (stub ++ w :: rest))) rfl (.inr hu)
  have hstatement := fails_expressionStatement (g := grammar (d + 4))
    (fails_assignmentExpression hc' ht
      (hoperand.bind_fails (fails_assignmentBehind hu hright)))
  obtain ⟨v, tail, rfl, hv⟩ := memberLexemes_head hpath hmembers
  simp only [List.cons_append, List.append_assoc, List.nil_append] at hstatement ⊢
  exact ⟨comma.start, comma :: after,
    (statementAt_name ht howner hv true top).fails hstatement⟩

end

private theorem hash_not_mem_params (names : List String) :
    Lexeme.mark .hash ∉ paramLexemes names := by
  induction names with
  | nil => simp [paramLexemes]
  | cons name names ih =>
    have hname : Lexeme.mark .hash ∉ paramLexeme name := by
      unfold paramLexeme
      split <;> simp
    cases names with
    | nil => exact hname
    | cons next names => simpa [paramLexemes, hname] using ih

theorem Stub.hash_not_mem (stub : Stub) : Lexeme.mark .hash ∉ stub.lexemes := by
  cases stub <;>
    simp [Stub.lexemes, stubLexemes, memberLexemes, hash_not_mem_params]

theorem hash_not_mem_stubs (stubs : List Stub) :
    Lexeme.mark .hash ∉ stubs.flatMap (·.lexemes) := by
  intro hmem
  obtain ⟨stub, -, hmem⟩ := List.mem_flatMap.mp hmem
  exact stub.hash_not_mem hmem

theorem takes_stub (hc : c.IsSloppy) (d : Nat) {stub : Stub} (hnamed : stub.IsNamed)
    (hgap : ¬ stub.HasGap) {code : List Token} (hcode : code.map (·.lexeme) = stub.lexemes)
    (rest : List Token) :
    Takes ((grammar (d + 5)).parse (.statement true true)) c (code ++ rest)
      ⟨stub.statement, false⟩ rest := by
  cases stub with
  | function name => exact takes_function hc (d := d + 3) hnamed hcode true
  | member owner path => exact takes_member hc (d := d + 2) hnamed.1 hnamed.2 hcode true
  | assigned owner path params =>
    exact takes_assigned hc (d := d) hnamed.1 hnamed.2.1 hnamed.2.2 hgap hcode true

theorem fails_stub (hc : c.IsSloppy) (d : Nat) {stub : Stub} (hnamed : stub.IsNamed)
    (hgap : stub.HasGap) {code : List Token} (hcode : code.map (·.lexeme) = stub.lexemes)
    (rest : List Token) :
    ∃ place after, Fails ((grammar (d + 5)).parse (.statement true true)) c (code ++ rest) place
      after := by
  cases stub with
  | function name => exact absurd hgap id
  | member owner path => exact absurd hgap id
  | assigned owner path params =>
    exact fails_assigned hc (d := d) hnamed.1 hnamed.2.1 hnamed.2.2 hgap hcode true rest

theorem Stub.lexemes_eq_cons (stub : Stub) : ∃ w ls, stub.lexemes = .word w :: ls := by
  cases stub <;> exact ⟨_, _, rfl⟩

private theorem stub_head (stub : Stub) {code : List Token}
    (hcode : code.map (·.lexeme) = stub.lexemes) :
    ∃ t tail w, code = t :: tail ∧ t.lexeme = .word w := by
  obtain ⟨w, ls, hlexemes⟩ := stub.lexemes_eq_cons
  rw [hlexemes] at hcode
  obtain ⟨t, tail, rfl, ht, -⟩ := List.map_eq_cons_iff.mp hcode
  exact ⟨t, tail, w, rfl, ht⟩

theorem takes_nextStatement {w : String} (ht : t.lexeme = .word w) {items : List Statement}
    {head : Bool} {statement : Statement}
    (hstatement : Takes (g.parse (.statement true true)) { c with strict := c.strict || false }
      (t :: ts) ⟨statement, false⟩ rest) :
    Takes (nextStatement g true false (items, head, false)) c (t :: ts)
      (some (statement :: items, false, false)) rest := by
  apply (takes_current? (isValid_of_word ht)).bind
  simp only [ht]
  apply (takes_within hstatement).bind
  simp only [Bool.and_false, Bool.or_false]
  exact takes_pure

theorem fails_nextStatement {w : String} (ht : t.lexeme = .word w) {items : List Statement}
    {head : Bool} {place : Nat}
    (hstatement : Fails (g.parse (.statement true true)) { c with strict := c.strict || false }
      (t :: ts) place rest) :
    Fails (nextStatement g true false (items, head, false)) c (t :: ts) place rest := by
  apply (takes_current? (isValid_of_word ht)).bind_fails
  simp only [ht]
  exact (fails_within hstatement).bind

theorem isSloppy_or_false (hc : c.IsSloppy) :
    ({ c with strict := c.strict || false } : Context).IsSloppy :=
  ⟨by simp [hc.strict], hc.inAsync, hc.inGenerator⟩

theorem loops_nextStatement (hc : c.IsSloppy) (d : Nat) {stubs : List Stub}
    (hnamed : ∀ stub ∈ stubs, stub.IsNamed) (hgap : ∀ stub ∈ stubs, ¬ stub.HasGap)
    {code : List Token} (hcode : code.map (·.lexeme) = stubs.flatMap (·.lexemes))
    (items : List Statement) (head : Bool) :
    ∃ head', Loops (nextStatement (grammar (d + 5)) true false) c code (items, head, false)
      ((stubs.map (·.statement)).reverse ++ items, head', false) [] := by
  induction stubs generalizing code items head with
  | nil =>
    obtain rfl : code = [] := by simpa using hcode
    refine ⟨head, loops_done ?_⟩
    have hnone : Takes current? c [] none [] := takes_peek.bind takes_pure
    apply hnone.bind
    exact takes_pure
  | cons stub stubs ih =>
    simp only [List.flatMap_cons] at hcode
    obtain ⟨code, after, rfl, hcode, hafter⟩ := List.map_eq_append_iff.mp hcode
    have hstub := takes_stub (isSloppy_or_false hc) d (hnamed stub (by simp))
      (hgap stub (by simp)) hcode after
    obtain ⟨t, tail, w, rfl, ht⟩ := stub_head stub hcode
    obtain ⟨head', hloop⟩ := ih (fun s hs => hnamed s (.tail _ hs))
      (fun s hs => hgap s (.tail _ hs)) hafter (stub.statement :: items) false
    refine ⟨head', ?_⟩
    have hitems : ((stub :: stubs).map (·.statement)).reverse ++ items =
        (stubs.map (·.statement)).reverse ++ stub.statement :: items := by simp
    rw [hitems]
    have hshorter : after.length < (t :: tail ++ after).length := by
      simp only [List.length_append, List.length_cons]
      omega
    exact Loops.step (takes_nextStatement ht hstub) hshorter hloop

/-- Behind declarations the parser of the script fails where it fails on what follows them. -/
theorem loopFails_behind (hc : c.IsSloppy) (d : Nat) {stubs : List Stub}
    (hnamed : ∀ stub ∈ stubs, stub.IsNamed) (hgap : ∀ stub ∈ stubs, ¬ stub.HasGap)
    {code after left : List Token} (hcode : code.map (·.lexeme) = stubs.flatMap (·.lexemes))
    {place : Nat} (hafter : ∀ items head, LoopFails (nextStatement (grammar (d + 5)) true false) c
      after (items, head, false) place left) (items : List Statement) (head : Bool) :
    LoopFails (nextStatement (grammar (d + 5)) true false) c (code ++ after)
      (items, head, false) place left := by
  induction stubs generalizing code items head with
  | nil =>
    obtain rfl : code = [] := by simpa using hcode
    exact hafter items head
  | cons stub stubs ih =>
    simp only [List.flatMap_cons] at hcode
    obtain ⟨code, more, rfl, hcode, hmore⟩ := List.map_eq_append_iff.mp hcode
    rw [List.append_assoc]
    have hstub := takes_stub (isSloppy_or_false hc) d (hnamed stub (by simp))
      (hgap stub (by simp)) hcode (more ++ after)
    obtain ⟨t, tail, w, rfl, ht⟩ := stub_head stub hcode
    have hloop := ih (fun s hs => hnamed s (.tail _ hs)) (fun s hs => hgap s (.tail _ hs)) hmore
      (stub.statement :: items) false
    have hshorter : (more ++ after).length < (t :: tail ++ (more ++ after)).length := by
      simp only [List.length_append, List.length_cons]
      omega
    exact LoopFails.step (takes_nextStatement ht hstub) hshorter hloop

theorem exists_first {α : Type} {P : α → Prop} {items : List α} (h : ∃ a ∈ items, P a) :
    ∃ before a behind, items = before ++ a :: behind ∧ (∀ b ∈ before, ¬ P b) ∧ P a := by
  classical
  obtain ⟨a, ha⟩ := Option.isSome_iff_exists.mp (List.find?_isSome (p := (P ·)) |>.mpr (by simpa))
  obtain ⟨hP, before, behind, hitems, hbefore⟩ := List.find?_eq_some_iff_append.mp ha
  exact ⟨before, a, behind, hitems, by simpa using hbefore, by simpa using hP⟩

/-- The first function with a gap among its parameters stops the parser of the script. -/
theorem loopFails_nextStatement (hc : c.IsSloppy) (d : Nat) {stubs : List Stub}
    (hnamed : ∀ stub ∈ stubs, stub.IsNamed) (hgap : ∃ stub ∈ stubs, stub.HasGap)
    {code : List Token} (hcode : code.map (·.lexeme) = stubs.flatMap (·.lexemes))
    (items : List Statement) (head : Bool) :
    ∃ place after, LoopFails (nextStatement (grammar (d + 5)) true false) c code
      (items, head, false) place after := by
  obtain ⟨before, stub, behind, rfl, hbefore, hstub⟩ := exists_first hgap
  rw [List.flatMap_append, List.flatMap_cons] at hcode
  obtain ⟨front, code, rfl, hfront, hcode⟩ := List.map_eq_append_iff.mp hcode
  obtain ⟨code, after, rfl, hcode, -⟩ := List.map_eq_append_iff.mp hcode
  obtain ⟨place, left, hfails⟩ := fails_stub (isSloppy_or_false hc) d (hnamed stub (by simp)) hstub
    hcode after
  obtain ⟨t, tail, w, rfl, ht⟩ := stub_head stub hcode
  exact ⟨place, left, loopFails_behind hc d (fun s hs => hnamed s (List.mem_append_left _ hs))
    hbefore hfront (fun _ _ => loopFails_now (fails_nextStatement ht hfails)) items head⟩

theorem isSloppy_default : ({} : Context).IsSloppy := ⟨rfl, rfl, rfl⟩

theorem statementsOf_of_takes {tokens : List Token} {statements : List Statement}
    (h : Takes script {} tokens statements []) : statementsOf tokens = .ok statements := by
  obtain ⟨s, hrun, -, -, hfaults⟩ := h.2 { tokens } rfl (by simp)
  simp only [statementsOf, hrun, hfaults, List.getLast?_nil]

theorem statementsOf_of_fails {tokens : List Token} {place : Nat}
    (h : Fails script {} tokens place rest) : statementsOf tokens = .error place := by
  obtain ⟨s, hrun, -, -⟩ := h.2 { tokens } rfl (by simp)
  simp only [statementsOf, hrun]

theorem statementsOf_of_loopFails {tokens : List Token} {place : Nat}
    (h : LoopFails (nextStatement (grammar (8 * tokens.length + 3 + 5)) true false) {} tokens
      ([], true, false) place rest) : statementsOf tokens = .error place := by
  have hscript : Fails script {} tokens place rest := by
    apply fails_state
    intro s hs _
    rw [hs]
    exact (fails_repeated h).bind
  exact statementsOf_of_fails hscript

/-- The statements of a script of declarations are these declarations. -/
theorem statementsOf_stubs {stubs : List Stub} (hnamed : ∀ stub ∈ stubs, stub.IsNamed)
    (hgap : ∀ stub ∈ stubs, ¬ stub.HasGap) {code : List Token}
    (hcode : code.map (·.lexeme) = stubs.flatMap (·.lexemes)) :
    statementsOf code = .ok (stubs.map (·.statement)) := by
  apply statementsOf_of_takes
  apply takes_state
  intro s _ _
  obtain ⟨head, hloop⟩ := loops_nextStatement isSloppy_default (8 * s.tokens.length + 3) hnamed
    hgap hcode [] true
  have hreverse : ((stubs.map Stub.statement).reverse ++ []).reverse =
      stubs.map Stub.statement := by
    simp
  rw [← hreverse]
  exact (takes_repeated hloop).bind takes_pure

/-- A script of declarations is not well-formed if there is a gap among the parameters of one. -/
theorem statementsOf_gap {stubs : List Stub} (hnamed : ∀ stub ∈ stubs, stub.IsNamed)
    (hgap : ∃ stub ∈ stubs, stub.HasGap) {code : List Token}
    (hcode : code.map (·.lexeme) = stubs.flatMap (·.lexemes)) :
    ∃ place, statementsOf code = .error place := by
  obtain ⟨place, left, hloop⟩ := loopFails_nextStatement isSloppy_default (8 * code.length + 3)
    hnamed hgap hcode [] true
  exact ⟨place, statementsOf_of_loopFails hloop⟩

/-- A script of declarations fails at the dot in the name of the function behind them. -/
theorem statementsOf_dotted {stubs : List Stub} (hnamed : ∀ stub ∈ stubs, stub.IsNamed)
    (hgap : ∀ stub ∈ stubs, ¬ stub.HasGap) {code : List Token}
    (hcode : code.map (·.lexeme) = stubs.flatMap (·.lexemes)) {name : String}
    (ht : t.lexeme = .word "function") (hu : u.lexeme = .word name)
    (hname : isIdentifier name = true) {dot : Token} (hdot : dot.lexeme = .mark .dot) :
    statementsOf (code ++ t :: u :: dot :: rest) = .error dot.start := by
  have hfails (d : Nat) (items : List Statement) (head : Bool) :
      LoopFails (nextStatement (grammar (d + 5)) true false) {} (t :: u :: dot :: rest)
        (items, head, false) dot.start (dot :: rest) :=
    loopFails_now (fails_nextStatement ht
      (fails_function (isSloppy_or_false isSloppy_default) ht hu hname hdot true))
  exact statementsOf_of_loopFails
    (loopFails_behind isSloppy_default _ hnamed hgap hcode (hfails _) [] true)

end MixinExterns.Script
