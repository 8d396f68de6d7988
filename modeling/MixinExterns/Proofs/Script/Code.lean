import MixinExterns.Proofs.Script.Spelling
import MixinExterns.Proofs.Script.Statements

/-!
The text of the code of a declaration. It spells the lexemes of the code whatever follows it, since
it ends in a punctuator.
-/

namespace MixinExterns.Script

/-- The text of members of members, each behind a dot. -/
def pathText (path : List String) : List Char := path.flatMap fun w => '.' :: w.toList

theorem endsWord_path {path : List String} {tail : List Char} (htail : endsWord tail = true) :
    endsWord (pathText path ++ tail) = true := by
  cases path with
  | nil => exact htail
  | cons w path => rfl

theorem spells_path {path : List String} (hpath : ∀ w ∈ path, isIdentifierName w = true)
    {tail : List Char} (htail : endsWord tail = true) :
    Spells tail (pathText path) (memberLexemes path) := by
  induction path with
  | nil => exact .nil
  | cons w path ih =>
    have hw := hpath w (by simp)
    have hword : Spells tail (w.toList ++ pathText path) (.word w :: memberLexemes path) :=
      .cons (reads_word hw (endsWord_path htail)) (ih fun v hv => hpath v (.tail _ hv))
    have hdot : Reads (.mark .dot) ['.'] (w.toList ++ pathText path ++ tail) := by
      simpa using reads_dot hw (pathText path ++ tail)
    have hmember := Spells.cons hdot hword
    simpa [pathText, memberLexemes] using hmember

/-- Parameters are spelled up to the parenthesis behind them, since a comma behind the last one
leaves a blank there. -/
theorem spells_params {names : List String} (hnames : ∀ name ∈ names, IsParamName name)
    {gap tail rest : List Char} {ls : List Lexeme} (hgap : Inert gap)
    (hrest : Spells tail rest ls) :
    Spells tail (gap ++ ((String.intercalate ", " names).toList ++ ')' :: rest))
      (paramLexemes names ++ .mark .rightParen :: ls) := by
  have hclose : Spells tail (')' :: rest) (.mark .rightParen :: ls) :=
    .cons (reads_mark (by simp [spellings]) _) hrest
  induction names generalizing gap with
  | nil => simpa [paramLexemes] using hclose.gap hgap
  | cons name names ih =>
    cases names with
    | nil =>
      by_cases hempty : name = ""
      · simpa [paramLexemes, paramLexeme, hempty] using hclose.gap hgap
      · have hname := isIdentifierName_of_identifier ((hnames name (by simp)).resolve_left hempty)
        have hword : Spells tail (name.toList ++ ')' :: rest)
            (.word name :: .mark .rightParen :: ls) :=
          .cons (reads_word hname (by rfl)) hclose
        simpa [paramLexemes, paramLexeme, hempty] using hword.gap hgap
    | cons next names =>
      have hlater := ih (fun n hn => hnames n (.tail _ hn)) (inert_blank (c := ' ') (by decide))
      have hcomma : Spells tail
          (',' :: ([' '] ++ ((String.intercalate ", " (next :: names)).toList ++ ')' :: rest)))
          (.mark .comma :: (paramLexemes (next :: names) ++ .mark .rightParen :: ls)) :=
        .cons (reads_mark (by simp [spellings]) _) hlater
      by_cases hempty : name = ""
      · simpa [paramLexemes, paramLexeme, hempty] using hcomma.gap hgap
      · have hname := isIdentifierName_of_identifier ((hnames name (by simp)).resolve_left hempty)
        have hword := Spells.cons (reads_word hname (by rfl)) hcomma
        simpa [paramLexemes, paramLexeme, hempty] using hword.gap hgap

def stubText (names : List String) : List Char :=
  '(' :: ((String.intercalate ", " names).toList ++ [')', '\x7b', '\x7d'])

theorem spells_stub {names : List String} (hnames : ∀ name ∈ names, IsParamName name)
    (tail : List Char) : Spells tail (stubText names) (stubLexemes names) := by
  have hbody : Spells tail ['\x7b', '\x7d'] [.mark .leftBrace, .mark .rightBrace] :=
    .cons (reads_mark (by simp [spellings]) _) (.cons (reads_mark (by simp [spellings]) _) .nil)
  have hparams := spells_params hnames .nil hbody
  have hstub := Spells.cons
    (reads_mark (c := '(') (m := .leftParen) (by simp [spellings]) _) hparams
  simpa [stubText, stubLexemes] using hstub

theorem spells_function {name : String} (hname : isIdentifier name = true) (tail : List Char) :
    Spells tail ("function".toList ++ ' ' :: (name.toList ++ stubText []))
      (Stub.function name).lexemes := by
  have hstub : Spells tail (stubText []) (stubLexemes []) := spells_stub (by simp) tail
  have hword := Spells.cons (reads_word (isIdentifierName_of_identifier hname) (by rfl)) hstub
  have hgap := hword.gap (inert_blank (c := ' ') (by decide))
  exact .cons (reads_word (by decide) (by rfl)) hgap

theorem spells_owner {owner : String} {path : List String} (howner : isIdentifier owner = true)
    (hpath : ∀ w ∈ path, isIdentifierName w = true) {tail rest : List Char} {ls : List Lexeme}
    (hend : endsWord (rest ++ tail) = true) (hrest : Spells tail rest ls) :
    Spells tail (owner.toList ++ (pathText path ++ rest))
      (.word owner :: (memberLexemes path ++ ls)) := by
  have hmembers := (spells_path hpath hend).append hrest
  have hword : endsWord (pathText path ++ rest ++ tail) = true := by
    rw [List.append_assoc]
    exact endsWord_path hend
  exact .cons (reads_word (isIdentifierName_of_identifier howner) hword) hmembers

theorem spells_member {owner : String} {path : List String} (howner : isIdentifier owner = true)
    (hpath : ∀ w ∈ path, isIdentifierName w = true) (tail : List Char) :
    Spells tail (owner.toList ++ (pathText path ++ [';'])) (Stub.member owner path).lexemes :=
  spells_owner howner hpath (by rfl) (.cons (reads_mark (by simp [spellings]) _) .nil)

theorem spells_assigned {owner : String} {path params : List String}
    (howner : isIdentifier owner = true) (hpath : ∀ w ∈ path, isIdentifierName w = true)
    (hparams : ∀ name ∈ params, IsParamName name) (tail : List Char) :
    Spells tail (owner.toList ++ (pathText path ++
        (" = function".toList ++ (stubText params ++ [';']))))
      (Stub.assigned owner path params).lexemes := by
  have hend : Spells tail [';'] [.mark .semicolon] :=
    .cons (reads_mark (by simp [spellings]) _) .nil
  have hstub := (spells_stub hparams ([';'] ++ tail)).append hend
  have hfunction : Spells tail ("function".toList ++ (stubText params ++ [';']))
      (.word "function" :: (stubLexemes params ++ [.mark .semicolon])) :=
    .cons (reads_word (by decide) (by rfl)) hstub
  have hright := hfunction.gap (inert_blank (c := ' ') (by decide))
  have hassign : Spells tail ('=' :: ([' '] ++ ("function".toList ++ (stubText params ++ [';']))))
      (.assign "=" :: .word "function" :: (stubLexemes params ++ [.mark .semicolon])) :=
    .cons (reads_equals _) hright
  have hgap := hassign.gap (inert_blank (c := ' ') (by decide))
  exact spells_owner howner hpath (by rfl) (by simpa using hgap)

end MixinExterns.Script
