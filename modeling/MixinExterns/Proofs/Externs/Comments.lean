import MixinExterns.Externs.Declaration
import MixinExterns.Proofs.Script.Gaps

/-!
The comments of declarations. The types and names in them are texts of any kind; a comment is closed
at its end and not before if none of them closes it.
-/

namespace MixinExterns

open Script

/-- Whether nothing in an annotation closes the comment around it. -/
def Annotation.StaysOpen (a : Annotation) : Prop := NoClose a.line.toList

/-- A text between two others closes no comment if they do not and do not make it do so. -/
theorem noClose_between {a b c : List Char} (hb : NoClose b) (ha : NoClose a)
    (hlast : a.getLast? ≠ some '*') (hc : NoClose c) (hhead : c.head? ≠ some '/') :
    NoClose (a ++ b ++ c) :=
  noClose_append (noClose_append ha hb (.inl hlast)) hc (.inr hhead)

theorem noClose_flatMap {α : Type} {f : α → List Char} {items : List α}
    (h : ∀ a ∈ items, NoClose (f a) ∧ (f a).getLast? ≠ some '*') : NoClose (items.flatMap f) := by
  induction items with
  | nil => exact noClose_nil
  | cons a items ih =>
    obtain ⟨ha, hlast⟩ := h a (by simp)
    rw [List.flatMap_cons]
    exact noClose_append ha (ih fun b hb => h b (.tail _ hb)) (.inl hlast)

instance (text : List Char) : Decidable (NoClose text) :=
  inferInstanceAs (Decidable (¬ ['*', '/'] <:+: text))

namespace Annotation

theorem staysOpen_record : StaysOpen .record := by
  unfold StaysOpen
  decide

theorem staysOpen_overriding : StaysOpen .overriding := by
  unfold StaysOpen
  decide

theorem staysOpen_link {tag : InheritanceTag} {parent : String} (h : NoClose parent.toList) :
    StaysOpen (.link tag parent) := by
  have hline : (line (.link tag parent)).toList =
      ("@" ++ tag.word ++ " \x7b").toList ++ parent.toList ++ "\x7d".toList := by
    simp [line, braced]
  unfold StaysOpen
  rw [hline]
  cases tag <;> exact noClose_between h (by decide) (by decide) (by decide) (by decide)

theorem staysOpen_result {type : String} (h : NoClose type.toList) :
    StaysOpen (.result type) := by
  have hline : (line (.result type)).toList =
      "@return \x7b".toList ++ type.toList ++ "\x7d".toList := by
    simp [line, braced]
  unfold StaysOpen
  rw [hline]
  exact noClose_between h (by decide) (by decide) (by decide) (by decide)

theorem staysOpen_param {type name : String} (htype : NoClose type.toList)
    (hname : '*' ∉ name.toList) : StaysOpen (.param type name) := by
  have hline : (line (.param type name)).toList =
      "@param \x7b".toList ++ type.toList ++ ("\x7d ".toList ++ name.toList) := by
    simp [line, braced]
  have hbehind : NoClose ("\x7d ".toList ++ name.toList) :=
    noClose_append (by decide) (noClose_of_not_mem hname) (.inl (by decide))
  unfold StaysOpen
  rw [hline]
  exact noClose_between htype (by decide) (by decide) hbehind (by simp)

end Annotation

/-- A comment of annotations is a gap in front of the code. -/
theorem inert_comment {annotations : List Annotation} (h : ∀ a ∈ annotations, a.StaysOpen) :
    Inert (Declaration.comment annotations).toList := by
  have hlines : NoClose (annotations.flatMap fun a => (" * " ++ a.line ++ "\n").toList) := by
    apply noClose_flatMap
    intro a ha
    have hline : (" * " ++ a.line ++ "\n").toList =
        " * ".toList ++ a.line.toList ++ "\n".toList := by simp
    rw [hline]
    refine ⟨noClose_between (h a ha) (by decide) (by decide) (by decide) (by decide), ?_⟩
    rw [List.getLast?_append]
    simp
  have hbody : NoClose ("*\n".toList ++
      (annotations.flatMap fun a => (" * " ++ a.line ++ "\n").toList) ++ " ".toList) :=
    noClose_between hlines (by decide) (by decide) (by decide) (by decide)
  have hcomment : (Declaration.comment annotations).toList = '/' :: '*' :: ("*\n".toList ++
      (annotations.flatMap fun a => (" * " ++ a.line ++ "\n").toList) ++ " ".toList ++
        ['*', '/']) := by
    simp [Declaration.comment, List.flatMap_map]
  rw [hcomment]
  exact .of_comment hbody

theorem inert_typeComment {type : String} (h : NoClose type.toList) :
    Inert ("/** @type " ++ braced type ++ " */").toList := by
  have hbody : NoClose ("* @type \x7b".toList ++ type.toList ++ "\x7d ".toList) :=
    noClose_between h (by decide) (by decide) (by decide) (by decide)
  have hcomment : ("/** @type " ++ braced type ++ " */").toList =
      '/' :: '*' :: ("* @type \x7b".toList ++ type.toList ++ "\x7d ".toList ++ ['*', '/']) := by
    simp [braced]
  rw [hcomment]
  exact .of_comment hbody

/-- Joining the parts of an identifier by a low line closes no comment that they left open. -/
theorem noClose_combined {identifier : String} (h : NoClose identifier.toList) :
    NoClose (QualifiedName.ofIdentifier identifier).combined.toList := by
  unfold QualifiedName.ofIdentifier
  split
  · next before after hsplit =>
    obtain ⟨heq, -⟩ := QualifiedName.eq_append_of_splitAtLastDot hsplit
    rw [heq] at h
    have hbefore : NoClose before := fun hin => h (hin.trans (List.infix_append' [] _ _))
    have hafter : NoClose after := fun hin => h (hin.trans (by
      exact ⟨before ++ ['.'], [], by simp⟩))
    have hjoined : NoClose (before ++ ('_' :: after)) :=
      noClose_append hbefore (noClose_append (a := ['_']) (by decide) hafter (.inl (by decide)))
        (.inr (by simp))
    simpa [QualifiedName.combined] using hjoined
  · exact h

end MixinExterns
