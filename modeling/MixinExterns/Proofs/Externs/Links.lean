import MixinExterns.Proofs.Externs.Concatenation
import MixinExterns.Proofs.Externs.Layout

/-!
Links between records. The record type of an identifier is the identifier with a low line in the
place of its last dot, so identifiers without low lines have different record types. The links of a
mixin are the record types of its parents, and each of them is the record type of the parent itself
and of no other mixin.
-/

namespace MixinExterns

namespace QualifiedName

/-- The identifier with a low line in the place of its last dot, if it has one. -/
def lowered (identifier : String) : String :=
  String.ofList (identifier.toList.reverse.replace '.' '_').reverse

/-- The text with a dot in the place of its last low line, if it has one. -/
def raised (s : String) : String :=
  String.ofList (s.toList.reverse.replace '_' '.').reverse

theorem combined_ofIdentifier (identifier : String) :
    (ofIdentifier identifier).combined = lowered identifier := by
  apply String.toList_inj.mp
  unfold ofIdentifier lowered
  split
  · next before after hsplit =>
    obtain ⟨hchars, hdot⟩ := eq_append_of_splitAtLastDot hsplit
    rw [hchars]
    simp [combined, List.replace_append_right, hdot]
  · next hsplit =>
    have hdot := splitAtLastDot_eq_none.mp hsplit
    simp [combined, List.replace_of_not_mem, hdot]

/-- What stands in front of the last dot stays as it is. -/
theorem lowered_append (a : String) {b : String} (h : '.' ∈ b.toList) :
    lowered (a ++ b) = a ++ lowered b := by
  apply String.toList_inj.mp
  simp [lowered, List.replace_append_left, h]

theorem replace_replace {α : Type} [DecidableEq α] {a b : α} {items : List α} (h : b ∉ items) :
    (items.replace a b).replace b a = items := by
  induction items with
  | nil => rfl
  | cons c items ih =>
    obtain ⟨hc, hitems⟩ := not_or.mp (mt List.mem_cons.mpr h)
    by_cases hca : c = a
    · subst hca
      simp
    · have hac : (a == c) = false := by simpa using Ne.symm hca
      have hbc : (b == c) = false := by simpa using hc
      simp [List.replace_cons, hac, hbc, ih hitems]

/-- The last low line of a record type was a dot if the identifier has no low line. -/
theorem raised_lowered {identifier : String} (h : '_' ∉ identifier.toList) :
    raised (lowered identifier) = identifier := by
  have hreverse : '_' ∉ identifier.toList.reverse := by simpa using h
  simp [raised, lowered, replace_replace hreverse]

theorem combined_injective {a b : String} (ha : '_' ∉ a.toList) (hb : '_' ∉ b.toList)
    (h : (ofIdentifier a).combined = (ofIdentifier b).combined) : a = b := by
  rw [combined_ofIdentifier, combined_ofIdentifier] at h
  rw [← raised_lowered ha, h, raised_lowered hb]

end QualifiedName

/-- The record type that an annotation links to. -/
def Annotation.linked? : Annotation → Option String
  | link _ parent => some parent
  | _ => none

/-- The record types that the comment of a declaration links to. -/
def Declaration.links : Declaration → List String
  | record _ tag parents =>
    (.record :: parents.map (.link tag) : List Annotation).filterMap (·.linked?)
  | property .. => []
  | method _ _ annotations _ => annotations.filterMap (·.linked?)

/-- A line of a comment that links to a record type. -/
def InheritanceTag.linkLine (tag : InheritanceTag) (recordType : String) : String :=
  " * @" ++ tag.word ++ " \x7b" ++ recordType ++ "\x7d\n"

theorem Declaration.links_record (name : String) (tag : InheritanceTag) (parents : List String) :
    (record name tag parents).links = parents := by
  have hparents :
      (parents.map (.link tag : String → Annotation)).filterMap (·.linked?) = parents := by
    rw [List.filterMap_map]
    exact List.filterMap_some
  rw [links, List.filterMap_cons, hparents]
  rfl

/-- Below the comment of a record stands its function on a line of its own. -/
theorem Declaration.text_comment_append (name : String) (tag : InheritanceTag)
    (parents : List String) : (record name tag parents).text =
      comment (.record :: parents.map (.link tag)) ++ "\n" ++
        ("function " ++ name ++ "()\x7b\x7d") := by
  apply String.toList_inj.mp
  simp [text]

theorem Declaration.text_record (name : String) (tag : InheritanceTag) (parents : List String) :
    (record name tag parents).text = "/**\n * @record\n" ++ String.join (parents.map tag.linkLine) ++
      " */\nfunction " ++ name ++ "()\x7b\x7d" := by
  rw [text_comment_append]
  apply String.toList_inj.mp
  simp [comment, Annotation.line, braced, InheritanceTag.linkLine, List.flatMap_map]

/-- The annotations of a method link to nothing. -/
theorem Method.links_declaration (options : EmitOptions) (target : String) (m : Method) :
    (m.declaration options target).links = [] := by
  refine List.filterMap_eq_nil_iff.mpr fun a ha => ?_
  simp only [annotations, List.mem_append] at ha
  rcases ha with (ha | ha) | ha
  · split at ha
    · simp at ha
    · obtain ⟨p, -, rfl⟩ := List.mem_map.mp ha
      rfl
  · obtain ⟨type, -, rfl⟩ := List.mem_map.mp ha
    rfl
  · split at ha
    · obtain rfl := List.mem_singleton.mp ha
      rfl
    · simp at ha

namespace Feature

/-- The record types that the declarations of a mixin link to. -/
def links (options : EmitOptions) (f : Feature) : List String :=
  (f.declarations options).flatMap (·.links)

/-- Only the record of a mixin has links, one for each parent with a name. -/
theorem links_eq (options : EmitOptions) (f : Feature) : f.links options = f.parentTypes := by
  have hproperties : ((f.properties.filter (·.isVisible)).map
      (·.declaration f.typeName)).flatMap (·.links) = [] := by
    simp [List.flatMap_map, Property.declaration, Declaration.links]
  have hmethods (target : String) (methods : List Method) :
      (methods.map (·.declaration options target)).flatMap (·.links) = [] := by
    simp [List.flatMap_map, Method.links_declaration]
  rw [links, declarations_included, List.flatMap_append, List.flatMap_append, List.flatMap_cons,
    hproperties, hmethods, hmethods, Declaration.links_record]
  simp

end Feature

namespace Externs

open QualifiedName

variable {features : List Feature} {options : EmitOptions}

theorem infix_joined_left (a b : String) : a.toList <:+: (joined a b).toList := by
  unfold joined
  split
  · exact List.infix_rfl
  · split
    · next ha => simp [ha]
    · simpa using List.infix_append [] a.toList ("\n" ++ b).toList

theorem infix_joined_right (a b : String) : b.toList <:+: (joined a b).toList := by
  unfold joined
  split
  · next hb => simp [hb]
  · split
    · exact List.infix_rfl
    · simpa using (List.suffix_append (a ++ "\n").toList b.toList).isInfix

/-- What is laid out stands in the text. -/
theorem infix_layOut {part : String} {parts : List String} (h : part ∈ parts) :
    part.toList <:+: (layOut parts).toList := by
  obtain ⟨front, back, rfl⟩ := List.append_of_mem h
  have hpart : part.toList <:+: (layOut [part]).toList := by
    rw [layOut_singleton, String.toList_append]
    exact (List.prefix_append _ _).isInfix
  have hback := hpart.trans (infix_joined_left (layOut [part]) (layOut back))
  rw [layOut_append, ← List.singleton_append, layOut_append]
  exact hback.trans (infix_joined_right _ _)

theorem infix_generate {f : Feature} (hf : f ∈ mixins features options) {d : Declaration}
    (hd : d ∈ f.declarations options) :
    d.text.toList <:+: (generate features options).value.toList := by
  have hall : d ∈ declarations features options := List.mem_flatMap.mpr ⟨f, hf, hd⟩
  rw [value_generate, text]
  exact infix_layOut (List.mem_append_right _ (List.mem_map_of_mem hall))

/-- Two identifiers have the same record type if and only if a low line in the place of the last dot
of each makes them the same, so those without low lines have different ones. If no mixin and no
parent has a low line in its name, each mixin links to the record types of its parents with a name,
one after the other, in the comment of its record; such a link is the record type of an emitted
mixin if and only if that is the parent, and mixins of different names have different record
types. -/
theorem links_resolve :
    (∀ a b, (ofIdentifier a).combined = (ofIdentifier b).combined ↔ lowered a = lowered b) ∧
    (∀ a b : String, '_' ∉ a.toList → '_' ∉ b.toList →
      (ofIdentifier a).combined = (ofIdentifier b).combined → a = b) ∧
    ∀ features options,
      (∀ f ∈ mixins features options, '_' ∉ f.name.toList ∧ ∀ p ∈ f.parents, '_' ∉ p.toList) →
      ∀ f ∈ mixins features options,
        f.links options =
          (f.parents.filter fun p => !p.isEmpty).map (fun p => (ofIdentifier p).combined) ∧
        ("/**\n * @record\n" ++ String.join ((f.links options).map options.inheritance.linkLine) ++
          " */\nfunction " ++ (ofIdentifier f.name).combined ++ "()\x7b\x7d").toList <:+:
            (generate features options).value.toList ∧
        ∀ m ∈ mixins features options,
          (∀ p ∈ f.parents, p ≠ "" →
            ((ofIdentifier p).combined = (ofIdentifier m.name).combined ↔ m.name = p)) ∧
          (m.name ≠ f.name → (ofIdentifier m.name).combined ≠ (ofIdentifier f.name).combined) := by
  refine ⟨fun a b => ?_, fun a b ha hb => combined_injective ha hb,
    fun features options hplain f hf => ⟨f.links_eq options, ?_, fun m hm => ⟨?_, ?_⟩⟩⟩
  · rw [combined_ofIdentifier, combined_ofIdentifier]
  · have hrecord := infix_generate hf (List.mem_cons_self ..)
    rw [Declaration.text_record] at hrecord
    rw [f.links_eq]
    exact hrecord
  · intro p hp _
    constructor
    · intro hsame
      exact (combined_injective ((hplain f hf).2 p hp) (hplain m hm).1 hsame).symm
    · rintro rfl
      rfl
  · intro hne hsame
    exact hne (combined_injective (hplain m hm).1 (hplain f hf).1 hsame)

def base : Feature := { name := "Ui.Base", kinds := ["element-mixin"] }

/-- A mixin in a nested namespace, with a parent that is emitted and one that is not. -/
def child : Feature where
  name := "Ui.Base.Child"
  kinds := ["element-mixin"]
  parents := ["Ui.Base", "", "Base"]

theorem links_resolve_child :
    (∀ f ∈ mixins [base, child] {}, '_' ∉ f.name.toList ∧ ∀ p ∈ f.parents, '_' ∉ p.toList) ∧
      child ∈ mixins [base, child] {} ∧ base ∈ mixins [base, child] {} ∧
      child.links {} = ["Ui_Base", "Base"] ∧
      (ofIdentifier "Ui.Base").combined = (ofIdentifier base.name).combined ∧
      (ofIdentifier "Base").combined ≠ (ofIdentifier base.name).combined := by
  have hmixins : mixins [base, child] {} = [base, child] := by decide
  have hplain : ∀ f ∈ mixins [base, child] {},
      '_' ∉ f.name.toList ∧ ∀ p ∈ f.parents, '_' ∉ p.toList := by
    rw [hmixins]
    decide
  have hchild : child ∈ mixins [base, child] {} := by simp [hmixins]
  have hbase : base ∈ mixins [base, child] {} := by simp [hmixins]
  obtain ⟨hlinks, -, hresolve⟩ := links_resolve.2.2 _ _ hplain child hchild
  obtain ⟨hparents, -⟩ := hresolve base hbase
  refine ⟨hplain, hchild, hbase, ?_, ?_, ?_⟩
  · rw [hlinks]
    decide
  · exact (hparents "Ui.Base" (by decide) (by decide)).mpr rfl
  · exact mt (hparents "Base" (by decide) (by decide)).mp (by decide)

end Externs

end MixinExterns
