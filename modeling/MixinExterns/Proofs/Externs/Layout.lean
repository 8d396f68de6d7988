import Mathlib.Data.List.Forall2
import MixinExterns.Externs.Generate
import MixinExterns.Proofs.Externs.Comments
import MixinExterns.Proofs.Script.Code

/-!
The text of the externs as the spelling of a script. Each declaration spells the code it stands
for, with its comment as a gap in front, and what is put between declarations is a gap.
-/

namespace MixinExterns

open Script

def Method.paramNames (m : Method) : List String := m.params.map (·.bareName)

/-- Whether the names and types in the declaration of a method can be read back: names are
identifiers, and no type that is written closes a comment. A parameter may have no name. -/
structure Method.IsReadable (options : EmitOptions) (m : Method) : Prop where
  name : isIdentifierName m.name = true
  params : ∀ p ∈ m.params, IsParamName p.bareName
  paramTypes : m.omitsParams options = false → ∀ p ∈ m.params, NoClose p.annotatedType.toList
  returnType : ∀ type ∈ m.returnType, NoClose type.toList

instance (options : EmitOptions) (m : Method) : Decidable (m.IsReadable options) :=
  decidable_of_iff
    (isIdentifierName m.name = true ∧ (∀ p ∈ m.params, IsParamName p.bareName) ∧
      (m.omitsParams options = false → ∀ p ∈ m.params, NoClose p.annotatedType.toList) ∧
      ∀ type ∈ m.returnType, NoClose type.toList)
    ⟨fun ⟨h₁, h₂, h₃, h₄⟩ => ⟨h₁, h₂, h₃, h₄⟩, fun ⟨h₁, h₂, h₃, h₄⟩ => ⟨h₁, h₂, h₃, h₄⟩⟩

namespace Feature

def includedMethods (options : EmitOptions) (f : Feature) : List Method :=
  f.methods.filter (·.isIncluded options)

def includedStatics (options : EmitOptions) (f : Feature) : List Method :=
  if options.staticMethods then f.staticMethods.filter (·.isIncluded options) else []

/-- Whether the names and types in the declarations of a mixin can be read back. -/
structure IsReadable (options : EmitOptions) (f : Feature) : Prop where
  name : IsMixinName f.name
  parents : ∀ parent ∈ f.parents, NoClose parent.toList
  properties : ∀ p ∈ f.properties, p.isVisible = true →
    isIdentifierName p.name = true ∧ NoClose (p.type.getD "*").toList
  methods : ∀ m ∈ f.includedMethods options ++ f.includedStatics options, m.IsReadable options

theorem declarations_included (options : EmitOptions) (f : Feature) : f.declarations options =
    .record f.typeName options.inheritance f.parentTypes ::
      (f.properties.filter (·.isVisible)).map (·.declaration f.typeName) ++
      (f.includedMethods options).map (·.declaration options (f.typeName ++ ".prototype")) ++
      (f.includedStatics options).map (·.declaration options f.typeName) := by
  unfold declarations includedStatics
  cases options.staticMethods <;> rfl

def stubs (options : EmitOptions) (f : Feature) : List Stub :=
  .function f.typeName ::
    (f.properties.filter (·.isVisible)).map (fun p => .member f.typeName ["prototype", p.name]) ++
    (f.includedMethods options).map
      (fun m => .assigned f.typeName ["prototype", m.name] m.paramNames) ++
    (f.includedStatics options).map (fun m => .assigned f.typeName [m.name] m.paramNames)

end Feature

/-- The text of the declaration spells this code, whatever follows it. -/
def Declaration.Spells (d : Declaration) (stub : Stub) : Prop :=
  ∀ tail, Script.Spells tail d.text.toList stub.lexemes

theorem Declaration.Spells.behind {stub : Stub} {gap code : List Char}
    {d : Declaration} (hgap : Inert gap) (htext : d.text.toList = gap ++ code)
    (h : ∀ tail, Script.Spells tail code stub.lexemes) : d.Spells stub := by
  intro tail
  obtain ⟨w, ls, hlexemes⟩ := stub.lexemes_eq_cons
  have hcode := h tail
  rw [hlexemes] at hcode
  rw [htext, hlexemes]
  exact hcode.gap hgap

theorem staysOpen_of_annotated {options : EmitOptions} {m : Method} (h : m.IsReadable options) :
    ∀ a ∈ m.annotations options, a.StaysOpen := by
  intro a ha
  simp only [Method.annotations, List.mem_append] at ha
  rcases ha with (ha | ha) | ha
  · split at ha
    · simp at ha
    · next hparams =>
      obtain ⟨p, hp, rfl⟩ := List.mem_map.mp ha
      apply Annotation.staysOpen_param (h.paramTypes (by simpa using hparams) p hp)
      rcases h.params p hp with hname | hname
      · simp [hname]
      · exact not_mem_of_identifierName (isIdentifierName_of_identifier hname) (by decide)
  · obtain ⟨type, htype, rfl⟩ := List.mem_map.mp ha
    apply Annotation.staysOpen_result
    simp only [Method.annotatedResult, Option.mem_toList] at htype
    split at htype
    · next declared hdeclared =>
      obtain rfl : declared = type := by simpa using htype
      exact h.returnType _ hdeclared
    · split at htype
      · obtain rfl : "undefined" = type := by simpa using htype
        decide
      · simp at htype
  · split at ha
    · obtain rfl : a = .overriding := by simpa using ha
      exact Annotation.staysOpen_overriding
    · simp at ha

section

variable {options : EmitOptions} {f : Feature}

theorem inert_recordComment (hparents : ∀ parent ∈ f.parents, NoClose parent.toList)
    (tag : InheritanceTag) :
    Inert (Declaration.comment (.record :: f.parentTypes.map (.link tag))).toList := by
  refine inert_comment fun a ha => ?_
  rcases List.mem_cons.mp ha with rfl | ha
  · exact Annotation.staysOpen_record
  · obtain ⟨parent, hparent, rfl⟩ := List.mem_map.mp ha
    obtain ⟨identifier, hidentifier, rfl⟩ := List.mem_map.mp hparent
    exact Annotation.staysOpen_link (noClose_combined
      (hparents identifier (List.mem_filter.mp hidentifier).1))

theorem spells_record (hf : f.IsReadable options) (tag : InheritanceTag) :
    (Declaration.record f.typeName tag f.parentTypes).Spells (.function f.typeName) := by
  have hcomment := inert_recordComment hf.parents tag
  refine .behind (hcomment.append (inert_blank (c := '\n') (by decide))) ?_
    (spells_function (isIdentifier_combined hf.name))
  simp [Declaration.text, stubText, Feature.typeName, Feature.qualifiedName]

theorem spells_property (hf : f.IsReadable options) {p : Property} (hp : p ∈ f.properties)
    (hvisible : p.isVisible = true) :
    (p.declaration f.typeName).Spells (.member f.typeName ["prototype", p.name]) := by
  obtain ⟨hname, htype⟩ := hf.properties p hp hvisible
  refine .behind ((inert_typeComment htype).append (inert_blank (c := '\n') (by decide))) ?_
    (spells_member (isIdentifier_combined hf.name) (by simpa using ⟨by decide, hname⟩))
  simp [Property.declaration, Declaration.text, pathText, Feature.typeName,
    Feature.qualifiedName]

theorem spells_method {m : Method} (hm : m.IsReadable options) {owner : String}
    (howner : isIdentifier owner = true) {path : List String}
    (hpath : ∀ w ∈ path, isIdentifierName w = true) {target : String}
    (htarget : target.toList = owner.toList ++ pathText path) :
    (m.declaration options target).Spells (.assigned owner (path ++ [m.name]) m.paramNames) := by
  have hcomment : Inert (if (m.annotations options).isEmpty then ""
      else Declaration.comment (m.annotations options) ++ "\n").toList := by
    split
    · exact .nil
    · simpa using (inert_comment (staysOpen_of_annotated hm)).append
        (inert_blank (c := '\n') (by decide))
  have hparams : ∀ name ∈ m.paramNames, IsParamName name := by
    intro name hname
    obtain ⟨p, hp, rfl⟩ := List.mem_map.mp hname
    exact hm.params p hp
  have hwords : ∀ w ∈ path ++ [m.name], isIdentifierName w = true := by
    intro w hw
    rcases List.mem_append.mp hw with hw | hw
    · exact hpath w hw
    · obtain rfl : w = m.name := by simpa using hw
      exact hm.name
  refine .behind hcomment ?_ (spells_assigned howner hwords hparams)
  simp [Method.declaration, Declaration.text, htarget, pathText, stubText, Method.paramNames]

theorem spells_methods {methods : List Method} (hmethods : ∀ m ∈ methods, m.IsReadable options)
    {owner : String} (howner : isIdentifier owner = true) (path : List String)
    (hpath : ∀ w ∈ path, isIdentifierName w = true) (target : String)
    (htarget : target.toList = owner.toList ++ pathText path) :
    List.Forall₂ Declaration.Spells (methods.map (·.declaration options target))
      (methods.map fun m => .assigned owner (path ++ [m.name]) m.paramNames) := by
  rw [List.forall₂_map_left_iff, List.forall₂_map_right_iff, List.forall₂_same]
  exact fun m hm => spells_method (hmethods m hm) howner hpath htarget

/-- The declarations of a mixin spell its code, one after the other. -/
theorem spells_declarations (hf : f.IsReadable options) :
    List.Forall₂ Declaration.Spells (f.declarations options) (f.stubs options) := by
  have howner := isIdentifier_combined hf.name
  have hproperties : List.Forall₂ Declaration.Spells
      ((f.properties.filter (·.isVisible)).map (·.declaration f.typeName))
      ((f.properties.filter (·.isVisible)).map
        fun p => .member f.typeName ["prototype", p.name]) := by
    rw [List.forall₂_map_left_iff, List.forall₂_map_right_iff, List.forall₂_same]
    intro p hp
    obtain ⟨hmem, hvisible⟩ := List.mem_filter.mp hp
    exact spells_property hf hmem hvisible
  have hmethods := spells_methods (fun m hm => hf.methods m (List.mem_append_left _ hm)) howner
    ["prototype"] (by decide) (f.typeName ++ ".prototype")
    (by simp [pathText, Feature.typeName, Feature.qualifiedName])
  have hstatics := spells_methods (fun m hm => hf.methods m (List.mem_append_right _ hm)) howner
    [] (by simp) f.typeName (by simp [pathText, Feature.typeName, Feature.qualifiedName])
  have hall := List.rel_append (List.rel_append
    (List.Forall₂.cons (spells_record hf options.inheritance) hproperties) hmethods) hstatics
  rw [f.declarations_included]
  exact hall

end

namespace Externs

variable {features : List Feature} {options : EmitOptions}

def stubs (features : List Feature) (options : EmitOptions) : List Stub :=
  (mixins features options).flatMap (·.stubs options)

theorem forall₂_declarations (h : ∀ f ∈ mixins features options, f.IsReadable options) :
    List.Forall₂ Declaration.Spells (declarations features options) (stubs features options) := by
  unfold declarations stubs
  generalize mixins features options = emitted at h
  induction emitted with
  | nil => exact .nil
  | cons f fs ih =>
    rw [List.flatMap_cons, List.flatMap_cons]
    exact List.rel_append (spells_declarations (h f (by simp))) (ih fun g hg => h g (.tail _ hg))

/-- What is written behind one part of the text, with or without others to follow. -/
def separator (more : List String) : List Char :=
  if more.isEmpty then ['\n'] else ['\n', '\n']

theorem inert_separator (more : List String) : Inert (separator more) := by
  unfold separator
  split
  · exact inert_blank (by decide)
  · exact .blank (by decide) (inert_blank (by decide))

theorem layOut_cons (part : String) (parts : List String) :
    (layOut (part :: parts)).toList =
      part.toList ++ (separator parts ++ (layOut parts).toList) := by
  cases parts with
  | nil => simp [layOut, separator]
  | cons next parts => simp [layOut, separator]

/-- Declarations that are laid out behind a gap spell their code, up to a gap at the end and whatever
follows it. -/
theorem spells_layOut {declarations : List Declaration} {stubs : List Stub}
    (h : List.Forall₂ Declaration.Spells declarations stubs) {gap : List Char} (hgap : Inert gap) :
    ∃ code last, gap ++ (layOut (declarations.map (·.text))).toList = code ++ last ∧
      Inert last ∧ ∀ tail, Spells (last ++ tail) code (stubs.flatMap (·.lexemes)) := by
  induction h generalizing gap with
  | nil => exact ⟨[], gap, by simp [layOut], hgap, fun _ => .nil⟩
  | @cons d stub ds stubs hd _ ih =>
    -- What separates two declarations is the gap in front of the second one.
    obtain ⟨code, last, htext, hlast, hcode⟩ := ih (inert_separator (ds.map (·.text)))
    obtain ⟨w, ls, hlexemes⟩ := stub.lexemes_eq_cons
    refine ⟨gap ++ d.text.toList ++ code, last, ?_, hlast, fun tail => ?_⟩
    · rw [List.map_cons, layOut_cons, htext]
      simp
    · have hfirst := hd (code ++ (last ++ tail))
      rw [hlexemes] at hfirst
      rw [List.flatMap_cons, hlexemes]
      exact (hfirst.gap hgap).append (hcode tail)

/-- The externs of mixins that can be read back spell their code, up to a gap at the end and
whatever follows it. -/
theorem spells_text (hmixins : ∀ f ∈ mixins features options, f.IsReadable options)
    (hheader : Inert options.header.toList) :
    ∃ code last, (text features options).toList = code ++ last ∧ Inert last ∧
      ∀ tail, Spells (last ++ tail) code ((stubs features options).flatMap (·.lexemes)) := by
  have htrim : Inert (Text.trimEnd options.header).toList := by
    rw [Text.toList_trimEnd]
    exact hheader.trimEnd
  obtain ⟨gap, hgap, htext⟩ : ∃ gap, Inert gap ∧ (text features options).toList =
      gap ++ (layOut ((declarations features options).map (·.text))).toList := by
    unfold text headerPart
    dsimp only
    split
    · exact ⟨[], .nil, rfl⟩
    · exact ⟨_, htrim.append (inert_separator _), by
        rw [List.singleton_append, layOut_cons, List.append_assoc]⟩
  rw [htext]
  exact spells_layOut (forall₂_declarations hmixins) hgap

/-- The externs of mixins that can be read back are a script of their code. -/
theorem lexemes_text (hmixins : ∀ f ∈ mixins features options, f.IsReadable options)
    (hheader : Inert options.header.toList) :
    (tokens (text features options).toList).map (·.lexeme) =
      (stubs features options).flatMap (·.lexemes) := by
  obtain ⟨code, last, htext, hlast, hspelled⟩ := spells_text hmixins hheader
  rw [htext]
  exact tokens_of_spells (by simpa using hspelled []) hlast (hash_not_mem_stubs _)

end Externs

end MixinExterns
