import Mathlib.Data.List.SplitBy
import MixinExterns.Proofs.Externs.Lines

/-!
What the externs declare: of each emitted mixin its record type, the record types of its parents,
its properties and its methods, with their annotations. Features declare the same if and only if
their externs are the same text, so nothing that is declared gets lost or mixed up in the text.
-/

namespace MixinExterns

open Script

/-- What is declared of a method. -/
structure MethodInterface where
  name : String
  params : List String
  /-- The types and names in the annotations of parameters. -/
  annotated : List (String × String)
  /-- The type in the annotation of the result. -/
  result : Option String
  isOverride : Bool
  deriving DecidableEq, Repr

/-- What is declared of a mixin. A property has a type and a name. -/
structure MixinInterface where
  name : String
  parents : List String
  properties : List (String × String)
  methods : List MethodInterface
  staticMethods : List MethodInterface
  deriving DecidableEq, Repr

def Method.interface (options : EmitOptions) (m : Method) : MethodInterface where
  name := m.name
  params := m.paramNames
  annotated :=
    if m.omitsParams options then [] else m.params.map fun p => (p.annotatedType, p.bareName)
  result := m.annotatedResult options
  isOverride := m.isOverride

def Feature.interface (options : EmitOptions) (f : Feature) : MixinInterface where
  name := f.typeName
  parents := f.parentTypes
  properties := (f.properties.filter (·.isVisible)).map fun p => (p.type.getD "*", p.name)
  methods := (f.includedMethods options).map (·.interface options)
  staticMethods := (f.includedStatics options).map (·.interface options)

/-- What is declared of the emitted mixins, in order. -/
def Externs.interfaces (features : List Feature) (options : EmitOptions) : List MixinInterface :=
  (mixins features options).map (·.interface options)

/-- The type and name in the annotation of a parameter. -/
def Annotation.param? : Annotation → Option (String × String)
  | param type name => some (type, name)
  | _ => none

/-- The type in the annotation of a result. -/
def Annotation.result? : Annotation → Option String
  | result type => some type
  | _ => none

/-- The type and name of a property. -/
def Declaration.property? : Declaration → Option (String × String)
  | property _ name type => some (type, name)
  | _ => none

def Declaration.isRecord : Declaration → Bool
  | record .. => true
  | _ => false

namespace MethodInterface

def annotations (i : MethodInterface) : List Annotation :=
  i.annotated.map (fun p => .param p.1 p.2) ++ i.result.toList.map .result ++
    if i.isOverride then [.overriding] else []

def declaration (target : String) (i : MethodInterface) : Declaration :=
  .method target i.name i.annotations i.params

/-- What a declaration of a method of `target` declares. -/
def ofDeclaration? (target : String) : Declaration → Option MethodInterface
  | .method target' name annotations params =>
    if target' = target then
      some ⟨name, params, annotations.filterMap (·.param?), annotations.findSome? (·.result?),
        annotations.contains .overriding⟩
    else none
  | _ => none

theorem filterMap_param?_annotations (i : MethodInterface) :
    i.annotations.filterMap (·.param?) = i.annotated := by
  have hparams : (i.annotated.map fun p => Annotation.param p.1 p.2).filterMap (·.param?) =
      i.annotated := by
    rw [List.filterMap_map]
    exact List.filterMap_some
  unfold annotations
  rw [List.filterMap_append, List.filterMap_append, hparams]
  cases i.result <;> cases i.isOverride <;> simp [List.filterMap, Annotation.param?]

theorem findSome?_result?_annotations (i : MethodInterface) :
    i.annotations.findSome? (·.result?) = i.result := by
  have hparams : (i.annotated.map fun p => Annotation.param p.1 p.2).findSome? (·.result?) =
      none := by
    refine List.findSome?_eq_none_iff.mpr fun a ha => ?_
    obtain ⟨p, -, rfl⟩ := List.mem_map.mp ha
    rfl
  unfold annotations
  rw [List.findSome?_append, List.findSome?_append, hparams]
  cases i.result <;> cases i.isOverride <;> rfl

theorem contains_overriding_annotations (i : MethodInterface) :
    i.annotations.contains .overriding = i.isOverride := by
  unfold annotations
  cases i.result <;> cases i.isOverride <;> simp

theorem ofDeclaration?_declaration (target : String) (i : MethodInterface) :
    ofDeclaration? target (i.declaration target) = some i := by
  simp only [ofDeclaration?, declaration, if_true, filterMap_param?_annotations,
    findSome?_result?_annotations, contains_overriding_annotations]

theorem ofDeclaration?_of_ne {target target' : String} (h : target' ≠ target)
    (i : MethodInterface) : ofDeclaration? target (i.declaration target') = none := by
  simp [ofDeclaration?, declaration, h]

end MethodInterface

namespace MixinInterface

def declarations (tag : InheritanceTag) (i : MixinInterface) : List Declaration :=
  .record i.name tag i.parents :: ((i.properties.map fun p => .property i.name p.2 p.1) ++
    i.methods.map (·.declaration (i.name ++ ".prototype")) ++
    i.staticMethods.map (·.declaration i.name))

/-- What a record and the declarations behind it declare. -/
def ofDeclarations : List Declaration → MixinInterface
  | .record name _ parents :: members =>
    ⟨name, parents, members.filterMap (·.property?),
      members.filterMap (MethodInterface.ofDeclaration? (name ++ ".prototype")),
      members.filterMap (MethodInterface.ofDeclaration? name)⟩
  | _ => ⟨"", [], [], [], []⟩

theorem filterMap_methods (target : String) (methods : List MethodInterface) :
    (methods.map (·.declaration target)).filterMap (MethodInterface.ofDeclaration? target) =
      methods := by
  rw [List.filterMap_map]
  simp [MethodInterface.ofDeclaration?_declaration]

theorem filterMap_other_methods {target target' : String} (h : target' ≠ target)
    (methods : List MethodInterface) :
    (methods.map (·.declaration target')).filterMap (MethodInterface.ofDeclaration? target) =
      [] := by
  rw [List.filterMap_map]
  simp [MethodInterface.ofDeclaration?_of_ne h]

/-- Methods of the instances and of the mixin itself are told apart by their targets. -/
theorem ofDeclarations_declarations (tag : InheritanceTag) (i : MixinInterface) :
    ofDeclarations (i.declarations tag) = i := by
  obtain ⟨name, parents, properties, methods, staticMethods⟩ := i
  have hne : name ++ ".prototype" ≠ name := by
    intro h
    have hlength := congrArg String.length h
    simp at hlength
  have hproperties : (properties.map fun p => Declaration.property name p.2 p.1).filterMap
      (·.property?) = properties := by
    rw [List.filterMap_map]
    exact List.filterMap_some
  have hnone (target target' : String) : (properties.map fun p =>
      Declaration.property target' p.2 p.1).filterMap (MethodInterface.ofDeclaration? target) =
        [] := by
    simp [List.filterMap_map, Function.comp_def, MethodInterface.ofDeclaration?]
  have hmethods (target : String) (methods : List MethodInterface) :
      (methods.map (·.declaration target)).filterMap (·.property?) = [] := by
    simp [List.filterMap_map, MethodInterface.declaration, Declaration.property?]
  simp only [ofDeclarations, declarations, List.filterMap_append, hproperties, hnone, hmethods,
    filterMap_methods, filterMap_other_methods hne, filterMap_other_methods hne.symm,
    List.append_nil, List.nil_append]

theorem isRecord_of_mem_tail {tag : InheritanceTag} {i : MixinInterface} {d : Declaration}
    (h : d ∈ (i.declarations tag).tail) : d.isRecord = false := by
  simp only [declarations, List.tail_cons, List.mem_append, List.mem_map] at h
  rcases h with (⟨_, -, rfl⟩ | ⟨_, -, rfl⟩) | ⟨_, -, rfl⟩
  all_goals rfl

/-- The declarations of several mixins are parted again at their records. -/
theorem splitBy_declarations (tag : InheritanceTag) (is : List MixinInterface) :
    (is.flatMap (·.declarations tag)).splitBy (fun _ d => !d.isRecord) =
      is.map (·.declarations tag) := by
  rw [List.flatMap_def]
  refine List.splitBy_flatten (by simp [declarations]) (fun block hblock => ?_) ?_
  · obtain ⟨i, -, rfl⟩ := List.mem_map.mp hblock
    have hmember : ∀ d ∈ (i.declarations tag).tail, (!d.isRecord) = true :=
      fun d hd => by rw [isRecord_of_mem_tail hd, Bool.not_false]
    exact (List.pairwise_cons.mpr
      ⟨hmember, List.pairwise_of_forall_mem_list fun _ _ d hd => hmember d hd⟩).isChain
  · have hhead (i j : MixinInterface) : ∃ (ha : i.declarations tag ≠ [])
        (hb : j.declarations tag ≠ []), (!((j.declarations tag).head hb).isRecord) = false := by
      simp [declarations, Declaration.isRecord]
    exact (List.pairwise_map.mpr (List.pairwise_of_forall hhead)).isChain

theorem flatMap_declarations_injective {tag : InheritanceTag} {is js : List MixinInterface}
    (h : is.flatMap (·.declarations tag) = js.flatMap (·.declarations tag)) : is = js := by
  have hblocks : is.map (·.declarations tag) = js.map (·.declarations tag) := by
    rw [← splitBy_declarations, h, splitBy_declarations]
  have hread : ∀ is : List MixinInterface,
      (is.map (·.declarations tag)).map ofDeclarations = is := by
    intro is
    simp [List.map_map, Function.comp_def, ofDeclarations_declarations]
  rw [← hread is, hblocks, hread]

end MixinInterface

section

variable {options : EmitOptions}

theorem Method.declaration_eq (target : String) (m : Method) :
    m.declaration options target = (m.interface options).declaration target := by
  have hparams : (if m.omitsParams options then []
      else m.params.map fun p => Annotation.param p.annotatedType p.bareName) =
      (m.interface options).annotated.map fun p => .param p.1 p.2 := by
    simp only [interface]
    split <;> simp [Function.comp_def]
  simp only [declaration, MethodInterface.declaration, annotations, MethodInterface.annotations,
    hparams]
  rfl

theorem Feature.declarations_eq (f : Feature) :
    f.declarations options = (f.interface options).declarations options.inheritance := by
  have hmethods (target : String) (methods : List Method) :
      methods.map (·.declaration options target) =
        (methods.map (·.interface options)).map (·.declaration target) := by
    rw [List.map_map]
    exact List.map_congr_left fun m _ => m.declaration_eq target
  rw [declarations_included, hmethods, hmethods]
  simp [MixinInterface.declarations, interface, Property.declaration, Function.comp_def]

theorem Externs.declarations_eq (features : List Feature) :
    declarations features options =
      (interfaces features options).flatMap (·.declarations options.inheritance) := by
  unfold declarations interfaces
  rw [List.flatMap_map]
  exact List.flatMap_congr fun f _ => f.declarations_eq

end

/-- Whether a name is an identifier, or two of them joined by a dot. -/
def IsDottedName (name : String) : Prop :=
  isIdentifierName name = true ∨
    ∃ space base, name = space ++ "." ++ base ∧ isIdentifierName space = true ∧
      isIdentifierName base = true

/-- Whether the names in the declaration of a method are identifiers, and the types that are written
stay on their lines. -/
structure Method.IsLegible (options : EmitOptions) (m : Method) : Prop where
  name : isIdentifierName m.name = true
  params : ∀ p ∈ m.params, isIdentifierName p.bareName = true
  paramTypes : m.omitsParams options = false → ∀ p ∈ m.params, '\n' ∉ p.annotatedType.toList
  resultType : ∀ type ∈ m.annotatedResult options, '\n' ∉ type.toList

/-- Whether the names in the declarations of a mixin are identifiers, that of the mixin perhaps two
of them, and the types that are written stay on their lines. -/
structure Feature.IsLegible (options : EmitOptions) (f : Feature) : Prop where
  name : IsDottedName f.name
  parents : ∀ parent ∈ f.parents, '\n' ∉ parent.toList
  properties : ∀ p ∈ f.properties, p.isVisible = true →
    isIdentifierName p.name = true ∧ '\n' ∉ (p.type.getD "*").toList
  methods : ∀ m ∈ f.includedMethods options ++ f.includedStatics options, m.IsLegible options

theorem isIdentifierName_combined {name : String} (h : IsDottedName name) :
    isIdentifierName (QualifiedName.ofIdentifier name).combined = true := by
  rcases h with h | ⟨space, base, rfl, hspace, hbase⟩
  · have hsplit := QualifiedName.splitAtLastDot_eq_none.mpr
      (not_mem_of_identifierName h (c := '.') (by decide))
    simpa [QualifiedName.ofIdentifier, hsplit, QualifiedName.combined] using h
  · exact isIdentifierName_of_identifier
      (isIdentifier_combined (.inr ⟨space, base, rfl, hspace, hbase⟩))

theorem newline_not_mem_combined {identifier : String} (h : '\n' ∉ identifier.toList) :
    '\n' ∉ (QualifiedName.ofIdentifier identifier).combined.toList := by
  unfold QualifiedName.ofIdentifier
  split
  · next before after hsplit =>
    obtain ⟨heq, -⟩ := QualifiedName.eq_append_of_splitAtLastDot hsplit
    rw [heq] at h
    simpa [QualifiedName.combined] using h
  · exact h

section

variable {options : EmitOptions}

theorem isPlain_method {m : Method} (hm : m.IsLegible options) {target : String}
    (htarget : ∀ c ∈ target.toList, isNamePart c = true ∨ c = '.') :
    (m.declaration options target).IsPlain options.inheritance := by
  refine ⟨htarget, hm.name, fun a ha => ?_, fun name hname => ?_⟩
  · simp only [Method.annotations, List.mem_append] at ha
    rcases ha with (ha | ha) | ha
    · split at ha
      · simp at ha
      · next hparams =>
        obtain ⟨p, hp, rfl⟩ := List.mem_map.mp ha
        exact ⟨hm.paramTypes (by simpa using hparams) p hp, hm.params p hp⟩
    · obtain ⟨type, htype, rfl⟩ := List.mem_map.mp ha
      exact hm.resultType type (Option.mem_toList.mp htype)
    · split at ha
      · obtain rfl := List.mem_singleton.mp ha
        trivial
      · simp at ha
  · obtain ⟨p, hp, rfl⟩ := List.mem_map.mp hname
    exact hm.params p hp

theorem isPlain_declarations {f : Feature} (hf : f.IsLegible options) :
    ∀ d ∈ f.declarations options, d.IsPlain options.inheritance := by
  have hname : isIdentifierName f.typeName = true := isIdentifierName_combined hf.name
  have hmethods (methods : List Method) (hmethods : ∀ m ∈ methods, m.IsLegible options)
      (target : String) (htarget : ∀ c ∈ target.toList, isNamePart c = true ∨ c = '.') :
      ∀ d ∈ methods.map (·.declaration options target), d.IsPlain options.inheritance := by
    intro d hd
    obtain ⟨m, hm, rfl⟩ := List.mem_map.mp hd
    exact isPlain_method (hmethods m hm) htarget
  have howner : ∀ c ∈ f.typeName.toList, isNamePart c = true ∨ c = '.' :=
    fun c hc => .inl (namePart_of_mem hname hc)
  have hprototype : ∀ c ∈ (f.typeName ++ ".prototype").toList, isNamePart c = true ∨ c = '.' := by
    intro c hc
    rw [String.toList_append, List.mem_append] at hc
    rcases hc with hc | hc
    · exact howner c hc
    · have hall : ".prototype".toList.all (fun c => isNamePart c || c = '.') = true := by decide
      simpa using List.all_eq_true.mp hall c hc
  intro d hd
  simp only [f.declarations_included, List.cons_append, List.mem_cons, List.mem_append] at hd
  rcases hd with rfl | (hd | hd) | hd
  · refine ⟨hname, rfl, fun parent hparent => ?_⟩
    obtain ⟨identifier, hidentifier, rfl⟩ := List.mem_map.mp hparent
    exact newline_not_mem_combined (hf.parents identifier (List.mem_filter.mp hidentifier).1)
  · obtain ⟨p, hp, rfl⟩ := List.mem_map.mp hd
    obtain ⟨hmem, hvisible⟩ := List.mem_filter.mp hp
    exact ⟨hname, hf.properties p hmem hvisible⟩
  · exact hmethods _ (fun m hm => hf.methods m (List.mem_append_left _ hm)) _ hprototype d hd
  · exact hmethods _ (fun m hm => hf.methods m (List.mem_append_right _ hm)) _ howner d hd

end

namespace Externs

/-- The externs say exactly what is declared: two lists of features have the same externs if and
only if they declare the same mixins in the same order, each with the same parents, properties and
methods of its instances and its own, and these with the same types, names and annotations. -/
theorem generate_eq_iff {options : EmitOptions} {features features' : List Feature}
    (h : ∀ f ∈ mixins features options, f.IsLegible options)
    (h' : ∀ f ∈ mixins features' options, f.IsLegible options) :
    (generate features options).value = (generate features' options).value ↔
      interfaces features options = interfaces features' options := by
  have hplain : ∀ features : List Feature, (∀ f ∈ mixins features options, f.IsLegible options) →
      ∀ d ∈ declarations features options, d.IsPlain options.inheritance := by
    intro features h d hd
    obtain ⟨f, hf, hd⟩ := List.mem_flatMap.mp hd
    exact isPlain_declarations (h f hf) d hd
  simp only [generate]
  constructor
  · intro htext
    have hdeclarations := text_injective (hplain features h) (hplain features' h') htext
    rw [declarations_eq, declarations_eq] at hdeclarations
    exact MixinInterface.flatMap_declarations_injective hdeclarations
  · intro hinterfaces
    simp only [text, declarations_eq, hinterfaces]

/-- A mixin whose method has a parameter with braces and blanks in its type. -/
def braces : Feature where
  name := "Ui.Braces"
  kinds := ["element-mixin"]
  parents := ["Ui.Base"]
  methods := [{ name := "fit", params := [{ name := "b", type := some "A\x7d a" }] }]

/-- The same with the method as one of the mixin itself. -/
def staticBraces : Feature where
  name := "Ui.Braces"
  kinds := ["element-mixin"]
  parents := ["Ui.Base"]
  staticMethods := [{ name := "fit", params := [{ name := "b", type := some "A\x7d a" }] }]

theorem generate_braces_ne_static :
    mixins [braces] {} = [braces] ∧ mixins [staticBraces] {} = [staticBraces] ∧
      braces.IsLegible {} ∧ staticBraces.IsLegible {} ∧
      (generate [braces] {}).value ≠ (generate [staticBraces] {}).value := by
  have hmethod : Method.IsLegible {}
      { name := "fit", params := [{ name := "b", type := some "A\x7d a" }] } :=
    ⟨by decide, by decide, by decide, by decide⟩
  have hlegible : braces.IsLegible {} :=
    ⟨.inr ⟨"Ui", "Braces", by decide⟩, by decide, by decide, List.forall_mem_singleton.mpr hmethod⟩
  have hstatic : staticBraces.IsLegible {} :=
    ⟨.inr ⟨"Ui", "Braces", by decide⟩, by decide, by decide, List.forall_mem_singleton.mpr hmethod⟩
  have hmixins : mixins [braces] {} = [braces] := by decide
  have hmixins' : mixins [staticBraces] {} = [staticBraces] := by decide
  refine ⟨hmixins, hmixins', hlegible, hstatic, fun htext => ?_⟩
  have hsame := (generate_eq_iff (by simpa [hmixins] using hlegible)
    (by simpa [hmixins'] using hstatic)).mp htext
  exact absurd hsame (by decide)

end Externs

end MixinExterns
