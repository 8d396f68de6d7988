import MixinExterns.Externs.Generate

/-!
What the externs do not show. Features, members and parents that are hidden are dropped, and of the
others what is never written is forgotten; the externs are the same. So no difference between two
lists of features that is gone after pruning can be seen in their externs.
-/

namespace MixinExterns

def Param.pruned (p : Param) : Param := { p with description := none }

/-- The comment with the two tags that count, in this order and each at most once. -/
def DocComment.pruned (d : DocComment) : DocComment where
  tags := ["override", "param"].filter d.tags.contains

def Property.isHidden (p : Property) : Bool :=
  p.name.isEmpty || p.privacy = .ownerOnly || p.inheritedFrom.isSome

/-- The property without its degree of visibility. -/
def Property.pruned (p : Property) : Property := { p with privacy := .everyone }

namespace Method

def isHidden (options : EmitOptions) (m : Method) : Bool :=
  m.name.isEmpty || m.privacy = .ownerOnly ||
    (options.skipInheritedMethods && m.inheritedFrom.isSome)

/-- The method without its degree of visibility, its origin and what its comment says besides the
tags that count. -/
def pruned (m : Method) : Method where
  name := m.name
  params := m.params.map (·.pruned)
  returned := m.returned
  doc := m.doc.map (·.pruned)

/-- The methods that are not hidden, pruned. -/
def prune (options : EmitOptions) (methods : List Method) : List Method :=
  (methods.filter fun m => !m.isHidden options).map (·.pruned)

end Method

namespace Feature

/-- Whether nothing is written for the feature: it is no mixin, is declared in a test directory, has
no name behind its last dot, or lies in a namespace that is not asked for. -/
def isHidden (options : EmitOptions) (f : Feature) : Bool :=
  !f.kinds.contains "element-mixin" || f.sourceRange.any (fun r => r.file.any isTestPath) ||
    f.qualifiedName.base.isEmpty || !options.policy.admits f.qualifiedName.space

/-- The feature without its place and other kinds, and without parents and members that are
hidden. -/
def pruned (options : EmitOptions) (f : Feature) : Feature where
  name := f.name
  kinds := ["element-mixin"]
  parents := f.parents.filter fun p => !p.isEmpty
  properties := (f.properties.filter fun p => !p.isHidden).map (·.pruned)
  methods := Method.prune options f.methods
  staticMethods := if options.staticMethods then Method.prune options f.staticMethods else []

end Feature

/-- The features without what their externs do not show. -/
def Externs.prune (options : EmitOptions) (features : List Feature) : List Feature :=
  (features.filter fun f => !f.isHidden options).map (·.pruned options)

/-- Dropping the hidden items and pruning the others makes no difference to what is made of those
that are shown, if it makes none to what is made of each one. -/
theorem map_filter_prune {α β : Type} {shown hidden : α → Bool} {prune : α → α} {make : α → β}
    (hshown : ∀ a, shown a = !hidden a) (hprune : ∀ a, hidden a = false → shown (prune a) = true)
    (hmake : ∀ a, make (prune a) = make a) (items : List α) :
    ((((items.filter fun a => !hidden a).map prune).filter shown).map make) =
      (items.filter shown).map make := by
  have hall : ∀ b ∈ (items.filter fun a => !hidden a).map prune, shown b = true := by
    intro b hb
    obtain ⟨a, ha, rfl⟩ := List.mem_map.mp hb
    exact hprune a (by simpa using (List.mem_filter.mp ha).2)
  have hfilter : items.filter shown = items.filter fun a => !hidden a :=
    List.filter_congr fun a _ => hshown a
  rw [List.filter_eq_self.mpr hall, List.map_map, hfilter]
  exact List.map_congr_left fun a _ => hmake a

@[simp]
theorem Param.bareName_pruned (p : Param) : p.pruned.bareName = p.bareName := rfl

@[simp]
theorem Param.annotatedType_pruned (p : Param) : p.pruned.annotatedType = p.annotatedType := rfl

theorem Property.isVisible_eq (p : Property) : p.isVisible = !p.isHidden := by
  simp [isVisible, isHidden, Privacy.isPrivate, isInherited]

theorem Property.isVisible_pruned {p : Property} (h : p.isHidden = false) :
    p.pruned.isVisible = true := by
  simp_all [isVisible, isHidden, pruned, Privacy.isPrivate, isInherited]

theorem Property.declaration_pruned (typeName : String) (p : Property) :
    p.pruned.declaration typeName = p.declaration typeName := rfl

namespace Method

variable {options : EmitOptions}

theorem isIncluded_eq (m : Method) : m.isIncluded options = !m.isHidden options := by
  simp [isIncluded, isVisible, isHidden, Privacy.isPrivate, isInherited]

theorem isIncluded_pruned {m : Method} (h : m.isHidden options = false) :
    m.pruned.isIncluded options = true := by
  simp_all [isIncluded, isVisible, isHidden, pruned, Privacy.isPrivate, isInherited]

/-- The tags that count are found in a pruned comment if they were there before. -/
theorem hasTag_pruned {title : String} (h : title = "override" ∨ title = "param") (m : Method) :
    m.pruned.hasTag title = m.hasTag title := by
  obtain ⟨name, params, returned, privacy, inheritedFrom, doc⟩ := m
  cases doc with
  | none => rfl
  | some d => rcases h with rfl | rfl <;> simp [hasTag, pruned, DocComment.pruned]

theorem annotations_pruned (m : Method) : m.pruned.annotations options = m.annotations options := by
  have hoverride : m.pruned.isOverride = m.isOverride := hasTag_pruned (.inl rfl) m
  have hparam : m.pruned.documentsParams = m.documentsParams := hasTag_pruned (.inr rfl) m
  have hresult : m.pruned.returnType = m.returnType := rfl
  simp only [annotations, omitsParams, annotatedResult, hoverride, hparam, hresult]
  simp [pruned, Function.comp_def]

theorem declaration_pruned (target : String) (m : Method) :
    m.pruned.declaration options target = m.declaration options target := by
  simp only [declaration, annotations_pruned]
  simp [pruned, Function.comp_def]

theorem declarations_prune (target : String) (methods : List Method) :
    ((prune options methods).filter (·.isIncluded options)).map (·.declaration options target) =
      (methods.filter (·.isIncluded options)).map (·.declaration options target) :=
  map_filter_prune isIncluded_eq (fun _ => isIncluded_pruned) (declaration_pruned target) methods

end Method

namespace Feature

variable {options : EmitOptions}

theorem verdict_eq_emitted (f : Feature) : decide (f.verdict options = .emitted) =
    (!f.qualifiedName.base.isEmpty && options.policy.admits f.qualifiedName.space) := by
  unfold verdict
  cases f.qualifiedName.base.isEmpty with
  | true => rfl
  | false => cases options.policy.admits f.qualifiedName.space <;> rfl

theorem isEmitted_eq (f : Feature) : f.isEmitted options = !f.isHidden options := by
  have hsource : f.isTest = f.sourceRange.any fun r => r.file.any isTestPath := by
    unfold isTest sourceFile
    cases f.sourceRange <;> rfl
  simp [isEmitted, verdict_eq_emitted, isSelected, isMixin, hsource, isHidden, Bool.and_assoc]

theorem isEmitted_pruned {f : Feature} (h : f.isHidden options = false) :
    (f.pruned options).isEmitted options = true := by
  rw [isEmitted_eq]
  simp_all [isHidden, pruned, qualifiedName]

theorem declarations_pruned (f : Feature) :
    (f.pruned options).declarations options = f.declarations options := by
  have hname : (f.pruned options).typeName = f.typeName := rfl
  have hparents : (f.pruned options).parentTypes = f.parentTypes := by
    simp [parentTypes, pruned]
  have hproperties : ((f.pruned options).properties.filter (·.isVisible)).map
      (·.declaration f.typeName) =
      (f.properties.filter (·.isVisible)).map (·.declaration f.typeName) :=
    map_filter_prune Property.isVisible_eq (fun _ => Property.isVisible_pruned)
      (Property.declaration_pruned f.typeName) f.properties
  have hmethods : ((f.pruned options).methods.filter (·.isIncluded options)).map
      (·.declaration options (f.typeName ++ ".prototype")) =
      (f.methods.filter (·.isIncluded options)).map
        (·.declaration options (f.typeName ++ ".prototype")) :=
    Method.declarations_prune _ f.methods
  unfold declarations
  rw [hname, hparents, hproperties, hmethods]
  cases hstatics : options.staticMethods with
  | false => rfl
  | true =>
    have hkept : (f.pruned options).staticMethods = Method.prune options f.staticMethods := by
      simp [pruned, hstatics]
    rw [if_pos rfl, if_pos rfl, hkept, Method.declarations_prune]

end Feature

namespace Externs

theorem declarations_prune (options : EmitOptions) (features : List Feature) :
    declarations (prune options features) options = declarations features options := by
  have hmixins : (mixins (prune options features) options).map (·.declarations options) =
      (mixins features options).map (·.declarations options) :=
    map_filter_prune Feature.isEmitted_eq (fun _ => Feature.isEmitted_pruned)
      Feature.declarations_pruned features
  unfold declarations
  rw [List.flatMap_def, List.flatMap_def, hmixins]

/-- What is hidden has no influence on the externs: pruned features have the same externs, and so
have any features that are alike after pruning. -/
theorem generate_prune (options : EmitOptions) :
    (∀ features, (generate (prune options features) options).value =
      (generate features options).value) ∧
    ∀ features features', prune options features = prune options features' →
      (generate features options).value = (generate features' options).value := by
  have hprune : ∀ features, (generate (prune options features) options).value =
      (generate features options).value := by
    intro features
    simp only [generate, text, declarations_prune]
  refine ⟨hprune, fun features features' h => ?_⟩
  rw [← hprune features, ← hprune features', h]

/-- A mixin as its owner sees it, and what becomes known of it. -/
def guarded : Feature where
  name := "Ui.Guarded"
  kinds := ["class", "element-mixin"]
  sourceRange := some { file := some "lib/guarded.js" }
  parents := ["", "Ui.Base"]
  properties := [{ name := "key", privacy := .ownerOnly, type := some "Secret" },
    { name := "open", privacy := .heirs }]
  methods := [{ name := "unlock", privacy := .ownerOnly },
    { name := "close", params := [{ name := "hard", description := some "For good." }],
      doc := some { tags := ["param", "since", "override", "param"] } }]

def guardedOutline : Feature where
  name := "Ui.Guarded"
  kinds := ["element-mixin"]
  parents := ["Ui.Base"]
  properties := [{ name := "open" }, { name := "base", inheritedFrom := some "Ui.Base" }]
  methods := [
    { name := "close", params := [{ name := "hard" }],
      doc := some { tags := ["override", "param"] } }]

theorem generate_prune_guarded :
    prune {} [guarded, { name := "Helper" }] = prune {} [guardedOutline] ∧
      (generate [guarded, { name := "Helper" }] {}).value =
        (generate [guardedOutline] {}).value := by
  have hprune : prune {} [guarded, { name := "Helper" }] = prune {} [guardedOutline] := by decide
  exact ⟨hprune, (generate_prune {}).2 _ _ hprune⟩

end Externs

end MixinExterns
