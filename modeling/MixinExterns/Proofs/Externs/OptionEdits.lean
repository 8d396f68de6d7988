import MixinExterns.Proofs.Externs.Pruning

/-!
Options as edits of the features. What an option makes of some features is what its other value
makes of the edited ones, whatever the other options are. So any options come down to the same
fixed ones on features that are edited once for each option, in any order.
-/

namespace MixinExterns

/-- Whether the name of the feature is that of a namespace, a dot, and a part without dots. -/
def Feature.isIn (space : String) (f : Feature) : Bool :=
  (space ++ ".").toList.isPrefixOf f.name.toList &&
    !(f.name.toList.drop (space ++ ".").length).contains '.'

/-- The method with the result `undefined` if it declares none, unless it overrides another one. -/
def Method.declaringResult (m : Method) : Method :=
  if m.isOverride || m.returnType.isSome then m
  else { m with returned := some { type := some "undefined" } }

/-- The method with a tag for a parameter, if it overrides another one. -/
def Method.documentingParams (m : Method) : Method :=
  if m.isOverride then { m with doc := m.doc.map fun d => { tags := d.tags ++ ["param"] } } else m

namespace Feature

def withoutInherited (f : Feature) : Feature :=
  { f with
    methods := f.methods.filter fun m => !m.isInherited
    staticMethods := f.staticMethods.filter fun m => !m.isInherited }

def withoutStatics (f : Feature) : Feature := { f with staticMethods := [] }

/-- The feature with each of its methods edited, those of the mixin itself too. -/
def mapMethods (edit : Method → Method) (f : Feature) : Feature :=
  { f with methods := f.methods.map edit, staticMethods := f.staticMethods.map edit }

end Feature

/-- An option that stands for an edit of the features. -/
inductive Setting where
  | space
  | inherited
  | statics
  | results
  | overrides
  deriving DecidableEq, Repr

namespace Setting

/-- The options with the value of this one that asks for no edit. -/
def fix : Setting → EmitOptions → EmitOptions
  | space, o => { o with policy := .any }
  | inherited, o => { o with skipInheritedMethods := false }
  | statics, o => { o with staticMethods := true }
  | results, o => { o with undefinedReturn := false }
  | overrides, o => { o with suppressOverrideParams := true }

/-- The edit that the value of this option stands for. -/
def edit : Setting → EmitOptions → List Feature → List Feature
  | space, o, fs => o.policy.space?.elim fs fun space => fs.filter (·.isIn space)
  | inherited, o, fs => if o.skipInheritedMethods then fs.map (·.withoutInherited) else fs
  | statics, o, fs => if o.staticMethods then fs else fs.map (·.withoutStatics)
  | results, o, fs =>
    if o.undefinedReturn then fs.map (·.mapMethods Method.declaringResult) else fs
  | overrides, o, fs =>
    if o.suppressOverrideParams then fs else fs.map (·.mapMethods Method.documentingParams)

/-- The features with the edits of some options, one after the other. -/
def reduce : List Setting → EmitOptions → List Feature → List Feature
  | [], _, fs => fs
  | s :: order, o, fs => reduce order (s.fix o) (s.edit o fs)

end Setting

/-- The options with the values that ask for no edits. The tag of parents and the header stay. -/
def EmitOptions.fixed (o : EmitOptions) : EmitOptions where
  policy := .any
  suppressOverrideParams := true
  skipInheritedMethods := false
  staticMethods := true
  undefinedReturn := false
  inheritance := o.inheritance
  header := o.header

theorem Feature.isIn_iff {space : String} {f : Feature} :
    f.isIn space = true ↔ ∃ base, '.' ∉ base.toList ∧ f.name = space ++ "." ++ base := by
  simp only [isIn, Bool.and_eq_true, List.isPrefixOf_iff_prefix, Bool.not_eq_true',
    List.contains_eq_mem, decide_eq_false_iff_not]
  constructor
  · rintro ⟨⟨base, hname⟩, hdot⟩
    rw [← hname, ← String.length_toList, List.drop_left] at hdot
    exact ⟨String.ofList base, by simpa using hdot, String.toList_inj.mp (by simp [← hname])⟩
  · rintro ⟨base, hdot, hname⟩
    refine ⟨⟨base.toList, by simp [hname]⟩, ?_⟩
    rw [hname, String.toList_append, ← String.length_toList, List.drop_left]
    exact hdot

theorem Feature.isIn_eq (space : String) (f : Feature) :
    f.isIn space = decide (f.qualifiedName.space = some space) := by
  rw [Bool.eq_iff_iff, decide_eq_true_iff, isIn_iff]
  exact QualifiedName.space_ofIdentifier_eq_some.symm

namespace Method

variable {o o' : EmitOptions}

/-- Whether a method is included does not depend on its result and its comment. -/
theorem isIncluded_declaringResult (m : Method) :
    m.declaringResult.isIncluded o = m.isIncluded o := by
  unfold declaringResult
  split <;> rfl

theorem isIncluded_documentingParams (m : Method) :
    m.documentingParams.isIncluded o = m.isIncluded o := by
  unfold documentingParams
  split <;> rfl

/-- A result that is declared is annotated as one that is not was before. -/
theorem declaration_declaringResult (target : String) (m : Method) :
    m.declaringResult.declaration { o with undefinedReturn := false } target =
      m.declaration { o with undefinedReturn := true } target := by
  unfold declaringResult
  cases hoverride : m.isOverride with
  | true => simp [declaration, annotations, annotatedResult, omitsParams, hoverride]
  | false =>
    cases hresult : m.returnType with
    | some type => simp [declaration, annotations, annotatedResult, omitsParams, hoverride, hresult]
    | none =>
      have hsame : { m with returned := some { type := some "undefined" } }.isOverride = false :=
        hoverride
      have hdeclared : { m with returned := some { type := some "undefined" } }.returnType =
          some "undefined" := rfl
      simp [declaration, annotations, annotatedResult, omitsParams, hoverride, hsame, hresult,
        hdeclared]

theorem hasTag_documentingParams (m : Method) (title : String) :
    m.documentingParams.hasTag title = (m.hasTag title || m.isOverride && title = "param") := by
  unfold documentingParams
  cases hoverride : m.isOverride with
  | false => simp
  | true =>
    cases hdoc : m.doc with
    | none => simp [isOverride, hasTag, hdoc] at hoverride
    | some d => simp [hasTag, hdoc]

/-- The parameters of a method that documents one are not left to the method it overrides. -/
theorem declaration_documentingParams (target : String) (m : Method) :
    m.documentingParams.declaration { o with suppressOverrideParams := true } target =
      m.declaration { o with suppressOverrideParams := false } target := by
  have hoverride : m.documentingParams.isOverride = m.isOverride := by
    simp [isOverride, hasTag_documentingParams]
  have hdocuments : m.documentingParams.documentsParams = (m.documentsParams || m.isOverride) := by
    simp [documentsParams, hasTag_documentingParams]
  have hparams : m.documentingParams.params = m.params := by unfold documentingParams; split <;> rfl
  have hname : m.documentingParams.name = m.name := by unfold documentingParams; split <;> rfl
  have hresult : m.documentingParams.returnType = m.returnType := by
    unfold documentingParams; split <;> rfl
  have homits : m.documentingParams.omitsParams { o with suppressOverrideParams := true } =
      m.omitsParams { o with suppressOverrideParams := false } := by
    simp only [omitsParams, hoverride, hdocuments]
    cases m.isOverride <;> simp
  simp only [declaration, annotations, annotatedResult, homits, hoverride, hparams, hname, hresult]

theorem declarations_map {edit : Method → Method}
    (hincluded : ∀ m, (edit m).isIncluded o' = m.isIncluded o)
    (hedit : ∀ target m, (edit m).declaration o' target = m.declaration o target)
    (target : String) (methods : List Method) :
    ((methods.map edit).filter (·.isIncluded o')).map (·.declaration o' target) =
      (methods.filter (·.isIncluded o)).map (·.declaration o target) := by
  simp only [List.filter_map, List.map_map, Function.comp_def, hincluded, hedit]

/-- Without the inherited methods nothing is left to be skipped. -/
theorem filter_isIncluded_inherited (methods : List Method) :
    (methods.filter fun m => !m.isInherited).filter
        (·.isIncluded { o with skipInheritedMethods := false }) =
      methods.filter (·.isIncluded { o with skipInheritedMethods := true }) := by
  rw [List.filter_filter]
  refine List.filter_congr fun m _ => ?_
  simp [isIncluded]

end Method

namespace Feature

variable {o o' : EmitOptions}

theorem declarations_mapMethods {edit : Method → Method}
    (hinheritance : o'.inheritance = o.inheritance) (hstatics : o'.staticMethods = o.staticMethods)
    (hincluded : ∀ m, (edit m).isIncluded o' = m.isIncluded o)
    (hedit : ∀ target m, (edit m).declaration o' target = m.declaration o target) (f : Feature) :
    (f.mapMethods edit).declarations o' = f.declarations o := by
  have hname : (f.mapMethods edit).typeName = f.typeName := rfl
  have hparents : (f.mapMethods edit).parentTypes = f.parentTypes := rfl
  have hmethods := Method.declarations_map hincluded hedit (f.typeName ++ ".prototype") f.methods
  have hown := Method.declarations_map hincluded hedit f.typeName f.staticMethods
  unfold declarations
  rw [hname, hparents, hinheritance, hstatics]
  unfold mapMethods
  dsimp only
  rw [hmethods, hown]

theorem declarations_withoutInherited (f : Feature) :
    f.withoutInherited.declarations { o with skipInheritedMethods := false } =
      f.declarations { o with skipInheritedMethods := true } := by
  unfold declarations withoutInherited
  dsimp only
  rw [Method.filter_isIncluded_inherited, Method.filter_isIncluded_inherited]
  rfl

theorem declarations_withoutStatics (f : Feature) :
    f.withoutStatics.declarations { o with staticMethods := true } =
      f.declarations { o with staticMethods := false } := rfl

theorem isEmitted_congr {f f' : Feature} (hname : f'.name = f.name) (hkinds : f'.kinds = f.kinds)
    (hsource : f'.sourceRange = f.sourceRange) (hpolicy : o'.policy = o.policy) :
    f'.isEmitted o' = f.isEmitted o := by
  simp only [isEmitted, isSelected, isMixin, isTest, sourceFile, verdict_eq_emitted, qualifiedName,
    hname, hkinds, hsource, hpolicy]

theorem isEmitted_only (space : String) (f : Feature) :
    f.isEmitted { o with policy := .only space } =
      (f.isEmitted { o with policy := .any } && f.isIn space) := by
  simp only [isEmitted, verdict_eq_emitted, isIn_eq, NamespacePolicy.admits, Bool.and_true,
    Bool.and_assoc]

end Feature

namespace Externs

variable {o o' : EmitOptions}

/-- Features and options that come to the same declarations under the same header have the same
externs. -/
theorem value_generate_congr {features features' : List Feature} (hheader : o'.header = o.header)
    (h : declarations features' o' = declarations features o) :
    (generate features' o').value = (generate features o).value := by
  simp only [generate, text, hheader, h]

/-- Features may be edited one by one if each declares the same afterwards. -/
theorem value_generate_map {edit : Feature → Feature} (hheader : o'.header = o.header)
    (hemitted : ∀ f, (edit f).isEmitted o' = f.isEmitted o)
    (hedit : ∀ f, (edit f).declarations o' = f.declarations o) (features : List Feature) :
    (generate (features.map edit) o').value = (generate features o).value := by
  refine value_generate_congr hheader ?_
  simp only [declarations, mixins, List.filter_map, List.flatMap_map, Function.comp_def, hemitted,
    hedit]

theorem value_generate_only (space : String) (features : List Feature) :
    (generate (features.filter (·.isIn space)) { o with policy := .any }).value =
      (generate features { o with policy := .only space }).value := by
  refine value_generate_congr rfl ?_
  unfold declarations mixins
  rw [List.filter_filter]
  simp only [← Feature.isEmitted_only]
  rfl

theorem value_generate_withoutInherited (features : List Feature) :
    (generate (features.map (·.withoutInherited)) { o with skipInheritedMethods := false }).value =
      (generate features { o with skipInheritedMethods := true }).value := by
  refine value_generate_map ?_ (fun f => ?_) Feature.declarations_withoutInherited features
  · rfl
  · exact Feature.isEmitted_congr rfl rfl rfl rfl

theorem value_generate_withoutStatics (features : List Feature) :
    (generate (features.map (·.withoutStatics)) { o with staticMethods := true }).value =
      (generate features { o with staticMethods := false }).value := by
  refine value_generate_map ?_ (fun f => ?_) Feature.declarations_withoutStatics features
  · rfl
  · exact Feature.isEmitted_congr rfl rfl rfl rfl

/-- Methods may be edited one by one if each is included and declared as before. -/
theorem value_generate_mapMethods {edit : Method → Method} (hheader : o'.header = o.header)
    (hpolicy : o'.policy = o.policy) (hinheritance : o'.inheritance = o.inheritance)
    (hstatics : o'.staticMethods = o.staticMethods)
    (hincluded : ∀ m, (edit m).isIncluded o' = m.isIncluded o)
    (hedit : ∀ target m, (edit m).declaration o' target = m.declaration o target)
    (features : List Feature) :
    (generate (features.map (·.mapMethods edit)) o').value = (generate features o).value := by
  refine value_generate_map hheader (fun f => ?_) (fun f => ?_) features
  · exact Feature.isEmitted_congr rfl rfl rfl hpolicy
  · exact Feature.declarations_mapMethods hinheritance hstatics hincluded hedit f

theorem value_generate_declaringResult (features : List Feature) :
    (generate (features.map (·.mapMethods Method.declaringResult))
      { o with undefinedReturn := false }).value =
      (generate features { o with undefinedReturn := true }).value := by
  apply value_generate_mapMethods
  case hincluded => exact Method.isIncluded_declaringResult
  case hedit => exact Method.declaration_declaringResult
  all_goals rfl

theorem value_generate_documentingParams (features : List Feature) :
    (generate (features.map (·.mapMethods Method.documentingParams))
      { o with suppressOverrideParams := true }).value =
      (generate features { o with suppressOverrideParams := false }).value := by
  apply value_generate_mapMethods
  case hincluded => exact Method.isIncluded_documentingParams
  case hedit => exact Method.declaration_documentingParams
  all_goals rfl

end Externs

namespace Setting

/-- An edit makes up for the value of one option, whatever the others are. -/
theorem value_generate_edit (s : Setting) (o : EmitOptions) (features : List Feature) :
    (generate (s.edit o features) (s.fix o)).value = (generate features o).value := by
  obtain ⟨policy, suppress, skip, statics, undefinedReturn, inheritance, header⟩ := o
  cases s with
  | space =>
    cases policy with
    | any => rfl
    | only space =>
      exact Externs.value_generate_only (o := ⟨.any, suppress, skip, statics, undefinedReturn,
        inheritance, header⟩) space features
  | inherited =>
    cases skip with
    | false => rfl
    | true =>
      exact Externs.value_generate_withoutInherited (o := ⟨policy, suppress, true, statics,
        undefinedReturn, inheritance, header⟩) features
  | statics =>
    cases statics with
    | true => rfl
    | false =>
      exact Externs.value_generate_withoutStatics (o := ⟨policy, suppress, skip, false,
        undefinedReturn, inheritance, header⟩) features
  | results =>
    cases undefinedReturn with
    | false => rfl
    | true =>
      exact Externs.value_generate_declaringResult (o := ⟨policy, suppress, skip, statics, true,
        inheritance, header⟩) features
  | overrides =>
    cases suppress with
    | true => rfl
    | false =>
      exact Externs.value_generate_documentingParams (o := ⟨policy, false, skip, statics,
        undefinedReturn, inheritance, header⟩) features

theorem value_generate_reduce (order : List Setting) (o : EmitOptions) (features : List Feature) :
    (generate (reduce order o features) (order.foldl (fun o s => s.fix o) o)).value =
      (generate features o).value := by
  induction order generalizing o features with
  | nil => rfl
  | cons s order ih => exact (ih _ _).trans (s.value_generate_edit o features)

/-- An option that is fixed stays so when others are. -/
theorem fix_fix_of_fixed {s : Setting} {o : EmitOptions} (h : s.fix o = o) (t : Setting) :
    s.fix (t.fix o) = t.fix o := by
  rw [← h]
  cases s <;> cases t <;> rfl

theorem fix_foldl_fix {s : Setting} {order : List Setting} {o : EmitOptions}
    (h : s ∈ order ∨ s.fix o = o) :
    s.fix (order.foldl (fun o s => s.fix o) o) = order.foldl (fun o s => s.fix o) o := by
  induction order generalizing o with
  | nil => exact h.resolve_left (by simp)
  | cons t order ih =>
    refine ih ?_
    rcases h with h | h
    · rcases List.mem_cons.mp h with rfl | h
      · exact .inr (by cases s <;> rfl)
      · exact .inl h
    · exact .inr (fix_fix_of_fixed h t)

theorem fixed_foldl_fix (order : List Setting) (o : EmitOptions) :
    (order.foldl (fun o s => s.fix o) o).fixed = o.fixed := by
  induction order generalizing o with
  | nil => rfl
  | cons s order ih => exact (ih _).trans (by cases s <;> rfl)

/-- In whatever order all options are fixed, they have the same values at the end. -/
theorem foldl_fix_eq_fixed {order : List Setting} (h : ∀ s, s ∈ order) (o : EmitOptions) :
    order.foldl (fun o s => s.fix o) o = o.fixed := by
  have hfixed (s : Setting) := fix_foldl_fix (o := o) (.inl (h s))
  rw [← fixed_foldl_fix order o]
  generalize order.foldl (fun o s => s.fix o) o = o' at hfixed
  calc
    o' = space.fix (inherited.fix (statics.fix (results.fix (overrides.fix o')))) := by
      rw [hfixed overrides, hfixed results, hfixed statics, hfixed inherited, hfixed space]
    _ = o'.fixed := rfl

end Setting

/-- Each option comes to an edit of the features, whatever the other options are: the namespace that
is asked for to the features whose names lie in it, skipping inherited methods to deleting them,
leaving out static methods to a mixin without any, results that are undefined to declaring them, and
keeping the parameters of overriding methods to a tag for one in their comments. So with the edits
for all options, made in any order, the externs under any options are those under fixed ones. -/
theorem generate_eq_edited (o : EmitOptions) (features : List Feature) :
    (∀ space, (generate features { o with policy := .only space }).value =
      (generate (features.filter (·.isIn space)) { o with policy := .any }).value) ∧
    (∀ (space : String) (f : Feature),
      f.isIn space = true ↔ ∃ base, '.' ∉ base.toList ∧ f.name = space ++ "." ++ base) ∧
    (generate features { o with skipInheritedMethods := true }).value =
      (generate (features.map (·.withoutInherited))
        { o with skipInheritedMethods := false }).value ∧
    (generate features { o with staticMethods := false }).value =
      (generate (features.map (·.withoutStatics)) { o with staticMethods := true }).value ∧
    (generate features { o with undefinedReturn := true }).value =
      (generate (features.map (·.mapMethods Method.declaringResult))
        { o with undefinedReturn := false }).value ∧
    (generate features { o with suppressOverrideParams := false }).value =
      (generate (features.map (·.mapMethods Method.documentingParams))
        { o with suppressOverrideParams := true }).value ∧
    ∀ order : List Setting, (∀ s, s ∈ order) →
      (generate features o).value = (generate (Setting.reduce order o features) o.fixed).value := by
  refine ⟨fun space => (Externs.value_generate_only space features).symm,
    fun _ _ => Feature.isIn_iff, (Externs.value_generate_withoutInherited features).symm,
    (Externs.value_generate_withoutStatics features).symm,
    (Externs.value_generate_declaringResult features).symm,
    (Externs.value_generate_documentingParams features).symm, fun order hall => ?_⟩
  rw [← Setting.foldl_fix_eq_fixed hall o]
  exact (Setting.value_generate_reduce order o features).symm

end MixinExterns
