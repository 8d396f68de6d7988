import MixinExterns.Proofs.Externs.Layout

/-!
The externs of mixins whose names and types can be read back. They are a well-formed script of
exactly the declarations that were to be written, unless a parameter without a name stands in front
of another one.
-/

namespace MixinExterns

open Script

variable {features : List Feature} {options : EmitOptions}

/-- The statements that the declarations of a mixin are read back as. -/
def Feature.statements (options : EmitOptions) (f : Feature) : List Statement :=
  .function f.typeName ::
    (f.properties.filter (·.isVisible)).map (fun _ => .member) ++
    (f.includedMethods options ++ f.includedStatics options).map
      fun m => .assignedFunction (m.params.map fun p => some p.bareName)

/-- Whether the names and types in the declarations of a mixin can be read back, those of all
parameters included. -/
structure Feature.IsWellFormed (options : EmitOptions) (f : Feature) : Prop
    extends Feature.IsReadable options f where
  params : ∀ m ∈ f.includedMethods options ++ f.includedStatics options,
    ∀ p ∈ m.params, isIdentifier p.bareName = true

theorem Feature.isNamed_stubs {f : Feature} (hf : f.IsReadable options) :
    ∀ stub ∈ f.stubs options, stub.IsNamed := by
  have howner := isIdentifier_combined hf.name
  have hparams : ∀ m ∈ f.includedMethods options ++ f.includedStatics options,
      ∀ name ∈ m.paramNames, IsParamName name := by
    intro m hm name hname
    obtain ⟨p, hp, rfl⟩ := List.mem_map.mp hname
    exact (hf.methods m hm).params p hp
  intro stub hstub
  simp only [Feature.stubs, List.mem_append, List.mem_cons, List.mem_map] at hstub
  rcases hstub with ((rfl | ⟨p, -, rfl⟩) | ⟨m, hm, rfl⟩) | ⟨m, hm, rfl⟩
  · exact howner
  · exact ⟨howner, by simp⟩
  · exact ⟨howner, by simp, hparams m (List.mem_append_left _ hm)⟩
  · exact ⟨howner, by simp, hparams m (List.mem_append_right _ hm)⟩

theorem Feature.hasGap_stubs {f : Feature} :
    (∃ stub ∈ f.stubs options, stub.HasGap) ↔
      ∃ m ∈ f.includedMethods options ++ f.includedStatics options, LeavesGap m.paramNames := by
  simp only [Feature.stubs, List.mem_append, List.mem_cons, List.mem_map]
  constructor
  · rintro ⟨stub, ((rfl | ⟨p, -, rfl⟩) | ⟨m, hm, rfl⟩) | ⟨m, hm, rfl⟩, hgap⟩
    · exact absurd hgap id
    · exact absurd hgap id
    · exact ⟨m, .inl hm, hgap⟩
    · exact ⟨m, .inr hm, hgap⟩
  · rintro ⟨m, hm | hm, hgap⟩
    · exact ⟨_, .inl (.inr ⟨m, hm, rfl⟩), hgap⟩
    · exact ⟨_, .inr ⟨m, hm, rfl⟩, hgap⟩

theorem not_leavesGap_of_named {names : List String} (h : ∀ name ∈ names, name ≠ "") :
    ¬ LeavesGap names := by
  intro hgap
  exact h "" (List.mem_of_mem_dropLast hgap) rfl

theorem boundNames_of_named {names : List String} (h : ∀ name ∈ names, name ≠ "") :
    boundNames names = names.map some := by
  have hfilter : names.filter (· ≠ "") = names := by simpa using h
  rw [boundNames, hfilter]

theorem boundNames_params {m : Method} (h : ∀ p ∈ m.params, isIdentifier p.bareName = true) :
    boundNames m.paramNames = m.params.map fun p => some p.bareName := by
  rw [boundNames_of_named, Method.paramNames, List.map_map]
  · rfl
  · intro name hname
    obtain ⟨p, hp, rfl⟩ := List.mem_map.mp hname
    exact ne_empty_of_identifierName (isIdentifierName_of_identifier (h p hp))

theorem Feature.statements_stubs {f : Feature} (hf : f.IsWellFormed options) :
    (f.stubs options).map (·.statement) = f.statements options := by
  have hmethods (included : List Method)
      (hincluded : ∀ m ∈ included, ∀ p ∈ m.params, isIdentifier p.bareName = true) :
      included.map (fun m => Statement.assignedFunction (boundNames m.paramNames)) =
        included.map fun m => .assignedFunction (m.params.map fun p => some p.bareName) := by
    apply List.map_congr_left
    intro m hm
    rw [boundNames_params (hincluded m hm)]
  have hinstance := hmethods (f.includedMethods options)
    fun m hm => hf.params m (List.mem_append_left _ hm)
  have hstatic := hmethods (f.includedStatics options)
    fun m hm => hf.params m (List.mem_append_right _ hm)
  simp only [Feature.stubs, Feature.statements, List.map_append, List.map_cons, List.map_map,
    Function.comp_def, Stub.statement, hinstance, hstatic]
  simp

namespace Externs

theorem check_value (text : String) : (check text).value = parse text := by
  unfold check
  cases parse text <;> rfl

theorem isNamed_stubs (h : ∀ f ∈ mixins features options, f.IsReadable options) :
    ∀ stub ∈ stubs features options, stub.IsNamed := by
  intro stub hstub
  obtain ⟨f, hf, hstub⟩ := List.mem_flatMap.mp hstub
  exact Feature.isNamed_stubs (h f hf) stub hstub

theorem hasGap_stubs :
    (∃ stub ∈ stubs features options, stub.HasGap) ↔
      ∃ f ∈ mixins features options, ∃ m ∈ f.includedMethods options ++ f.includedStatics options,
        LeavesGap m.paramNames := by
  constructor
  · rintro ⟨stub, hstub, hgap⟩
    obtain ⟨f, hf, hstub⟩ := List.mem_flatMap.mp hstub
    exact ⟨f, hf, Feature.hasGap_stubs.mp ⟨stub, hstub, hgap⟩⟩
  · rintro ⟨f, hf, hgap⟩
    obtain ⟨stub, hstub, hgap⟩ := Feature.hasGap_stubs.mpr hgap
    exact ⟨stub, List.mem_flatMap.mpr ⟨f, hf, hstub⟩, hgap⟩

/-- The externs of mixins that can be read back are a script of their code, if no parameter without
a name stands in front of another one. -/
theorem parse_text (hmixins : ∀ f ∈ mixins features options, f.IsReadable options)
    (hheader : Inert options.header.toList)
    (hgap : ¬ ∃ stub ∈ stubs features options, stub.HasGap) :
    parse (text features options) = .ok ((stubs features options).map (·.statement)) := by
  have hstatements := statementsOf_stubs (isNamed_stubs hmixins)
    (fun stub hstub h => hgap ⟨stub, hstub, h⟩) (lexemes_text hmixins hheader)
  rw [parse, hstatements]
  rfl

theorem parse_text_gap (hmixins : ∀ f ∈ mixins features options, f.IsReadable options)
    (hheader : Inert options.header.toList)
    (hgap : ∃ stub ∈ stubs features options, stub.HasGap) :
    ∃ place, parse (text features options) = .error place := by
  obtain ⟨place, hplace⟩ := statementsOf_gap (isNamed_stubs hmixins) hgap
    (lexemes_text hmixins hheader)
  exact ⟨_, by rw [parse, hplace]; rfl⟩

/-- Well-formed externs parse to exactly the declarations they stand for: of each emitted mixin, in
order, its record, a member for each visible property, and a function with the names of its
parameters for each included method of the instances and then of the mixin itself. -/
theorem check_generate (features : List Feature) (options : EmitOptions)
    (hmixins : ∀ f ∈ mixins features options, f.IsWellFormed options)
    (hheader : Inert options.header.toList) :
    (check (generate features options).value).value =
      .ok ((mixins features options).flatMap (·.statements options)) := by
  have hreadable : ∀ f ∈ mixins features options, f.IsReadable options :=
    fun f hf => (hmixins f hf).toIsReadable
  have hgap : ¬ ∃ stub ∈ stubs features options, stub.HasGap := by
    rw [hasGap_stubs]
    rintro ⟨f, hf, m, hm, hgap⟩
    refine not_leavesGap_of_named (fun name hname => ?_) hgap
    obtain ⟨p, hp, rfl⟩ := List.mem_map.mp hname
    exact ne_empty_of_identifierName
      (isIdentifierName_of_identifier ((hmixins f hf).params m hm p hp))
  have hstatements : (stubs features options).map (·.statement) =
      (mixins features options).flatMap (·.statements options) := by
    rw [stubs, List.map_flatMap]
    exact List.flatMap_congr fun f hf => Feature.statements_stubs (hmixins f hf)
  have htext : (generate features options).value = text features options := by
    simp only [generate]
  rw [htext, check_value, parse_text hreadable hheader hgap, hstatements]

/-- The header that is written unless another is given is two closed comments. -/
theorem inert_defaultHeader : Inert defaultHeader.toList := by
  have htext : defaultHeader.toList =
      '/' :: '*' :: ((defaultHeader.toList.drop 2).take 175 ++ '*' :: '/' :: '\n' ::
        '/' :: '*' :: (" eslint-disable ".toList ++ ['*', '/'])) := by decide +kernel
  rw [htext]
  exact .comment (by decide +kernel) (.blank (by decide) (.of_comment (by decide)))

def clickable : Feature where
  name := "Ui.Clickable"
  kinds := ["element-mixin"]
  parents := ["Ui.Base", ""]
  properties := [{ name := "disabled", type := some "boolean" },
    { name := "secret", privacy := .ownerOnly }]
  methods := [{ name := "click", params := [{ name := "event" }, { name := "...rest" }] }]
  staticMethods := [{ name := "of", returned := some { type := some "Object" } }]

theorem isWellFormed_clickable : clickable.IsWellFormed {} where
  name := .inr ⟨"Ui", "Clickable", by decide⟩
  parents := by decide
  properties := by decide
  methods := by decide
  params := by decide

theorem check_generate_clickable :
    (check (generate [clickable] {}).value).value = .ok
      [.function "Ui_Clickable", .member, .assignedFunction [some "event", some "rest"],
        .assignedFunction []] := by
  have hmixins : mixins [clickable] {} = [clickable] := by decide
  have hwellFormed : ∀ f ∈ mixins [clickable] {}, f.IsWellFormed {} := by
    simpa [hmixins] using isWellFormed_clickable
  have h := check_generate [clickable] {} hwellFormed inert_defaultHeader
  rw [h, hmixins]
  decide

end Externs

end MixinExterns
