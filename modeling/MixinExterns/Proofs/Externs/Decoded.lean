import MixinExterns.Proofs.Dump.Stages
import MixinExterns.Proofs.Dump.WellNamed
import MixinExterns.Proofs.Externs.WellFormed
import MixinExterns.Proofs.Results

/-!
The externs of dumps that leave out fields or give them values of other kinds. What has no name is
left out, except for a parameter: it is written as nothing at all, which is no parameter list if
another one follows.
-/

namespace MixinExterns

open Json (Value Cursor)
open Script

namespace Dump

/-- The features of a well-named document have no names or proper ones. -/
theorem document_of_wellNamed {v : Value} {fs : List Feature} (hv : IsWellNamed v)
    (h : (document v).value = some fs) : ∀ f ∈ fs, IsNamedFeature f := by
  obtain ⟨list, hlist, hfs⟩ := document_eq_some.mp h
  have hentries : ∀ e ∈ list, IsWellNamedFeature e := by
    rcases hlist with rfl | ⟨members, rfl, hone⟩
    · exact hv.1
    · exact hv.2 (.list list) (by simp [under, hone])
  clear h hlist
  induction hfs with
  | nil => simp
  | cons hf _ ih =>
    intro f hmem
    rcases List.mem_cons.mp hmem with rfl | hmem
    · exact feature_of_wellNamed (hentries _ (.head _)) hf
    · exact ih (fun e he => hentries e (.tail _ he)) f hmem

end Dump

theorem Dump.IsNamedMethod.isReadable {options : EmitOptions} {m : Method}
    (hm : Dump.IsNamedMethod m) (hincluded : m.isIncluded options = true) :
    m.IsReadable options := by
  have hname : m.name ≠ "" := by
    rintro hempty
    simp [Method.isIncluded, Method.isVisible, hempty] at hincluded
  refine ⟨hm.name.resolve_left hname, fun p hp => (hm.params p hp).1, fun _ p hp => ?_, hm.result⟩
  unfold Param.annotatedType
  cases htype : p.type with
  | some type => exact (hm.params p hp).2 type htype
  | none =>
    dsimp only [Option.getD_none]
    split <;> decide

theorem Dump.IsNamedFeature.isReadable {options : EmitOptions} {f : Feature}
    (hf : Dump.IsNamedFeature f) (hemitted : f.isEmitted options = true) :
    f.IsReadable options := by
  have hname : f.name ≠ "" := by
    rintro hempty
    have hbase : f.qualifiedName.base = "" := by
      unfold Feature.qualifiedName
      rw [hempty]
      rfl
    simp [Feature.isEmitted, Feature.verdict, hbase] at hemitted
  refine ⟨hf.name.resolve_left hname, hf.parents, fun p hp hvisible => ?_, fun m hm => ?_⟩
  · have hproperty : p.name ≠ "" := by
      rintro hempty
      simp [Property.isVisible, hempty] at hvisible
    refine ⟨(hf.properties p hp).1.resolve_left hproperty, ?_⟩
    cases htype : p.type with
    | some type => exact (hf.properties p hp).2 type htype
    | none => exact (by decide : NoClose "*".toList)
  · rcases List.mem_append.mp hm with hm | hm
    · obtain ⟨hmem, hincluded⟩ := List.mem_filter.mp hm
      exact (hf.methods m hmem).isReadable hincluded
    · unfold Feature.includedStatics at hm
      split at hm
      · obtain ⟨hmem, hincluded⟩ := List.mem_filter.mp hm
        exact (hf.staticMethods m hmem).isReadable hincluded
      · simp at hm

namespace Externs

/-- The externs of a dump are well-formed, whatever fields are missing or of another kind, if and
only if no parameter without a name stands in front of another one. -/
theorem check_decoded_iff {text : String} {v : Value} {c : Cursor} {features : List Feature}
    (hread : Json.readFirst text = .ok (v, c)) (hnamed : Dump.IsWellNamed v)
    (hdecoded : (Dump.decode text).value = .ok features) (options : EmitOptions)
    (hheader : Inert options.header.toList) :
    (∃ statements, (check (generate features options).value).value = .ok statements) ↔
      ∀ f ∈ mixins features options,
        ∀ m ∈ f.includedMethods options ++ f.includedStatics options,
          ¬ LeavesGap (m.params.map (·.bareName)) := by
  have hdocument : (Dump.document v).value = some features := by
    rw [Dump.decode_of_readFirst hread] at hdecoded
    cases hv : (Dump.document v).value with
    | none => simp [hv] at hdecoded
    | some fs =>
      by_cases hall : c.rest.all Json.isSpace = true <;> simp_all
  have hreadable : ∀ f ∈ mixins features options, f.IsReadable options := by
    intro f hf
    obtain ⟨hmem, hemitted⟩ := List.mem_filter.mp hf
    exact (Dump.document_of_wellNamed hnamed hdocument f hmem).isReadable hemitted
  have htext : (generate features options).value = Externs.text features options := by
    simp only [generate]
  have hcondition : (∀ f ∈ mixins features options,
      ∀ m ∈ f.includedMethods options ++ f.includedStatics options,
        ¬ LeavesGap (m.params.map (·.bareName))) ↔
      ¬ ∃ stub ∈ stubs features options, stub.HasGap := by
    rw [hasGap_stubs]
    simp only [not_exists, not_and]
    rfl
  rw [htext, check_value, hcondition]
  constructor
  · rintro ⟨statements, hok⟩ hgap
    obtain ⟨place, herror⟩ := parse_text_gap hreadable hheader hgap
    rw [hok] at herror
    simp at herror
  · intro hgap
    exact ⟨_, parse_text hreadable hheader hgap⟩

/-- A dump of a mixin with a method whose first parameter has no name. -/
def namelessParamDump : String :=
  "[\x7b\"name\":\"A\",\"kinds\":[\"element-mixin\"],\"methods\":[\x7b\"name\":\"m\"," ++
    "\"params\":[\x7b\x7d,\x7b\"name\":\"b\"\x7d]\x7d]\x7d]"

def namelessParamValue : Value :=
  .list [.object [("name", .string "A"), ("kinds", .list [.string "element-mixin"]),
    ("methods", .list [.object [("name", .string "m"),
      ("params", .list [.object [], .object [("name", .string "b")]])]])]]

def namelessParamFeature : Feature where
  name := "A"
  kinds := ["element-mixin"]
  methods := [{ name := "m", params := [{}, { name := "b" }] }]

theorem isWellNamed_namelessParamValue : Dump.IsWellNamed namelessParamValue := by
  have hlisted (n : Nat) (members : List (String × Value)) :
      Dump.NotListed n (.object members) := by
    intro items h
    cases h
  have hfirst : Dump.IsWellNamedParam (.object []) := by
    refine ⟨hlisted _ _, fun s hs => ?_, fun s hs => ?_⟩
    all_goals simp [Dump.under, Dump.occurrences] at hs
  have hsecond : Dump.IsWellNamedParam (.object [("name", .string "b")]) := by
    refine ⟨hlisted _ _, fun s hs => .inl ?_, fun s hs => ?_⟩
    · obtain rfl : s = "b" := by simpa [Dump.under, Dump.occurrences] using hs
      decide
    · simp [Dump.under, Dump.occurrences] at hs
  have hmethod : Dump.IsWellNamedMethod (.object [("name", .string "m"),
      ("params", .list [.object [], .object [("name", .string "b")]])]) := by
    refine ⟨hlisted _ _, fun s hs => ?_, ?_, fun w hw => ?_⟩
    · obtain rfl : s = "m" := by simpa [Dump.under, Dump.occurrences] using hs
      decide
    · simpa [Dump.under, Dump.occurrences, Dump.itemsOf] using And.intro hfirst hsecond
    · simp [Dump.under, Dump.occurrences] at hw
  have hfeature : Dump.IsWellNamedFeature (.object [("name", .string "A"),
      ("kinds", .list [.string "element-mixin"]),
      ("methods", .list [.object [("name", .string "m"),
        ("params", .list [.object [], .object [("name", .string "b")]])]])]) := by
    refine ⟨hlisted _ _, fun s hs => .inl ?_, fun w hw => ?_, fun w hw => ?_, ?_, fun w hw => ?_⟩
    · obtain rfl : s = "A" := by simpa [Dump.under, Dump.occurrences] using hs
      decide
    · simp [Dump.under, Dump.occurrences] at hw
    · simp [Dump.under, Dump.occurrences] at hw
    · simpa [Dump.under, Dump.occurrences, Dump.itemsOf] using hmethod
    · simp [Dump.under, Dump.occurrences] at hw
  refine ⟨fun e he => ?_, fun w hw => ?_⟩
  · obtain rfl := List.mem_singleton.mp he
    exact hfeature
  · simp [namelessParamValue, Dump.under] at hw

theorem check_decoded_namelessParam :
    (Dump.decode namelessParamDump).value = .ok [namelessParamFeature] ∧
      ¬ ∃ statements,
        (check (generate [namelessParamFeature] { header := "" }).value).value =
          .ok statements := by
  have hread : Json.readFirst namelessParamDump = .ok (namelessParamValue, ⟨[], ⟨1, 92⟩⟩) :=
    toOption_eq_some_iff.mp (by decide +kernel)
  have hdecoded : (Dump.decode namelessParamDump).value = .ok [namelessParamFeature] := by
    rw [Dump.decode_of_readFirst hread]
    rfl
  refine ⟨hdecoded, ?_⟩
  rw [check_decoded_iff hread isWellNamed_namelessParamValue hdecoded { header := "" } .nil]
  intro hall
  have hemitted : namelessParamFeature ∈ mixins [namelessParamFeature] { header := "" } := by
    decide
  exact hall _ hemitted _ (List.mem_append_left _ (List.mem_cons_self ..)) (by decide)

end Externs

end MixinExterns
