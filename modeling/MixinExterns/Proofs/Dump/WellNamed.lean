import MixinExterns.Proofs.Dump.Decoding
import MixinExterns.Proofs.Script.Functions
import MixinExterns.Proofs.Script.Gaps

/-!
Dumps in which every name that is a string is a proper one and no type closes a comment. Nothing
else is asked of them: any field may be missing or hold a value of another kind. Every record is
written as an object, or else is not taken for one.
-/

namespace MixinExterns

open Json (Value)
open Script

namespace Dump

/-- The values under a key of an object; none under those of another value. -/
def under (key : String) : Value → List Value
  | .object members => occurrences key members
  | _ => []

/-- Whether a value is no list that would be taken for a record with so many fields. -/
def NotListed (fields : Nat) (v : Value) : Prop := ∀ items, v = .list items → fields < items.length

/-- Whether a text is an identifier, perhaps behind the three dots of a rest parameter. -/
def IsParamText (s : String) : Prop :=
  isIdentifier s = true ∨ ∃ name, s = "..." ++ name ∧ isIdentifier name = true

def TypesStayOpen (v : Value) : Prop := ∀ s, .string s ∈ under "type" v → NoClose s.toList

structure IsWellNamedParam (v : Value) : Prop where
  notListed : NotListed 3 v
  name : ∀ s, .string s ∈ under "name" v → IsParamText s
  type : TypesStayOpen v

structure IsWellNamedProperty (v : Value) : Prop where
  notListed : NotListed 4 v
  name : ∀ s, .string s ∈ under "name" v → isIdentifierName s = true
  type : TypesStayOpen v

structure IsWellNamedMethod (v : Value) : Prop where
  notListed : NotListed 6 v
  name : ∀ s, .string s ∈ under "name" v → isIdentifierName s = true
  params : ∀ w ∈ under "params" v, ∀ p ∈ itemsOf w, IsWellNamedParam p
  result : ∀ w ∈ under "return" v, NotListed 1 w ∧ TypesStayOpen w

structure IsWellNamedParent (v : Value) : Prop where
  alone : ∀ s, v = .string s → NoClose s.toList
  identifier : ∀ s, .string s ∈ under "identifier" v → NoClose s.toList

structure IsWellNamedFeature (v : Value) : Prop where
  notListed : NotListed 7 v
  name : ∀ s, .string s ∈ under "name" v → IsMixinName s
  parents : ∀ w ∈ under "mixins" v, ∀ p ∈ itemsOf w, IsWellNamedParent p
  properties : ∀ w ∈ under "properties" v, ∀ p ∈ itemsOf w, IsWellNamedProperty p
  methods : ∀ w ∈ under "methods" v, ∀ m ∈ itemsOf w, IsWellNamedMethod m
  staticMethods : ∀ w ∈ under "staticMethods" v, ∀ m ∈ itemsOf w, IsWellNamedMethod m

/-- Whether all features of a document, a list or an object with a list, are well-named. -/
def IsWellNamed (v : Value) : Prop :=
  (∀ e ∈ itemsOf v, IsWellNamedFeature e) ∧
    ∀ w ∈ under "features" v, ∀ e ∈ itemsOf w, IsWellNamedFeature e

theorem mem_under {key : String} {w : Value} {members : List (String × Value)}
    (h : (key, w) ∈ members) : w ∈ under key (.object members) := by
  simpa [under, occurrences] using h

/-- What is visited of a record that is not written as a list stands under its key. -/
theorem under_of_visit {record : String} {fields : List String} {v : Value}
    (hfault : (visit record fields v).fault = none) (hlisted : NotListed fields.length v)
    {key : String} {w : Value} (h : (key, w) ∈ (visit record fields v).entries) :
    w ∈ under key v := by
  cases v with
  | object members => exact mem_under (Table.mem_ofEntries h)
  | list items =>
    have hlong := hlisted items rfl
    simp only [visit, visitList, ite_eq_left_iff, reduceCtorEq, imp_false, not_not] at hfault
    omega
  | _ => simp [visit] at h

theorem mem_visitOnce {fields : List String} {members : List (String × Value)}
    {seen : List String} {e : String × Value} (h : e ∈ (visitOnce fields members seen).entries) :
    e ∈ members := by
  induction members generalizing seen with
  | nil => simp [visitOnce] at h
  | cons first members ih =>
    obtain ⟨key, v⟩ := first
    unfold visitOnce at h
    split at h
    · exact .tail _ (ih h)
    · split at h
      · simp at h
      · rcases List.mem_cons.mp h with rfl | h
        · exact .head _
        · exact .tail _ (ih h)

theorem under_of_visitStrict {record : String} {fields : List String} {v : Value}
    (hfault : (visitStrict record fields v).fault = none) (hlisted : NotListed fields.length v)
    {key : String} {w : Value} (h : (key, w) ∈ (visitStrict record fields v).entries) :
    w ∈ under key v := by
  cases v with
  | object members => exact mem_under (mem_visitOnce h)
  | _ => exact under_of_visit hfault hlisted h

theorem stringOrEmpty_cases (P : String → Prop) {w : Value} (hempty : P "")
    (hstring : ∀ s, w = .string s → P s) : P (stringOrEmpty w) := by
  cases w with
  | string s => exact hstring s rfl
  | _ => exact hempty

theorem mem_text? {w : Value} {s : String} (h : s ∈ text? w) : w = .string s := by
  unfold text? at h
  split at h
  · split at h
    · simp at h
    · exact congrArg _ (by simpa using h)
  · simp at h

theorem isParamName_bareName {p : Param} (h : p.name = "" ∨ IsParamText p.name) :
    IsParamName p.bareName := by
  obtain ⟨name, type, description⟩ := p
  dsimp only at h
  rcases h with rfl | h | ⟨w, rfl, hw⟩
  · exact .inl (by simp [Param.bareName, Param.isRest])
  · have hdot := not_mem_of_identifierName (isIdentifierName_of_identifier h)
      (c := '.') (by decide)
    have hrest : Param.isRest ⟨name, type, description⟩ = false := by
      change ['.', '.', '.'].isPrefixOf name.toList = false
      cases hname : name.toList with
      | nil => rfl
      | cons c letters =>
        have hc : '.' ≠ c := by
          rintro rfl
          exact hdot (by simp [hname])
        simp [List.isPrefixOf, hc]
    exact .inr (by simpa [Param.bareName, hrest] using h)
  · have hrest : Param.isRest ⟨"..." ++ w, type, description⟩ = true := by
      simp [Param.isRest]
    exact .inr (by simpa [Param.bareName, hrest] using hw)

theorem param_of_wellNamed {v : Value} {p : Param} (hv : IsWellNamedParam v)
    (h : (param v).value = .ok p) :
    IsParamName p.bareName ∧ ∀ type ∈ p.type, NoClose type.toList := by
  have hfault := (build_eq_ok.mp h).1
  have hdecoded : (p.name = "" ∨ IsParamText p.name) ∧ ∀ type ∈ p.type, NoClose type.toList := by
    refine build_invariant (fun p => (p.name = "" ∨ IsParamText p.name) ∧
      ∀ type ∈ p.type, NoClose type.toList) h ⟨.inl rfl, nofun⟩ fun r key w hw hr => ?_
    have hunder := under_of_visit hfault hv.notListed hw
    split
    · refine ⟨stringOrEmpty_cases (fun s => s = "" ∨ IsParamText s) (.inl rfl) ?_, hr.2⟩
      rintro s rfl
      exact .inr (hv.name s hunder)
    · refine ⟨hr.1, fun type htype => ?_⟩
      obtain rfl := mem_text? htype
      exact hv.type type hunder
    · exact hr
    · exact hr
  exact ⟨isParamName_bareName hdecoded.1, hdecoded.2⟩

theorem property_of_wellNamed {v : Value} {p : Property} (hv : IsWellNamedProperty v)
    (h : (property v).value = .ok p) :
    (p.name = "" ∨ isIdentifierName p.name = true) ∧ ∀ type ∈ p.type, NoClose type.toList := by
  have hfault := (build_eq_ok.mp h).1
  refine build_invariant (fun p => (p.name = "" ∨ isIdentifierName p.name = true) ∧
    ∀ type ∈ p.type, NoClose type.toList) h ⟨.inl rfl, nofun⟩ fun r key w hw hr => ?_
  have hunder := under_of_visit hfault hv.notListed hw
  split
  · refine ⟨stringOrEmpty_cases (fun s => s = "" ∨ isIdentifierName s = true) (.inl rfl) ?_, hr.2⟩
    rintro s rfl
    exact .inr (hv.name s hunder)
  · refine ⟨hr.1, fun type htype => ?_⟩
    obtain rfl := mem_text? htype
    exact hv.type type hunder
  all_goals exact hr

/-- Whether a decoded method has no name or a proper one, and nothing in it closes a comment. -/
structure IsNamedMethod (m : Method) : Prop where
  name : m.name = "" ∨ isIdentifierName m.name = true
  params : ∀ p ∈ m.params, IsParamName p.bareName ∧ ∀ type ∈ p.type, NoClose type.toList
  result : ∀ type ∈ m.returnType, NoClose type.toList

/-- Whether a decoded feature and its members have no names or proper ones, and nothing in it closes
a comment. -/
structure IsNamedFeature (f : Feature) : Prop where
  name : f.name = "" ∨ IsMixinName f.name
  parents : ∀ parent ∈ f.parents, NoClose parent.toList
  properties : ∀ p ∈ f.properties,
    (p.name = "" ∨ isIdentifierName p.name = true) ∧ ∀ type ∈ p.type, NoClose type.toList
  methods : ∀ m ∈ f.methods, IsNamedMethod m
  staticMethods : ∀ m ∈ f.staticMethods, IsNamedMethod m

theorem returned_of_wellNamed {v : Value} {r : Return} (hlisted : NotListed 1 v)
    (htypes : TypesStayOpen v) (h : (returned v).value = .ok r) :
    ∀ type ∈ r.type, NoClose type.toList := by
  have hfault := (build_eq_ok.mp h).1
  refine build_invariant (fun r => ∀ type ∈ r.type, NoClose type.toList) h nofun
    fun r key w hw hr => ?_
  have hunder := under_of_visit hfault hlisted hw
  split
  · intro type htype
    obtain rfl := mem_text? htype
    exact htypes type hunder
  · exact hr

theorem method_of_wellNamed {v : Value} {m : Method} (hv : IsWellNamedMethod v)
    (h : (method v).value = .ok m) : IsNamedMethod m := by
  have hfault := (build_eq_ok.mp h).1
  refine build_invariant IsNamedMethod h ⟨.inl rfl, nofun, nofun⟩ fun r key w hw hr => ?_
  have hunder := under_of_visit hfault hv.notListed hw
  split
  case h_1 =>
    refine ⟨stringOrEmpty_cases (fun s => s = "" ∨ isIdentifierName s = true) (.inl rfl) ?_,
      hr.params, hr.result⟩
    rintro s rfl
    exact .inr (hv.name s hunder)
  case h_2 =>
    refine ⟨hr.name, fun p hp => ?_, hr.result⟩
    obtain ⟨item, hitem, hp⟩ := mem_entries hp
    exact param_of_wellNamed (hv.params w hunder item hitem) hp
  case h_3 =>
    refine ⟨hr.name, hr.params, fun type htype => ?_⟩
    obtain ⟨returned, hreturned, htype⟩ := Option.mem_bind_iff.mp htype
    obtain ⟨hlisted, htypes⟩ := hv.result w hunder
    exact returned_of_wellNamed hlisted htypes (record?_eq_some.mp hreturned) type htype
  all_goals exact ⟨hr.name, hr.params, hr.result⟩

theorem parents_of_wellNamed {v : Value} (hv : ∀ p ∈ itemsOf v, IsWellNamedParent p) :
    ∀ parent ∈ parents v, NoClose parent.toList := by
  intro parent hparent
  cases v with
  | list items =>
    obtain ⟨item, hitem, rfl⟩ := List.mem_map.mp hparent
    have hitem := hv item hitem
    cases item with
    | string s => exact hitem.alone s rfl
    | object members =>
      change NoClose
        (((Table.ofEntries members).get? "identifier").elim "" stringOrEmpty).toList
      cases hget : (Table.ofEntries members).get? "identifier" with
      | none => exact noClose_nil
      | some w =>
        refine stringOrEmpty_cases (fun s => NoClose s.toList) noClose_nil ?_
        rintro s rfl
        exact hitem.identifier s (mem_under (Table.mem_ofEntries (Table.mem_of_get? hget)))
    | _ => exact noClose_nil
  | _ => simp [parents] at hparent

theorem feature_of_wellNamed {v : Value} {f : Feature} (hv : IsWellNamedFeature v)
    (h : (feature v).value = .ok f) : IsNamedFeature f := by
  have hfault := (build_eq_ok.mp h).1
  refine build_invariant IsNamedFeature h ⟨.inl rfl, nofun, nofun, nofun, nofun⟩
    fun r key w hw hr => ?_
  have hunder := under_of_visitStrict hfault hv.notListed hw
  split
  case h_1 =>
    refine ⟨stringOrEmpty_cases (fun s => s = "" ∨ IsMixinName s) (.inl rfl) ?_, hr.parents,
      hr.properties, hr.methods, hr.staticMethods⟩
    rintro s rfl
    exact .inr (hv.name s hunder)
  case h_4 =>
    exact ⟨hr.name, parents_of_wellNamed (hv.parents w hunder), hr.properties, hr.methods,
      hr.staticMethods⟩
  case h_5 =>
    refine ⟨hr.name, hr.parents, fun p hp => ?_, hr.methods, hr.staticMethods⟩
    obtain ⟨item, hitem, hp⟩ := mem_entries hp
    exact property_of_wellNamed (hv.properties w hunder item hitem) hp
  case h_6 =>
    refine ⟨hr.name, hr.parents, hr.properties, fun m hm => ?_, hr.staticMethods⟩
    obtain ⟨item, hitem, hm⟩ := mem_entries hm
    exact method_of_wellNamed (hv.methods w hunder item hitem) hm
  case h_7 =>
    refine ⟨hr.name, hr.parents, hr.properties, hr.methods, fun m hm => ?_⟩
    obtain ⟨item, hitem, hm⟩ := mem_entries hm
    exact method_of_wellNamed (hv.staticMethods w hunder item hitem) hm
  all_goals exact ⟨hr.name, hr.parents, hr.properties, hr.methods, hr.staticMethods⟩

end Dump

end MixinExterns
