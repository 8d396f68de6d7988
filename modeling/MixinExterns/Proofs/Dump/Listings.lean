import Mathlib.Algebra.GroupWithZero.Nat
import MixinExterns.Proofs.Dump.Fields

/-!
The lists of records in a dump: of members, parameters and tags. They are found in the dump without
decoding it. The decoded features have the same lists in the same order, each without the entries
that do not fit. Of lists under one key that is repeated, only the last is one of them.
-/

namespace MixinExterns.Dump

open Json (Value)

variable {α : Type}

/-- A list of records in a dump. -/
structure Listing where
  record : Record
  items : List Value

/-- A list of decoded records. -/
abbrev DecodedList := (r : Record) × List r.Decoded

/-- The report that an entry is left out, unless it fits. -/
def dropped (result : Except Mismatch α) : List Event :=
  match result with
  | .ok _ => []
  | .error cause => [.droppedEntry cause]

namespace Listing

/-- The records among the items of a list. -/
def kept (l : Listing) : List l.record.Decoded :=
  l.items.filterMap fun v => (l.record.decode v).value.toOption

/-- The reports about the items of a list that are no records. -/
def reports (l : Listing) : List Event :=
  l.items.flatMap fun v => dropped (l.record.decode v).value

def decoded (l : Listing) : DecodedList := ⟨l.record, l.kept⟩

/-- Each item of a list is either kept or reported. -/
theorem length_kept_add_reports (l : Listing) :
    l.kept.length + l.reports.length = l.items.length := by
  unfold kept reports
  induction l.items with
  | nil => rfl
  | cons v items ih =>
    have hone : ((l.record.decode v).value.toOption.toList).length +
        (dropped (l.record.decode v).value).length = 1 := by
      cases (l.record.decode v).value <;> rfl
    rw [List.filterMap_cons, List.flatMap_cons, List.length_append, List.length_cons]
    cases hkept : (l.record.decode v).value.toOption with
    | none =>
      rw [hkept, Option.toList_none, List.length_nil] at hone
      dsimp only
      omega
    | some a =>
      rw [hkept, Option.toList_some, List.length_singleton] at hone
      rw [List.length_cons]
      omega

/-- What is reported is that something is left out. -/
theorem isDropped_of_mem (l : Listing) {e : Event} (h : e ∈ l.reports) :
    ∃ cause, e = .droppedEntry cause := by
  obtain ⟨v, -, he⟩ := List.mem_flatMap.mp h
  cases hv : (l.record.decode v).value with
  | ok a => simp [hv, dropped] at he
  | error cause => exact ⟨cause, by simpa [hv, dropped] using he⟩

theorem sum_reports_add_sum_kept (ls : List Listing) :
    (ls.map (·.reports.length)).sum + (ls.map (·.kept.length)).sum =
      (ls.map (·.items.length)).sum := by
  induction ls with
  | nil => rfl
  | cons l ls ih =>
    have hone := l.length_kept_add_reports
    simp only [List.map_cons, List.sum_cons]
    omega

end Listing

section

variable (under : String → List (String × Value) → List Value)

/-- The list of tags in a documentation comment. Which values under a key are taken for lists is
left open here: all of them, or the one that counts. -/
def docListings : Value → List Listing
  | .object members => (under "tags" members).map fun w => ⟨.tag, itemsOf w⟩
  | _ => []

def methodListings : Value → List Listing
  | .object members =>
    (under "params" members).map (fun w => ⟨.param, itemsOf w⟩) ++
      (under "jsdoc" members).flatMap (docListings under)
  | _ => []

/-- A list of methods and the lists in them. -/
def methodsListings (w : Value) : List Listing :=
  ⟨.method, itemsOf w⟩ :: (itemsOf w).flatMap (methodListings under)

def featureListings : Value → List Listing
  | .object members =>
    (under "properties" members).map (fun w => ⟨.property, itemsOf w⟩) ++
      (under "methods" members).flatMap (methodsListings under) ++
      (under "staticMethods" members).flatMap (methodsListings under)
  | _ => []

end

/-- The one value that counts under a key. -/
def counted (key : String) (members : List (String × Value)) : List Value := [said key members]

/-- The lists of records in a list of features. -/
def listings (list : List Value) : List Listing := list.flatMap (featureListings counted)

def docLists (d : DocComment) : List DecodedList := [⟨.tag, d.tags⟩]

def methodLists (m : Method) : List DecodedList :=
  ⟨.param, m.params⟩ :: m.doc.toList.flatMap docLists

def methodsLists (methods : List Method) : List DecodedList :=
  ⟨.method, methods⟩ :: methods.flatMap methodLists

/-- The lists of records in a feature. -/
def featureLists (f : Feature) : List DecodedList :=
  ⟨.property, f.properties⟩ :: (methodsLists f.methods ++ methodsLists f.staticMethods)

/-- Whether a method is written with the names of its fields, and its documentation comment, too.
Anything but a list may stand in the place of either of them. -/
def IsKeyedMethod : Value → Prop
  | .object members => ∀ items, said "jsdoc" members ≠ .list items
  | .list _ => False
  | _ => True

/-- Whether a feature and its methods are written with the names of their fields. -/
def IsKeyedFeature : Value → Prop
  | .object members => ∀ key ∈ ["methods", "staticMethods"], ∀ w ∈ itemsOf (said key members),
      IsKeyedMethod w
  | .list _ => False
  | _ => True

theorem Record.decode_object {r : Record} {members : List (String × Value)}
    (h : ¬ r.Clash (members.map (·.1))) :
    (r.decode (.object members)).value = .ok (r.of fun key => said key members) :=
  decode_eq_ok.mpr ⟨h, rfl⟩

theorem decoded_entries (r : Record) (w : Value) :
    (⟨r, (entries r.decode w).value⟩ : DecodedList) = Listing.decoded ⟨r, itemsOf w⟩ :=
  congrArg (Sigma.mk r) (value_entries r.decode w)

/-- The list in a documentation comment is that of its tags, as far as they are kept. -/
theorem docComment_lists {v : Value} (h : ∀ items, v ≠ .list items) :
    (docComment v).value.toOption.toList.flatMap docLists =
      (docListings counted v).map Listing.decoded := by
  cases v with
  | list items => exact absurd rfl (h items)
  | object members =>
    have hdoc : (docComment (.object members)).value =
        .ok { tags := (entries tag (said "tags" members)).value } :=
      Record.decode_object (r := .docComment) id
    rw [hdoc, value_entries]
    rfl
  | _ =>
    exact congrArg (fun o : Option DocComment => o.toList.flatMap docLists)
      (Record.decode_of_not_accepts (r := .docComment) id)

theorem method_lists {v : Value} (h : IsKeyedMethod v) :
    (method v).value.toOption.toList.flatMap methodLists =
      (methodListings counted v).map Listing.decoded := by
  cases v with
  | list items => exact absurd h id
  | object members =>
    have hmethod : (method (.object members)).value =
        .ok (Record.method.of fun key => said key members) :=
      Record.decode_object (r := .method) id
    have hdoc := docComment_lists h
    rw [hmethod]
    simp only [methodListings, counted, List.map_cons, List.map_nil, List.flatMap_cons,
      List.flatMap_nil, List.append_nil, List.cons_append, List.nil_append, ← hdoc]
    refine (List.append_nil _).trans (congrArg₂ List.cons ?_ rfl)
    exact decoded_entries .param (said "params" members)
  | _ =>
    exact congrArg (fun o : Option Method => o.toList.flatMap methodLists)
      (Record.decode_of_not_accepts (r := .method) id)

theorem methods_lists {w : Value} (h : ∀ v ∈ itemsOf w, IsKeyedMethod v) :
    methodsLists (entries method w).value = (methodsListings counted w).map Listing.decoded := by
  have hwithin : (entries method w).value.flatMap methodLists =
      ((itemsOf w).flatMap (methodListings counted)).map Listing.decoded := by
    rw [value_entries, List.filterMap_eq_flatMap_toList, List.flatMap_assoc, List.map_flatMap]
    exact List.flatMap_congr fun v hv => method_lists (h v hv)
  rw [methodsLists, hwithin]
  exact congrArg (List.cons · _) (decoded_entries .method w)

theorem feature_lists {members : List (String × Value)} {f : Feature}
    (hdecoded : (feature (.object members)).value = .ok f)
    (h : IsKeyedFeature (.object members)) :
    featureLists f = (featureListings counted (.object members)).map Listing.decoded := by
  obtain ⟨-, rfl⟩ := feature_eq_ok.mp hdecoded
  have hmethods := methods_lists (h "methods" (by simp))
  have hstatic := methods_lists (h "staticMethods" (by simp))
  simp only [featureListings, counted, List.map_cons, List.map_nil, List.flatMap_cons,
    List.flatMap_nil, List.append_nil, List.cons_append, List.nil_append, List.map_append,
    ← hmethods, ← hstatic]
  exact congrArg (List.cons · _) (decoded_entries .property (said "properties" members))

theorem isObject_of_isKeyedFeature {e : Value} {f : Feature} (h : IsKeyedFeature e)
    (hdecoded : (feature e).value = .ok f) : ∃ members, e = .object members := by
  cases e with
  | object members => exact ⟨members, rfl⟩
  | list items => exact absurd h id
  | _ => exact absurd (feature_eq_ok.mp hdecoded).1 id

theorem features_lists {list : List Value} {fs : List Feature}
    (hdecoded : List.Forall₂ (fun e f => (feature e).value = .ok f) list fs)
    (hkeyed : ∀ e ∈ list, IsKeyedFeature e) :
    fs.flatMap featureLists = (listings list).map Listing.decoded := by
  induction hdecoded with
  | nil => rfl
  | cons hfirst _ ih =>
    obtain ⟨hkeyed, hrest⟩ := List.forall_mem_cons.mp hkeyed
    obtain ⟨members, rfl⟩ := isObject_of_isKeyedFeature hkeyed hfirst
    rw [List.flatMap_cons, feature_lists hfirst hkeyed, ih hrest, ← List.map_append]
    rfl

end MixinExterns.Dump
