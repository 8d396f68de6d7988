import Mathlib.Data.List.TakeWhile
import MixinExterns.Proofs.Dump.Decoding

/-!
How far the decoding of a dump comes. First a value is read from the beginning of the text; then its
outline is looked at, that is whether it is a list of features and how each of them is written; then
the rest of the text. The values of the features' fields have no part in it.
-/

namespace MixinExterns.Dump

open Json (Value Cursor)

/-- Whether an entry has the outline of a feature: an object in which no field of a feature occurs
twice, or a list that is not longer than the fields of a feature. -/
def IsFeatureEntry : Value → Prop
  | .object members => ∀ field ∈ featureFields, (occurrences field members).length ≤ 1
  | .list items => items.length ≤ featureFields.length
  | _ => False

/-- Whether a document is this list of entries, or has it under its one key `features`. -/
def IsDocumentOf (v : Value) (list : List Value) : Prop :=
  v = .list list ∨ ∃ members, v = .object members ∧ occurrences "features" members = [.list list]

/-- Whether a document has the outline of a dump. -/
def IsDump (v : Value) : Prop := ∃ list, IsDocumentOf v list ∧ ∀ e ∈ list, IsFeatureEntry e

theorem occurrences_cons (key field : String) (v : Value) (members : List (String × Value)) :
    occurrences field ((key, v) :: members) =
      if key = field then v :: occurrences field members else occurrences field members := by
  unfold occurrences
  rw [List.filter_cons]
  split <;> simp_all

/-- A visit of members goes through if no field occurs twice, among them and those seen before. -/
theorem visitOnce_fault {fields : List String} {members : List (String × Value)}
    {seen : List String} :
    (visitOnce fields members seen).fault = none ↔
      ∀ field ∈ fields, (occurrences field members).length ≤ 1 ∧
        (field ∈ seen → occurrences field members = []) := by
  induction members generalizing seen with
  | nil => simp [visitOnce, occurrences]
  | cons e members ih =>
    obtain ⟨key, v⟩ := e
    unfold visitOnce
    by_cases hkey : key ∈ fields
    · by_cases hseen : key ∈ seen
      · simp only [List.contains_eq_mem, hkey, hseen, decide_true, Bool.not_true,
          Bool.false_eq_true, if_false, if_true, reduceCtorEq, false_iff, not_forall]
        exact ⟨key, hkey, fun h => by simpa [occurrences_cons] using h.2 hseen⟩
      · simp only [List.contains_eq_mem, hkey, hseen, decide_true, decide_false, Bool.not_true,
          Bool.false_eq_true, if_false]
        rw [ih]
        apply forall₂_congr
        intro field hfield
        rw [occurrences_cons]
        by_cases heq : key = field
        · subst heq
          simp [hseen]
          intro h
          simp [h]
        · simp [heq, Ne.symm heq]
    · simp only [List.contains_eq_mem, hkey, decide_false, Bool.not_false, if_true]
      rw [ih]
      apply forall₂_congr
      intro field hfield
      have hne : key ≠ field := by
        rintro rfl
        exact hkey hfield
      rw [occurrences_cons, if_neg hne]

/-- An entry decodes as a feature if it has the outline of one, whatever its values are. -/
theorem feature_isOk_iff (v : Value) : (∃ f, (feature v).value = .ok f) ↔ IsFeatureEntry v := by
  have hbuild : (∃ f, (feature v).value = .ok f) ↔
      (visitStrict "Feature" featureFields v).fault = none := by
    unfold feature
    simp only [build_eq_ok]
    exact ⟨fun ⟨_, h, _⟩ => h, fun h => ⟨_, h, rfl⟩⟩
  rw [hbuild]
  cases v with
  | object members => simp [visitStrict, IsFeatureEntry, visitOnce_fault]
  | list items => simp [visitStrict, visit, visitList, IsFeatureEntry]
  | _ => simp [visitStrict, visit, IsFeatureEntry]

theorem features_isSome_iff (items : List Value) :
    (∃ fs, (features items).value = some fs) ↔ ∀ e ∈ items, IsFeatureEntry e := by
  simp only [features_eq_some]
  constructor
  · rintro ⟨fs, h⟩
    induction h with
    | nil => simp
    | cons hf _ ih =>
      intro e he
      rcases List.mem_cons.mp he with rfl | he
      · exact (feature_isOk_iff _).mp ⟨_, hf⟩
      · exact ih e he
  · intro h
    induction items with
    | nil => exact ⟨[], .nil⟩
    | cons e items ih =>
      obtain ⟨f, hf⟩ := (feature_isOk_iff e).mpr (h e (by simp))
      obtain ⟨fs, hfs⟩ := ih fun e' he' => h e' (.tail _ he')
      exact ⟨f :: fs, .cons hf hfs⟩

theorem document_eq_some {v : Value} {fs : List Feature} :
    (document v).value = some fs ↔ ∃ list, IsDocumentOf v list ∧
      List.Forall₂ (fun e f => (feature e).value = .ok f) list fs := by
  have hlist (w : Value) : (featureList w).value = some fs ↔
      ∃ list, w = .list list ∧ List.Forall₂ (fun e f => (feature e).value = .ok f) list fs := by
    cases w with
    | list items => simp [featureList, features_eq_some]
    | _ => simp [featureList]
  cases v with
  | object members =>
    simp only [document, IsDocumentOf, reduceCtorEq, false_or, Value.object.injEq]
    split
    · next heq => simp [heq]
    · next w heq =>
      rw [hlist]
      simp [heq]
    · next w others hmore heq =>
      have hnot : ∀ list, occurrences "features" members ≠ [.list list] := by
        intro list hone
        rw [heq] at hone
        exact hmore (List.cons.inj hone).2
      simp [hnot]
  | _ => simp [document, IsDocumentOf, hlist]

theorem document_isSome_iff (v : Value) :
    (∃ fs, (document v).value = some fs) ↔ IsDump v := by
  simp only [document_eq_some, IsDump, ← features_isSome_iff, features_eq_some]
  exact ⟨fun ⟨fs, list, hlist, hfs⟩ => ⟨list, hlist, fs, hfs⟩,
    fun ⟨list, hlist, fs, hfs⟩ => ⟨fs, list, hlist, hfs⟩⟩

theorem IsDocumentOf.unique {v : Value} {list list' : List Value} (h : IsDocumentOf v list)
    (h' : IsDocumentOf v list') : list = list' := by
  rcases h with rfl | ⟨members, rfl, hone⟩
  · rcases h' with h' | ⟨_, h', -⟩
    · simpa using h'
    · simp at h'
  · rcases h' with h' | ⟨_, h', hone'⟩
    · simp at h'
    · obtain rfl := Value.object.inj h'
      simpa [hone] using hone'

/-- Two entries that are written alike, up to the values in them. -/
inductive EntriesAlike : Value → Value → Prop where
  | object {members members' : List (String × Value)}
      (h : members.map (·.1) = members'.map (·.1)) :
      EntriesAlike (.object members) (.object members')
  | list {items items' : List Value} (h : items.length = items'.length) :
      EntriesAlike (.list items) (.list items')
  | same (v : Value) : EntriesAlike v v

/-- Two documents whose features are written alike, up to the values in them. -/
inductive DocumentsAlike : Value → Value → Prop where
  | list {list list' : List Value} (h : List.Forall₂ EntriesAlike list list') :
      DocumentsAlike (.list list) (.list list')
  | object {before after : List (String × Value)} {list list' : List Value}
      (h : List.Forall₂ EntriesAlike list list') :
      DocumentsAlike (.object (before ++ ("features", .list list) :: after))
        (.object (before ++ ("features", .list list') :: after))

theorem length_occurrences (field : String) (members : List (String × Value)) :
    (occurrences field members).length = (members.map (·.1)).count field := by
  induction members with
  | nil => rfl
  | cons e members ih =>
    obtain ⟨key, v⟩ := e
    rw [occurrences_cons, List.map_cons, List.count_cons, ← ih]
    by_cases heq : key = field <;> simp [heq]

theorem EntriesAlike.isFeatureEntry_iff {e e' : Value} (h : EntriesAlike e e') :
    IsFeatureEntry e ↔ IsFeatureEntry e' := by
  cases h with
  | object h => simp only [IsFeatureEntry, length_occurrences, h]
  | list h => simp only [IsFeatureEntry, h]
  | same => rfl

theorem all_isFeatureEntry_iff {list list' : List Value}
    (h : List.Forall₂ EntriesAlike list list') :
    (∀ e ∈ list, IsFeatureEntry e) ↔ ∀ e ∈ list', IsFeatureEntry e := by
  induction h with
  | nil => rfl
  | cons hfirst _ ih => rw [List.forall_mem_cons, List.forall_mem_cons, ih,
      hfirst.isFeatureEntry_iff]

theorem DocumentsAlike.isDump_iff {v v' : Value} (h : DocumentsAlike v v') :
    IsDump v ↔ IsDump v' := by
  cases h with
  | list h => simp [IsDump, IsDocumentOf, all_isFeatureEntry_iff h]
  | @object before after list list' h =>
    have hone (items found : List Value) :
        occurrences "features" (before ++ ("features", .list items) :: after) = [.list found] ↔
          occurrences "features" before = [] ∧ occurrences "features" after = [] ∧
            items = found := by
      have happend : occurrences "features" (before ++ ("features", .list items) :: after) =
          occurrences "features" before ++ .list items :: occurrences "features" after := by
        simp [occurrences]
      rw [happend, List.append_eq_singleton_iff]
      simp
      tauto
    have hdump (items : List Value) :
        IsDump (.object (before ++ ("features", .list items) :: after)) ↔
          occurrences "features" before = [] ∧ occurrences "features" after = [] ∧
            ∀ e ∈ items, IsFeatureEntry e := by
      simp only [IsDump, IsDocumentOf, reduceCtorEq, false_or, Value.object.injEq,
        exists_eq_left', hone]
      constructor
      · rintro ⟨found, ⟨hbefore, hafter, rfl⟩, hall⟩
        exact ⟨hbefore, hafter, hall⟩
      · rintro ⟨hbefore, hafter, hall⟩
        exact ⟨items, ⟨hbefore, hafter, rfl⟩, hall⟩
    rw [hdump, hdump, all_isFeatureEntry_iff h]

theorem rest_skipSpaces (text : List Char) (p : Json.Position) :
    (Json.skipSpaces text p).rest = text.dropWhile Json.isSpace := by
  induction text generalizing p with
  | nil => rfl
  | cons ch rest ih =>
    unfold Json.skipSpaces
    split
    · next h => simp [h, ih]
    · next h => simp [h]

/-- Only spaces may follow the document; the place of anything else is an error. -/
theorem finish_eq (c : Cursor) : Json.finish c =
    if c.rest.all Json.isSpace then .ok ()
    else .error ⟨.trailingCharacters, c.skip.position.advance 1 c.skip.rest⟩ := by
  have hrest : c.skip.rest = c.rest.dropWhile Json.isSpace := rest_skipSpaces c.rest c.position
  unfold Json.finish
  dsimp only
  split
  · next hnil =>
    rw [hrest, List.dropWhile_eq_nil_iff] at hnil
    rw [if_pos (List.all_eq_true.mpr hnil)]
  · next ch tail hcons =>
    rw [if_neg]
    · rfl
    · intro hall
      have hnil := List.dropWhile_eq_nil_iff.mpr (List.all_eq_true.mp hall)
      rw [← hrest, hcons] at hnil
      exact List.cons_ne_nil _ _ hnil

theorem decode_of_readFirst {text : String} {v : Value} {c : Cursor}
    (hread : Json.readFirst text = .ok (v, c)) :
    (decode text).value =
      match (document v).value with
      | none => .error .shape
      | some fs =>
        if c.rest.all Json.isSpace then .ok fs
        else .error (.malformed ⟨.trailingCharacters, c.skip.position.advance 1 c.skip.rest⟩) := by
  unfold decode
  simp only [hread, Logged.value_bind, finish_eq]
  cases (document v).value with
  | none => rfl
  | some fs =>
    by_cases hall : c.rest.all Json.isSpace = true <;> simp [hall]

theorem document_of_decode {text : String} {v : Value} {c : Json.Cursor} {fs : List Feature}
    (hread : Json.readFirst text = .ok (v, c)) (hdecoded : (decode text).value = .ok fs) :
    (document v).value = some fs := by
  rw [decode_of_readFirst hread] at hdecoded
  cases hdocument : (document v).value with
  | none => simp [hdocument] at hdecoded
  | some fs' =>
    simp only [hdocument] at hdecoded
    split at hdecoded
    · exact congrArg some (Except.ok.inj hdecoded)
    · simp at hdecoded

theorem value_document_of_not_isDump {v : Value} (h : ¬ IsDump v) : (document v).value = none := by
  rw [← document_isSome_iff] at h
  exact Option.eq_none_iff_forall_not_mem.mpr fun fs hfs => h ⟨fs, hfs⟩

/-- Decoding a dump is decided in stages. If no value can be read from the beginning of the text,
that is the error. Otherwise, if the value has not the outline of a dump, the error is that it has
not, whatever follows it. Otherwise anything but spaces behind the value is the error. Otherwise
there is one feature for each entry, in order, and which it is depends on that entry alone. Between
documents that are alike up to the values under the keys of their features, the stage that is
reached is the same. -/
theorem decode_stages (text : String) :
    (∀ e, Json.readFirst text = .error e → (decode text).value = .error (.malformed e)) ∧
    ∀ v c, Json.readFirst text = .ok (v, c) →
      (¬ IsDump v → ∃ fault, (decode text).value = .error fault ∧
        fault.message = "data did not match any variant of untagged enum AnalysisShape") ∧
      (∀ list, IsDocumentOf v list → (∀ e ∈ list, IsFeatureEntry e) →
        (c.rest.all Json.isSpace = false → (decode text).value = .error
          (.malformed ⟨.trailingCharacters, c.skip.position.advance 1 c.skip.rest⟩)) ∧
        (c.rest.all Json.isSpace = true → ∃ fs, (decode text).value = .ok fs ∧
          List.Forall₂ (fun e f => (feature e).value = .ok f) list fs)) ∧
      ∀ text' v' c', Json.readFirst text' = .ok (v', c') → DocumentsAlike v v' →
        c.rest.all Json.isSpace = c'.rest.all Json.isSpace →
        ((decode text).value = .error .shape ↔ (decode text').value = .error .shape) ∧
          ((∃ fs, (decode text).value = .ok fs) ↔ ∃ fs, (decode text').value = .ok fs) := by
  refine ⟨fun e hread => ?_, fun v c hread => ⟨fun hdump => ?_, fun list hlist hentries => ?_, ?_⟩⟩
  · simp [decode, hread]
  · rw [decode_of_readFirst hread, value_document_of_not_isDump hdump]
    exact ⟨.shape, rfl, rfl⟩
  · obtain ⟨fs, hfs⟩ := (document_isSome_iff v).mpr ⟨list, hlist, hentries⟩
    obtain ⟨list', hlist', hdecoded⟩ := document_eq_some.mp hfs
    obtain rfl := hlist.unique hlist'
    rw [decode_of_readFirst hread, hfs]
    constructor
    · intro htrailing
      simp [htrailing]
    · intro hspaces
      exact ⟨fs, by simp [hspaces], hdecoded⟩
  · intro text' v' c' hread' halike hspaces
    rw [decode_of_readFirst hread, decode_of_readFirst hread', ← hspaces]
    have hdump := halike.isDump_iff
    rw [← document_isSome_iff, ← document_isSome_iff] at hdump
    cases hv : (document v).value with
    | none =>
      have hv' : (document v').value = none := by
        apply Option.eq_none_iff_forall_not_mem.mpr
        intro fs hfs
        obtain ⟨fs', hfs'⟩ := hdump.mpr ⟨fs, hfs⟩
        simp [hv] at hfs'
      simp [hv']
    | some fs =>
      obtain ⟨fs', hv'⟩ := hdump.mp ⟨fs, hv⟩
      rw [hv']
      by_cases hall : c.rest.all Json.isSpace = true <;> simp [hall]

end MixinExterns.Dump
