import MixinExterns.Externs.Generate
import MixinExterns.Proofs.Dump.Reading
import MixinExterns.Proofs.Results

/-!
Entries that do not fit. In the lists of kinds, members, parameters and tags they are dropped, each
one alone, wherever in the dump the list is. Among the parents of a feature such an entry counts as
a parent without an identifier, which the externs do not show.
-/

namespace MixinExterns

open Json (Value)

namespace Dump

/-- Whether an entry does not fit in a list that is read in this role. -/
def Role.Misfits : Role → Value → Prop
  | kinds, v => ∀ s, v ≠ .string s
  | parents, .string _ => False
  | parents, .object members => ∀ s, lastUnder "identifier" members ≠ some (.string s)
  | parents, _ => True
  | many r, v => ¬ r.Accepts v
  | _, _ => False

/-- A value before and after an entry is inserted that does not fit, into a list that is read in the
role `target`, at whatever depth. -/
inductive Inserted (target : Role) : Role → Value → Value → Prop where
  | entry (before after : List Value) {w : Value} (h : target.Misfits w) :
      Inserted target target (.list (before ++ after)) (.list (before ++ w :: after))
  /-- The list is in the value under a key. -/
  | under {role part : Role} {key : String} {w w' : Value} (before after : List (String × Value))
      (hkey : (key, part) ∈ role.keys) (h : Inserted target part w w') :
      Inserted target role (.object (before ++ (key, w) :: after))
        (.object (before ++ (key, w') :: after))
  /-- The list is in an item of another one. -/
  | item {role : Role} {w w' : Value} (before after : List Value)
      (h : Inserted target (role.item before.length) w w') :
      Inserted target role (.list (before ++ w :: after)) (.list (before ++ w' :: after))

/-- An entry that does not fit makes no difference to what is read from a list. -/
theorem Role.Misfits.read_eq {role : Role} {w : Value} (h : role.Misfits w)
    (hrole : role ≠ .parents) (before after : List Value) :
    role.read (.list (before ++ after)) = role.read (.list (before ++ w :: after)) := by
  cases role with
  | kinds =>
    have hword : word.read w = none := by
      cases w with
      | string s => exact absurd rfl (h s)
      | _ => rfl
    change Dump.kinds (.list _) = Dump.kinds (.list _)
    rw [kinds_list, kinds_list, List.foldl_append, List.foldl_append, List.foldl_cons, hword]
    rfl
  | many r =>
    change (entries r.decode _).value = (entries r.decode _).value
    simp only [value_entries, itemsOf, List.filterMap_append, List.filterMap_cons,
      Record.decode_of_not_accepts h]
  | parents => exact absurd rfl hrole
  | _ => exact absurd h id

theorem Inserted.read_eq {target role : Role} {v v' : Value} (h : Inserted target role v v')
    (htarget : target ≠ .parents) : role.read v = role.read v' := by
  induction h with
  | entry before after hmisfits => exact hmisfits.read_eq htarget before after
  | under before after hkey _ ih => exact Role.read_under_congr hkey ih before after
  | item before after _ ih => exact Role.read_list_congr ih

/-- Whether lists of parents are read in a role. -/
def Role.holdsParents : Role → Bool
  | parents | features | document | one .feature | many .feature => true
  | _ => false

theorem Role.holdsParents_of_mem_keys {role : Role} {e : String × Role} (hkey : e ∈ role.keys)
    (h : e.2.holdsParents = true) : role.holdsParents = true := by
  have hnone : role.holdsParents = false → role.keys.all (fun e => !e.2.holdsParents) = true := by
    cases role with
    | one r => cases r <;> simp [holdsParents, keys, Record.fields, Record.aliases]
    | _ => simp [holdsParents, keys]
  by_contra hnot
  have hall := List.all_eq_true.mp (hnone (by simpa using hnot)) e hkey
  simp [h] at hall

/-- Of a feature that is a list the fourth item is the list of parents. -/
theorem Role.eq_three_of_holdsParents {n : Nat}
    (h : ((Role.one .feature).item n).holdsParents = true) : n = 3 := by
  rcases n with _ | _ | _ | _ | _ | _ | _ | n
  case succ.succ.succ.zero => rfl
  all_goals simp [Role.item, Record.fields, Role.holdsParents] at h

theorem Inserted.holdsParents {role : Role} {v v' : Value} (h : Inserted .parents role v v') :
    role.holdsParents = true := by
  induction h with
  | entry => rfl
  | under before after hkey _ ih => exact Role.holdsParents_of_mem_keys hkey ih
  | @item role w w' before after _ ih =>
    cases role with
    | one r =>
      cases hfield : r.fields[before.length]? with
      | none => simp [Role.item, hfield, Role.holdsParents] at ih
      | some field =>
        have hkey : field ∈ (Role.one r).keys :=
          List.mem_append_left _ (List.mem_of_getElem? hfield)
        exact Role.holdsParents_of_mem_keys hkey (by simpa [Role.item, hfield] using ih)
    | many r => cases r <;> simp_all [Role.item, Role.holdsParents]
    | parents | features | document => rfl
    | _ => simp [Role.item, Role.holdsParents] at ih

/-- What does not fit among parents has no identifier. -/
theorem parent_of_misfits {w : Value} (h : Role.parents.Misfits w) : parent w = "" := by
  cases w with
  | string s => exact absurd h id
  | object members =>
    rw [Role.parent_object, said]
    cases hlast : lastUnder "identifier" members with
    | none => rfl
    | some v =>
      cases v with
      | string s => exact absurd hlast (h s)
      | _ => rfl
  | _ => rfl

theorem parents_of_inserted {v v' : Value} (h : Inserted .parents .parents v v') :
    ∃ front back, parents v = front ++ back ∧ parents v' = front ++ "" :: back := by
  cases h with
  | entry before after hmisfits =>
    refine ⟨before.map parent, after.map parent, List.map_append, ?_⟩
    rw [← parent_of_misfits hmisfits]
    exact List.map_append
  | under before after hkey _ => simp [Role.keys] at hkey
  | item before after h => exact absurd h.holdsParents (by simp [Role.item, Role.holdsParents])

/-- The feature `f'` is `f` with one parent more, which has no identifier. -/
def GainsParent (f f' : Feature) : Prop :=
  ∃ front back, f.parents = front ++ back ∧ f' = { f with parents := front ++ "" :: back }

theorem gainsParent_of_members (front : List (String × Value)) {back : List (String × Value)}
    {w w' : Value} (hback : "mixins" ∉ back.map (·.1)) (h : Inserted .parents .parents w w') :
    GainsParent (Record.feature.of fun key => said key (front ++ ("mixins", w) :: back))
      (Record.feature.of fun key => said key (front ++ ("mixins", w') :: back)) := by
  obtain ⟨before, after, hparents, hparents'⟩ := parents_of_inserted h
  have hsaid (v : Value) : said "mixins" (front ++ ("mixins", v) :: back) = v := by
    rw [said_insert, if_neg hback]
  refine ⟨before, after, ?_, ?_⟩
  · simp only [Record.of, hsaid, hparents]
  · simp [Record.of, hsaid, hparents', said_insert_of_ne]

theorem feature_of_inserted {v v' : Value} {f : Feature}
    (h : Inserted .parents (.one .feature) v v')
    (hf : (feature v).value = .ok f) : ∃ f', (feature v').value = .ok f' ∧ GainsParent f f' := by
  obtain ⟨haccepts, rfl⟩ := feature_eq_ok.mp hf
  cases h with
  | @under _ part key w w' before after hkey h =>
    obtain ⟨rfl, rfl⟩ : key = "mixins" ∧ part = .parents := by
      have hholds := h.holdsParents
      simp only [Role.keys, Record.fields, Record.aliases, List.append_nil, List.mem_cons,
        Prod.mk.injEq, List.not_mem_nil, or_false] at hkey
      rcases hkey with ⟨-, rfl⟩ | ⟨-, rfl⟩ | ⟨-, rfl⟩ | hmixins | ⟨-, rfl⟩ | ⟨-, rfl⟩ | ⟨-, rfl⟩
      case inr.inr.inr.inl => exact hmixins
      all_goals simp [Role.holdsParents] at hholds
    have honce : "mixins" ∉ after.map (·.1) := by
      intro hagain
      have hcount := List.count_pos_iff.mpr hagain
      refine haccepts ⟨"mixins", by simp [featureFields], ?_⟩
      simp only [List.map_append, List.map_cons, List.count_append, List.count_cons_self]
      omega
    have haccepts' := (Record.feature.accepts_replace before "mixins" w w' after).mp haccepts
    exact ⟨_, feature_eq_ok.mpr ⟨haccepts', rfl⟩, gainsParent_of_members _ honce h⟩
  | @item _ w w' before after h =>
    obtain ⟨name, kinds, range, rfl⟩ :=
      List.length_eq_three.mp (Role.eq_three_of_holdsParents h.holdsParents)
    have honce : "mixins" ∉ (["properties", "methods", "staticMethods"].zip after).map (·.1) := by
      intro hagain
      obtain ⟨e, he, hkey⟩ := List.mem_map.mp hagain
      have hname := (List.of_mem_zip he).1
      simp [hkey] at hname
    have haccepts' : Record.feature.Accepts (.list ([name, kinds, range] ++ w' :: after)) := by
      simpa [Record.Accepts] using haccepts
    exact ⟨_, feature_eq_ok.mpr ⟨haccepts', rfl⟩,
      gainsParent_of_members [("name", name), ("kinds", kinds), ("sourceRange", range)] honce h⟩

/-- One of the features `fs'` is one of `fs` with a parent more, which has no identifier, and the
others are the same. -/
def OneGainsParent (fs fs' : List Feature) : Prop :=
  ∃ front f f' back, fs = front ++ f :: back ∧ fs' = front ++ f' :: back ∧ GainsParent f f'

theorem features_of_inserted {before after : List Value} {e e' : Value} {fs : List Feature}
    (h : Inserted .parents (.one .feature) e e')
    (hfs : (features (before ++ e :: after)).value = some fs) :
    ∃ fs', (features (before ++ e' :: after)).value = some fs' ∧ OneGainsParent fs fs' := by
  simp only [features_eq_some] at hfs ⊢
  induction before generalizing fs with
  | nil =>
    obtain ⟨f, back, hf, hback, rfl⟩ := List.forall₂_cons_left_iff.mp hfs
    obtain ⟨f', hf', hgains⟩ := feature_of_inserted h hf
    exact ⟨f' :: back, .cons hf' hback, [], f, f', back, rfl, rfl, hgains⟩
  | cons v before ih =>
    obtain ⟨first, rest, hfirst, hrest, rfl⟩ := List.forall₂_cons_left_iff.mp hfs
    obtain ⟨fs', hfs', front, f, f', back, rfl, rfl, hgains⟩ := ih hrest
    exact ⟨first :: (front ++ f' :: back), .cons hfirst hfs', first :: front, f, f', back, rfl, rfl,
      hgains⟩

theorem document_of_inserted {v v' : Value} {fs : List Feature}
    (h : Inserted .parents .document v v') (hfs : (document v).value = some fs) :
    ∃ fs', (document v').value = some fs' ∧ OneGainsParent fs fs' := by
  cases h with
  | @under _ part key w w' before after hkey h =>
    obtain ⟨rfl, rfl⟩ := Prod.mk.inj (List.mem_singleton.mp hkey)
    rw [Role.value_document_object] at hfs ⊢
    simp only [List.map_append, List.map_cons] at hfs ⊢
    split at hfs
    · next hone =>
      have honce : "features" ∉ after.map (·.1) := by
        simp only [List.count_append, List.count_cons_self] at hone
        exact List.count_eq_zero.mp (by omega)
      rw [if_pos hone, said_insert, if_neg honce]
      rw [said_insert, if_neg honce] at hfs
      cases h with
      | under before after hkey _ => simp [Role.keys] at hkey
      | item before after h => exact features_of_inserted h hfs
    · simp at hfs
  | item before after h => exact features_of_inserted h hfs

end Dump

/-- A parent without an identifier is not shown. -/
theorem Feature.generate_of_gainsParent {f f' : Feature} (h : Dump.GainsParent f f')
    (o : EmitOptions) : f'.isEmitted o = f.isEmitted o ∧
      f'.declarations o = f.declarations o ∧ f'.events o = f.events o := by
  obtain ⟨front, back, hparents, rfl⟩ := h
  have htypes : { f with parents := front ++ "" :: back }.parentTypes = f.parentTypes := by
    simp [parentTypes, hparents]
  refine ⟨rfl, ?_, rfl⟩
  unfold declarations
  rw [htypes]
  rfl

theorem generate_of_oneGainsParent {fs fs' : List Feature} (h : Dump.OneGainsParent fs fs')
    (o : EmitOptions) : generate fs' o = generate fs o := by
  obtain ⟨front, f, f', back, rfl, rfl, hgains⟩ := h
  obtain ⟨hemitted, hdeclarations, hevents⟩ := Feature.generate_of_gainsParent hgains o
  simp only [generate, Externs.text, Externs.events, Externs.declarations, Externs.mixins,
    List.filter_append, List.filter_cons, hemitted, List.flatMap_append, List.flatMap_cons, hevents]
  split
  · simp only [List.flatMap_cons, hdeclarations, List.length_append, List.length_cons]
  · rfl

namespace Dump

/-- An entry that does not fit is dropped alone. Inserted into a list of kinds, members, parameters
or tags, wherever it is, it leaves the decoded features as they are; inserted among the parents of a
feature it becomes one parent without an identifier, and nothing else changes. Either way the
externs are the same under any options. -/
theorem decode_of_inserted {target : Role} {text text' : String} {v v' : Value}
    {c c' : Json.Cursor} {fs : List Feature} (hread : Json.readFirst text = .ok (v, c))
    (hdecoded : (decode text).value = .ok fs) (hread' : Json.readFirst text' = .ok (v', c'))
    (hspaces : c'.rest.all Json.isSpace = true) (hinserted : Inserted target .document v v') :
    ∃ fs', (decode text').value = .ok fs' ∧ (target ≠ .parents → fs' = fs) ∧
      (target = .parents → OneGainsParent fs fs') ∧ ∀ o, generate fs' o = generate fs o := by
  have hfs : (document v).value = some fs := by
    rw [decode_of_readFirst hread] at hdecoded
    cases hdocument : (document v).value with
    | none => simp [hdocument] at hdecoded
    | some fs₀ =>
      simp only [hdocument] at hdecoded
      split at hdecoded
      · exact congrArg some (Except.ok.inj hdecoded)
      · simp at hdecoded
  have hdecode' {fs' : List Feature} (hfs' : (document v').value = some fs') :
      (decode text').value = .ok fs' := by
    rw [decode_of_readFirst hread', hfs', hspaces]
    rfl
  by_cases htarget : target = .parents
  · subst htarget
    obtain ⟨fs', hfs', hgains⟩ := document_of_inserted hinserted hfs
    exact ⟨fs', hdecode' hfs', fun hnot => absurd rfl hnot, fun _ => hgains,
      generate_of_oneGainsParent hgains⟩
  · have hsame : (document v).value = (document v').value := hinserted.read_eq htarget
    exact ⟨fs, hdecode' (hsame ▸ hfs), fun _ => rfl, fun h => absurd h htarget, fun _ => rfl⟩

/-- A dump of one feature without parents, whose one method has no tags. -/
def bareDump : String :=
  "[\x7b\"mixins\":[],\"methods\":[\x7b\"jsdoc\":\x7b\"tags\":[]\x7d\x7d]\x7d]"

/-- The same dump with a tag that has both names. -/
def taggedDump : String :=
  "[\x7b\"mixins\":[],\"methods\":[\x7b\"jsdoc\":\x7b\"tags\":[" ++
    "\x7b\"title\":null,\"tag\":null\x7d]\x7d\x7d]\x7d]"

/-- The same dump with a parent that is no identifier. -/
def orphanDump : String :=
  "[\x7b\"mixins\":[null],\"methods\":[\x7b\"jsdoc\":\x7b\"tags\":[]\x7d\x7d]\x7d]"

/-- What such a dump is read as, with these parents and tags. -/
def bareValue (parents tags : List Value) : Value :=
  .list [.object [("mixins", .list parents),
    ("methods", .list [.object [("jsdoc", .object [("tags", .list tags)])]])]]

def twiceTitled : Value := .object [("title", .null), ("tag", .null)]

theorem inserted_twiceTitled :
    Inserted (.many .tag) .document (bareValue [] []) (bareValue [] [twiceTitled]) := by
  have hmisfits : (Role.many .tag).Misfits twiceTitled := not_not_intro ⟨by simp, by simp⟩
  have hmethods : ("methods", .many .method) ∈ (Role.one .feature).keys := by
    simp [Role.keys, Record.fields]
  have hjsdoc : ("jsdoc", .one .docComment) ∈ (Role.one .method).keys := by
    simp [Role.keys, Record.fields]
  have htags : ("tags", .many .tag) ∈ (Role.one .docComment).keys := .head _
  exact .item [] [] (.under [_] [] hmethods (.item [] [] (.under [] [] hjsdoc
    (.under [] [] htags (.entry [] [] hmisfits)))))

theorem inserted_orphan :
    Inserted .parents .document (bareValue [] []) (bareValue [.null] []) := by
  have hmixins : ("mixins", .parents) ∈ (Role.one .feature).keys := by
    simp [Role.keys, Record.fields]
  exact .item [] [] (.under [] [_] hmixins (.entry [] [] trivial))

theorem decode_of_inserted_bare :
    (decode taggedDump).value = .ok [{ methods := [{ doc := some {} }] }] ∧
      ∃ fs, (decode orphanDump).value = .ok fs ∧
        OneGainsParent [{ methods := [{ doc := some {} }] }] fs := by
  have hread : Json.readFirst bareDump = .ok (bareValue [] [], ⟨[], ⟨1, 49⟩⟩) :=
    toOption_eq_some_iff.mp (by decide +kernel)
  have hread₁ : Json.readFirst taggedDump = .ok (bareValue [] [twiceTitled], ⟨[], ⟨1, 74⟩⟩) :=
    toOption_eq_some_iff.mp (by decide +kernel)
  have hread₂ : Json.readFirst orphanDump = .ok (bareValue [.null] [], ⟨[], ⟨1, 53⟩⟩) :=
    toOption_eq_some_iff.mp (by decide +kernel)
  have hdecoded : (decode bareDump).value = .ok [{ methods := [{ doc := some {} }] }] := by
    rw [decode_of_readFirst hread]
    rfl
  obtain ⟨_, hsame, hdropped, -⟩ :=
    decode_of_inserted hread hdecoded hread₁ rfl inserted_twiceTitled
  obtain ⟨fs, hfs, -, hgains, -⟩ := decode_of_inserted hread hdecoded hread₂ rfl inserted_orphan
  have hother : Role.many .tag ≠ .parents := by
    intro h
    cases h
  obtain rfl := hdropped hother
  exact ⟨hsame, fs, hfs, hgains rfl⟩

end Dump

end MixinExterns
