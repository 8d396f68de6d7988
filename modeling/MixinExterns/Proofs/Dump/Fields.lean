import MixinExterns.Proofs.Dump.Members

/-!
The records of a dump and their fields. Each field of a decoded record is read from what the record
says under the key of that field, and a key that is missing says `null`. Whether a record can be
decoded at all is seen from its keys, or from its length if it is written as a list.
-/

namespace MixinExterns.Dump

open Json (Value)

variable {α : Type}

/-- The kinds of records in a dump. -/
inductive Record where
  | feature
  | sourceRange
  | property
  | method
  | param
  | returned
  | docComment
  | tag

/-- What the values in a dump are read as. -/
inductive Role where
  /-- A value that nothing is read from. -/
  | unread
  | name
  | text
  | privacy
  /-- One of the kinds of a feature. -/
  | word
  | kinds
  | parent
  | parents
  | one (r : Record)
  | many (r : Record)
  | features
  | document

namespace Record

/-- What a record is decoded to. There is nothing to a tag but its title. -/
def Decoded : Record → Type
  | feature => Feature
  | sourceRange => SourceRange
  | property => Property
  | method => Method
  | param => Param
  | returned => Return
  | docComment => DocComment
  | tag => String

def decode : (r : Record) → Value → Logged (Except Mismatch r.Decoded)
  | feature => Dump.feature
  | sourceRange => Dump.sourceRange
  | property => Dump.property
  | method => Dump.method
  | param => Dump.param
  | returned => Dump.returned
  | docComment => Dump.docComment
  | tag => Dump.tag

/-- The fields of a record in their order. -/
def fields : Record → List (String × Role)
  | feature => [("name", .name), ("kinds", .kinds), ("sourceRange", .one sourceRange),
      ("mixins", .parents), ("properties", .many property), ("methods", .many method),
      ("staticMethods", .many method)]
  | sourceRange => [("file", .text)]
  | property => [("name", .name), ("type", .text), ("privacy", .privacy),
      ("inheritedFrom", .text)]
  | method => [("name", .name), ("params", .many param), ("return", .one returned),
      ("privacy", .privacy), ("inheritedFrom", .text), ("jsdoc", .one docComment)]
  | param => [("name", .name), ("type", .text), ("description", .text)]
  | returned => [("type", .text)]
  | docComment => [("tags", .many tag)]
  | tag => [("title", .name)]

/-- The fields of a record by the other names they go by. -/
def aliases : Record → List (String × Role)
  | tag => [("tag", .name)]
  | _ => []

/-- Whether an object with these keys is no record. A feature must not repeat a field, and a tag must
not have its title by both names. -/
def Clash : Record → List String → Prop
  | feature, keys => ∃ field ∈ featureFields, 1 < keys.count field
  | tag, keys => "title" ∈ keys ∧ "tag" ∈ keys
  | _, _ => False

/-- The record that is made up of what is told under each key. -/
def of : (r : Record) → (String → Value) → r.Decoded
  | feature, told =>
    { name := stringOrEmpty (told "name")
      kinds := Dump.kinds (told "kinds")
      sourceRange := (record? Dump.sourceRange (told "sourceRange")).value
      parents := Dump.parents (told "mixins")
      properties := (entries Dump.property (told "properties")).value
      methods := (entries Dump.method (told "methods")).value
      staticMethods := (entries Dump.method (told "staticMethods")).value : Feature }
  | sourceRange, told => { file := text? (told "file") : SourceRange }
  | property, told =>
    { name := stringOrEmpty (told "name")
      type := text? (told "type")
      privacy := Dump.privacy (told "privacy")
      inheritedFrom := text? (told "inheritedFrom") : Property }
  | method, told =>
    { name := stringOrEmpty (told "name")
      params := (entries Dump.param (told "params")).value
      returned := (record? Dump.returned (told "return")).value
      privacy := Dump.privacy (told "privacy")
      inheritedFrom := text? (told "inheritedFrom")
      doc := (record? Dump.docComment (told "jsdoc")).value : Method }
  | param, told =>
    { name := stringOrEmpty (told "name")
      type := text? (told "type")
      description := text? (told "description") : Param }
  | returned, told => { type := text? (told "type") : Return }
  | docComment, told => { tags := (entries Dump.tag (told "tags")).value : DocComment }
  | tag, told => stringOrEmpty (told "title") ++ stringOrEmpty (told "tag")

/-- The record with its fields under some keys, and with the defaults of all others. The title of a
tag is kept if it is under both of its names. -/
def keep (p : String → Bool) : (r : Record) → r.Decoded → r.Decoded
  | feature, (f : Feature) =>
    { name := if p "name" then f.name else default
      kinds := if p "kinds" then f.kinds else default
      sourceRange := if p "sourceRange" then f.sourceRange else default
      parents := if p "mixins" then f.parents else default
      properties := if p "properties" then f.properties else default
      methods := if p "methods" then f.methods else default
      staticMethods := if p "staticMethods" then f.staticMethods else default : Feature }
  | sourceRange, (s : SourceRange) => { file := if p "file" then s.file else default : SourceRange }
  | property, (x : Property) =>
    { name := if p "name" then x.name else default
      type := if p "type" then x.type else default
      privacy := if p "privacy" then x.privacy else default
      inheritedFrom := if p "inheritedFrom" then x.inheritedFrom else default : Property }
  | method, (m : Method) =>
    { name := if p "name" then m.name else default
      params := if p "params" then m.params else default
      returned := if p "return" then m.returned else default
      privacy := if p "privacy" then m.privacy else default
      inheritedFrom := if p "inheritedFrom" then m.inheritedFrom else default
      doc := if p "jsdoc" then m.doc else default : Method }
  | param, (x : Param) =>
    { name := if p "name" then x.name else default
      type := if p "type" then x.type else default
      description := if p "description" then x.description else default : Param }
  | returned, (x : Return) => { type := if p "type" then x.type else default : Return }
  | docComment, (d : DocComment) => { tags := if p "tags" then d.tags else default : DocComment }
  | tag, (title : String) => if p "title" && p "tag" then title else ""

/-- What a record says: a list says its items under the fields in their order. -/
def members (r : Record) : Value → List (String × Value)
  | .object members => members
  | .list items => (r.fields.map (·.1)).zip items
  | _ => []

/-- Whether a value can be taken for a record. -/
def Accepts (r : Record) : Value → Prop
  | .object members => ¬ r.Clash (members.map (·.1))
  | .list items => items.length ≤ r.fields.length
  | _ => False

end Record

namespace Role

/-- The keys under which something is read from an object. -/
def keys : Role → List (String × Role)
  | one r => r.fields ++ r.aliases
  | parent => [("identifier", name)]
  | document => [("features", features)]
  | _ => []

/-- What the item at a place in a list is read as. -/
def item : Role → Nat → Role
  | kinds, _ => word
  | parents, _ => parent
  | many r, _ => one r
  | features, _ => one .feature
  | document, _ => one .feature
  | one r, n => (r.fields[n]?).elim unread (·.2)
  | _, _ => unread

/-- Whether nothing can be read from an object because of its keys. -/
def Clash : Role → List String → Prop
  | one r, keys => r.Clash keys
  | document, keys => keys.count "features" ≠ 1
  | _, _ => False

def Meaning : Role → Type
  | unread => Unit
  | name | parent => String
  | text | word => Option String
  | privacy => Privacy
  | kinds | parents => List String
  | one r => Option r.Decoded
  | many r => List r.Decoded
  | features | document => Option (List Feature)

def read : (role : Role) → Value → role.Meaning
  | unread, _ => ()
  | name, v => stringOrEmpty v
  | text, v => text? v
  | privacy, v => Dump.privacy v
  | word, .string s => some s
  | word, _ => none
  | kinds, v => Dump.kinds v
  | parent, v => Dump.parent v
  | parents, v => Dump.parents v
  | one r, v => (record? r.decode v).value
  | many r, v => (entries r.decode v).value
  | features, v => (featureList v).value
  | document, v => (Dump.document v).value

theorem nodup_keys (role : Role) : (role.keys.map (·.1)).Nodup := by
  cases role with
  | one r => cases r <;> simp [keys, Record.fields, Record.aliases]
  | _ => simp [keys]

theorem eq_of_mem_keys {role part part' : Role} {key : String} (h : (key, part) ∈ role.keys)
    (h' : (key, part') ∈ role.keys) : part = part' :=
  congrArg Prod.snd (List.inj_on_of_nodup_map role.nodup_keys h h' rfl)

end Role

namespace Record

/-- The fields that are kept of a record depend on what is told under their keys alone. -/
theorem keep_of_congr {r : Record} {p : String → Bool} {told told' : String → Value}
    (h : ∀ e ∈ (Role.one r).keys, p e.1 = true → e.2.read (told e.1) = e.2.read (told' e.1)) :
    r.keep p (r.of told) = r.keep p (r.of told') := by
  have hkept {β : Type} {q : Bool} {x y d : β} (h : q = true → x = y) :
      (if q then x else d) = if q then y else d := by
    cases q <;> simp_all
  cases r <;>
    simp only [Role.keys, fields, aliases, List.append_nil, List.cons_append, List.nil_append,
      List.forall_mem_cons, List.not_mem_nil, false_implies, implies_true, and_true] at h
  case feature =>
    obtain ⟨h₁, h₂, h₃, h₄, h₅, h₆, h₇⟩ := h
    exact (Feature.mk.injEq ..).mpr ⟨hkept h₁, hkept h₂, hkept h₃, hkept h₄, hkept h₅, hkept h₆,
      hkept h₇⟩
  case sourceRange => exact (SourceRange.mk.injEq ..).mpr (hkept h)
  case property =>
    obtain ⟨h₁, h₂, h₃, h₄⟩ := h
    exact (Property.mk.injEq ..).mpr ⟨hkept h₁, hkept h₂, hkept h₃, hkept h₄⟩
  case method =>
    obtain ⟨h₁, h₂, h₃, h₄, h₅, h₆⟩ := h
    exact (Method.mk.injEq ..).mpr ⟨hkept h₁, hkept h₂, hkept h₃, hkept h₄, hkept h₅, hkept h₆⟩
  case param =>
    obtain ⟨h₁, h₂, h₃⟩ := h
    exact (Param.mk.injEq ..).mpr ⟨hkept h₁, hkept h₂, hkept h₃⟩
  case returned => exact (Return.mk.injEq ..).mpr (hkept h)
  case docComment => exact (DocComment.mk.injEq ..).mpr (hkept h)
  case tag =>
    obtain ⟨htitle, htag⟩ := h
    refine hkept fun hboth => ?_
    obtain ⟨hp, hp'⟩ := (Bool.and_eq_true _ _).mp hboth
    exact congrArg₂ (· ++ ·) (htitle hp) (htag hp')

theorem keep_all (r : Record) (a : r.Decoded) : r.keep (fun _ => true) a = a := by
  cases r <;> rfl

/-- A record depends on what is told under its keys alone. -/
theorem of_congr {r : Record} {told told' : String → Value}
    (h : ∀ e ∈ (Role.one r).keys, e.2.read (told e.1) = e.2.read (told' e.1)) :
    r.of told = r.of told' := by
  rw [← r.keep_all (r.of told), ← r.keep_all (r.of told')]
  exact keep_of_congr fun e he _ => h e he

end Record

section Visits

variable [Inhabited α] {set : α → String → Value → Logged α} {of : (String → Value) → α} {a : α}

theorem build_of_said {visited : Visit} (hdefault : of (fun _ => .null) = default)
    (hset : ∀ told key v,
      (set (of told) key v).value = of fun k => if key = k then v else told k) :
    (visited.build set).value = .ok a ↔
      visited.fault = none ∧ of (fun key => said key visited.entries) = a := by
  rw [build_eq_ok, ← hdefault, foldl_of_said of (fun r key v => (set r key v).value) hset]

/-- A record without special rules is visited if it is written as one. -/
theorem visit_eq_ok {r : Record} (record : String) {v : Value} (hclash : ∀ keys, ¬ r.Clash keys)
    (hdefault : of (fun _ => .null) = default)
    (hset : ∀ told key v,
      (set (of told) key v).value = of fun k => if key = k then v else told k) :
    ((visit record (r.fields.map (·.1)) v).build set).value = .ok a ↔
      r.Accepts v ∧ of (fun key => said key (r.members v)) = a := by
  rw [build_of_said hdefault hset]
  cases v with
  | object members => simp [visit, Record.Accepts, Record.members, hclash]
  | list items => simp [visit, visitList, Record.Accepts, Record.members]
  | _ => simp [visit, Record.Accepts]

end Visits

theorem visitOnce_entries {fields : List String} {members : List (String × Value)}
    {seen : List String} (h : (visitOnce fields members seen).fault = none) :
    (visitOnce fields members seen).entries = members.filter fun e => fields.contains e.1 := by
  induction members generalizing seen with
  | nil => rfl
  | cons e members ih =>
    obtain ⟨key, v⟩ := e
    unfold visitOnce at h ⊢
    rw [List.filter_cons]
    by_cases hkey : fields.contains key = true
    · simp only [hkey, Bool.not_true, Bool.false_eq_true, if_false, if_true] at h ⊢
      split at h
      · simp at h
      · next hseen =>
        rw [if_neg hseen]
        exact congrArg _ (ih h)
    · simp only [hkey, Bool.not_false, if_true] at h ⊢
      exact ih h

theorem feature_eq_ok {v : Value} {f : Feature} : (feature v).value = .ok f ↔
    Record.feature.Accepts v ∧
      Record.feature.of (fun key => said key (Record.feature.members v)) = f := by
  have hdefault : Record.feature.of (fun _ => .null) = (default : Feature) := rfl
  refine (build_of_said (α := Feature) hdefault fun told key w => ?_).trans ?_
  · split <;> simp_all [Record.of]
  · cases v with
    | object members =>
      have hfault : (visitOnce featureFields members []).fault = none ↔
          Record.feature.Accepts (.object members) := by
        simp [visitOnce_fault, length_occurrences, Record.Accepts, Record.Clash]
      refine (and_congr_left' hfault).trans (and_congr_right fun haccepts => ?_)
      have hentries := visitOnce_entries (hfault.mpr haccepts)
      refine iff_of_eq (congrArg (· = f) (Record.of_congr fun e he => congrArg _ ?_))
      have hfield : featureFields.contains e.1 = true := by
        have hmem : e.1 ∈ featureFields :=
          List.mem_map.mpr ⟨e, (List.append_nil _).subst he, rfl⟩
        simpa using hmem
      simp only [visitStrict, hentries, Record.members]
      exact said_congr (occurrences_filter (fun _ => hfield) members)
    | list items =>
      refine and_congr_left' ?_
      simp [visitStrict, visit, visitList, Record.Accepts, featureFields, Record.fields]
    | _ => simp [visitStrict, visit, Record.Accepts]

/-- A tag that has at most one title is that title, whichever of the names it goes by. -/
theorem foldl_titles {titles : List (String × Value)}
    (hkeys : ∀ e ∈ titles, e.1 = "title" ∨ e.1 = "tag") (hlength : titles.length ≤ 1) :
    titles.foldl (fun _ e => stringOrEmpty e.2) "" =
      Record.tag.of fun key => said key titles := by
  match titles with
  | [] => rfl
  | [(key, v)] =>
    rcases hkeys _ (.head _) with rfl | rfl
    · simp [Record.of, said, lastUnder, occurrences, stringOrEmpty]
    · simp [Record.of, said, lastUnder, occurrences, stringOrEmpty]
  | _ :: _ :: _ => simp at hlength

theorem length_titles {titles : List (String × Value)}
    (hkeys : ∀ e ∈ titles, e.1 = "title" ∨ e.1 = "tag") :
    titles.length = (occurrences "title" titles).length + (occurrences "tag" titles).length := by
  induction titles with
  | nil => rfl
  | cons e titles ih =>
    obtain ⟨key, v⟩ := e
    have hrest := ih fun e he => hkeys e (.tail _ he)
    rcases hkeys _ (.head _) with rfl | rfl
    · simp [occurrences_cons, hrest]
      omega
    · simp [occurrences_cons, hrest]
      omega

/-- A tag decodes if of the titles that count at most one is there. -/
theorem titles_eq_ok {titles members : List (String × Value)} {title : String}
    (hkeys : ∀ e ∈ titles, e.1 = "title" ∨ e.1 = "tag")
    (htitle : occurrences "title" titles = (lastUnder "title" members).toList)
    (htag : occurrences "tag" titles = (lastUnder "tag" members).toList) :
    ((Visit.mk titles (if 1 < titles.length then some (.duplicateField "title") else none)).build
      fun _ _ v => pure (stringOrEmpty v)).value = .ok title ↔
      ¬ Record.tag.Clash (members.map (·.1)) ∧
        Record.tag.of (fun key => said key members) = title := by
  have hlength : ¬ 1 < titles.length ↔ ¬ Record.tag.Clash (members.map (·.1)) := by
    rw [length_titles hkeys, htitle, htag, Record.Clash, mem_keys_iff, mem_keys_iff]
    cases lastUnder "title" members <;> cases lastUnder "tag" members <;> simp
  rw [build_eq_ok, ← hlength]
  simp only [ite_eq_right_iff, reduceCtorEq, imp_false, Logged.value_pure]
  refine and_congr_right fun hone => iff_of_eq (congrArg (· = title) ?_)
  refine (foldl_titles hkeys (not_lt.mp hone)).trans (Record.of_congr fun e he => congrArg _ ?_)
  simp only [Role.keys, Record.fields, Record.aliases, List.cons_append, List.nil_append,
    List.mem_cons, List.not_mem_nil, or_false] at he
  rcases he with rfl | rfl
  · exact said_of_occurrences htitle
  · exact said_of_occurrences htag

theorem tag_eq_ok {v : Value} {title : String} : (tag v).value = .ok title ↔
    Record.tag.Accepts v ∧
      Record.tag.of (fun key => said key (Record.tag.members v)) = title := by
  unfold tag
  cases v with
  | object members =>
    apply titles_eq_ok
    · intro e he
      simpa using (List.mem_filter.mp he).2
    · rw [occurrences_filter (by simp)]
      exact occurrences_ofEntries "title" members
    · rw [occurrences_filter (by simp)]
      exact occurrences_ofEntries "tag" members
  | list items =>
    match items with
    | [] =>
      rw [build_eq_ok]
      exact and_congr (by simp [visit, visitList, Record.Accepts, Record.fields]) Iff.rfl
    | [w] =>
      rw [build_eq_ok]
      refine and_congr (by simp [visit, visitList, Record.Accepts, Record.fields]) ?_
      exact iff_of_eq (congrArg (· = title) (foldl_titles (by simp) le_rfl))
    | w :: w' :: more => simp [build_eq_ok, visit, visitList, Record.Accepts, Record.fields]
  | _ => simp [build_eq_ok, visit, Record.Accepts]

/-- A value decodes as a record if it can be taken for one, and then the record is made up of what
it says under each key. -/
theorem Record.decode_eq_ok {r : Record} {v : Value} {a : r.Decoded} :
    (r.decode v).value = .ok a ↔ r.Accepts v ∧ r.of (fun key => said key (r.members v)) = a := by
  cases r with
  | feature => exact feature_eq_ok
  | tag => exact tag_eq_ok
  | sourceRange =>
    refine visit_eq_ok (r := .sourceRange) "SourceRange" (fun _ => id) rfl fun told key w => ?_
    split <;> simp_all [of]
  | property =>
    refine visit_eq_ok (r := .property) "Property" (fun _ => id) rfl fun told key w => ?_
    split <;> simp_all [of]
  | method =>
    refine visit_eq_ok (r := .method) "Method" (fun _ => id) rfl fun told key w => ?_
    split <;> simp_all [of]
  | param =>
    refine visit_eq_ok (r := .param) "Param" (fun _ => id) rfl fun told key w => ?_
    split <;> simp_all [of]
  | returned =>
    refine visit_eq_ok (r := .returned) "Return" (fun _ => id) rfl fun told key w => ?_
    split <;> simp_all [of]
  | docComment =>
    refine visit_eq_ok (r := .docComment) "Jsdoc" (fun _ => id) rfl fun told key w => ?_
    split <;> simp_all [of]

theorem Record.decode_of_not_accepts {r : Record} {v : Value} (h : ¬ r.Accepts v) :
    (r.decode v).value.toOption = none := by
  cases hdecoded : (r.decode v).value with
  | error cause => rfl
  | ok a => exact absurd (Record.decode_eq_ok.mp hdecoded).1 h

end MixinExterns.Dump
