import MixinExterns.Proofs.Dump.Insertions
import MixinExterns.Proofs.Externs.Settings

/-!
Records as objects and as lists. A record may be written as the list of its fields in their order or
as the object that has them under their names, at any depth and in any mixture. A list with more
items than the record has fields is none: such an entry of a list is dropped, such a value of a
field counts as absent, and such a feature makes the whole dump unfit. The settings of the externs
may be written either way, too.
-/

namespace MixinExterns.Dump

open Json (Value)

/-- One change of how a record is written, in a value that is read in some role. -/
inductive Respelling : Role → Value → Value → Prop where
  /-- A list of the first fields becomes the object that has these fields. -/
  | record (r : Record) (items : List Value) (h : items.length ≤ r.fields.length) :
      Respelling (.one r) (.list items) (.object ((r.fields.map (·.1)).zip items))
  /-- A list that is too long becomes `null`. -/
  | overlong (r : Record) {items : List Value} (h : r.fields.length < items.length) :
      Respelling (.one r) (.list items) .null
  /-- A list that is too long is left out of the list that it is an entry of. -/
  | dropped (r : Record) {items : List Value} (before after : List Value)
      (h : r.fields.length < items.length) :
      Respelling (.many r) (.list (before ++ .list items :: after)) (.list (before ++ after))
  | under {role part : Role} {key : String} {w w' : Value} (before after : List (String × Value))
      (hkey : (key, part) ∈ role.keys) (h : Respelling part w w') :
      Respelling role (.object (before ++ (key, w) :: after))
        (.object (before ++ (key, w') :: after))
  | item {role : Role} {w w' : Value} (before after : List Value)
      (h : Respelling (role.item before.length) w w') :
      Respelling role (.list (before ++ w :: after)) (.list (before ++ w' :: after))

/-- Whether changes of how records are written, made or undone, lead from one value to another. -/
def Respelled (role : Role) : Value → Value → Prop := Relation.EqvGen (Respelling role)

namespace Record

theorem not_clash_fields (r : Record) : ¬ r.Clash (r.fields.map (·.1)) := by
  cases r <;> simp [Clash, fields, featureFields]

theorem not_accepts_overlong {r : Record} {items : List Value}
    (h : r.fields.length < items.length) : ¬ r.Accepts (.list items) :=
  not_le.mpr h

/-- A list of fields is taken for the record that the object of these fields is. -/
theorem read_list_eq_read_object {r : Record} {items : List Value}
    (h : items.length ≤ r.fields.length) :
    (Role.one r).read (.list items) =
      (Role.one r).read (.object ((r.fields.map (·.1)).zip items)) := by
  have hclash : ¬ r.Clash (((r.fields.map (·.1)).zip items).map (·.1)) := by
    rw [map_fst_zip]
    exact fun hclash => r.not_clash_fields (r.clash_of_sublist (List.take_sublist _ _) hclash)
  refine Option.ext fun a => ?_
  change (record? r.decode _).value = some a ↔ (record? r.decode _).value = some a
  rw [record?_eq_some, record?_eq_some, decode_eq_ok, decode_eq_ok]
  exact and_congr_left' (iff_of_true h hclash)

/-- There is no record in a list that is too long. -/
theorem read_overlong {r : Record} {items : List Value} (h : r.fields.length < items.length) :
    (Role.one r).read (.list items) = none :=
  decode_of_not_accepts (not_accepts_overlong h)

end Record

theorem Respelling.read_eq {role : Role} {v v' : Value} (h : Respelling role v v') :
    role.read v = role.read v' := by
  induction h with
  | record r items h => exact Record.read_list_eq_read_object h
  | overlong r h =>
    exact (Record.read_overlong h).trans (Record.decode_of_not_accepts id).symm
  | dropped r before after h =>
    have hmisfits : (Role.many r).Misfits _ := Record.not_accepts_overlong h
    exact (hmisfits.read_eq (by simp) before after).symm
  | under before after hkey _ ih => exact Role.read_under_congr hkey ih before after
  | item before after _ ih => exact Role.read_list_congr ih

theorem Respelled.read_eq {role : Role} {v v' : Value} (h : Respelled role v v') :
    role.read v = role.read v' :=
  eq_of_eqvGen (fun _ _ hstep => hstep.read_eq) h

/-- A value that is read as part of another may be respelled in its place. -/
theorem Respelled.within {role part : Role} {f : Value → Value} {w w' : Value}
    (hf : ∀ v v', Respelling part v v' → Respelling role (f v) (f v'))
    (h : Respelled part w w') : Respelled role (f w) (f w') :=
  eqvGen_map hf h

/-- A dump with a feature in a list that is too long is not fit, whatever follows it. -/
theorem decode_of_overlong_feature {text : String} {v : Value} {c : Json.Cursor}
    {list items : List Value} (hread : Json.readFirst text = .ok (v, c))
    (hlist : IsDocumentOf v list) (hmem : .list items ∈ list)
    (hlong : Record.feature.fields.length < items.length) :
    (decode text).value = .error .shape := by
  have hnot : ¬ IsDump v := by
    rintro ⟨list', hlist', hentries⟩
    obtain rfl := hlist.unique hlist'
    exact absurd (hentries _ hmem) (not_le.mpr hlong)
  rw [decode_of_readFirst hread, value_document_of_not_isDump hnot]

/-- Records may be written as objects or as lists. Whether any of them, at any depth, are lists of
their first fields or the objects that have these fields makes no difference to the features of a
dump, and none to whether it has any. A list that is too long makes a feature, and with it the
dump, unfit; as an entry of a list it is dropped; in place of any other record it is no more than
`null`, and there is no record. The settings of the externs may be written either way as well. -/
theorem decode_of_respelled {text text' : String} {v v' : Value} {c c' : Json.Cursor}
    (hread : Json.readFirst text = .ok (v, c)) (hread' : Json.readFirst text' = .ok (v', c'))
    (hbehind : c.rest.all Json.isSpace = c'.rest.all Json.isSpace)
    (hrespelled : Respelled .document v v') :
    (decode text).value.toOption = (decode text').value.toOption ∧
    ((decode text).value = .error .shape ↔ (decode text').value = .error .shape) ∧
    (∀ list items, IsDocumentOf v list → .list items ∈ list →
      Record.feature.fields.length < items.length → (decode text).value = .error .shape) ∧
    (∀ (r : Record) items, r.fields.length < items.length →
      (record? r.decode (.list items)).value = none) ∧
    ∀ items : List Value, items.length ≤ EmitOptions.keys.length →
      (EmitOptions.ofJson (.list items)).toOption =
        (EmitOptions.ofJson (.object (EmitOptions.keys.zip items))).toOption := by
  have hdocument : (document v).value = (document v').value := hrespelled.read_eq
  refine ⟨?_, ?_, fun _ _ hlist hmem hlong => decode_of_overlong_feature hread hlist hmem hlong,
    fun _ _ hlong => Record.read_overlong hlong, fun _ h => EmitOptions.toOption_ofJson_list h⟩
  · rw [decode_of_readFirst hread, decode_of_readFirst hread', hdocument, hbehind]
    cases (document v').value with
    | none => rfl
    | some fs =>
      dsimp only
      split <;> rfl
  · rw [decode_of_readFirst hread, decode_of_readFirst hread', hdocument, hbehind]
    cases (document v').value with
    | none => exact iff_of_true rfl rfl
    | some fs =>
      dsimp only
      split <;> simp

/-- A dump of one feature, with its records as lists. Its source range and the second parameter of
its method are too long. -/
def listedDump : String :=
  "[[\"A\",[],[null,null],[],[],[[\"m\",[[\"x\"],[null,null,null,null]]]]]]"

/-- The same dump with its records as objects. -/
def keyedDump : String :=
  "[\x7b\"name\":\"A\",\"kinds\":[],\"sourceRange\":null,\"mixins\":[],\"properties\":[]," ++
    "\"methods\":[\x7b\"name\":\"m\",\"params\":[\x7b\"name\":\"x\"\x7d]\x7d]\x7d]"

/-- What is read from a dump of one feature with this source range and these methods. -/
def listedValue (range : Value) (methods : List Value) : Value :=
  .list [.list [.string "A", .list [], range, .list [], .list [], .list methods]]

def listedMethod : Value :=
  .list [.string "m", .list [.list [.string "x"], .list [.null, .null, .null, .null]]]

def keyedMethod : Value :=
  .object [("name", .string "m"), ("params", .list [.object [("name", .string "x")]])]

def keyedFeature : Value :=
  .object [("name", .string "A"), ("kinds", .list []), ("sourceRange", .null),
    ("mixins", .list []), ("properties", .list []), ("methods", .list [keyedMethod])]

theorem respelled_listedMethod : Respelled (.one .method) listedMethod keyedMethod := by
  have hdropped : Respelling (.one .method) listedMethod
      (.list [.string "m", .list [.list [.string "x"]]]) :=
    .item [_] [] (.dropped .param [_] [] (by decide))
  have hparam : Respelling (.one .method) (.list [.string "m", .list [.list [.string "x"]]])
      (.list [.string "m", .list [.object [("name", .string "x")]]]) :=
    .item [_] [] (.item [] [] (.record .param [_] (by decide)))
  have hmethod : Respelling (.one .method)
      (.list [.string "m", .list [.object [("name", .string "x")]]]) keyedMethod :=
    .record .method [_, _] (by decide)
  exact .trans _ _ _ (.rel _ _ hdropped) (.trans _ _ _ (.rel _ _ hparam) (.rel _ _ hmethod))

theorem respelled_listedFeature :
    Respelled .document (listedValue (.list [.null, .null]) [listedMethod])
      (.list [keyedFeature]) := by
  have hrange : Respelling .document (listedValue (.list [.null, .null]) [listedMethod])
      (listedValue .null [listedMethod]) :=
    .item [] [] (@Respelling.item (.one .feature) _ _ [_, _] _
      (.overlong .sourceRange (by decide)))
  have hmethods : Respelled .document (listedValue .null [listedMethod])
      (listedValue .null [keyedMethod]) :=
    respelled_listedMethod.within (f := fun w => listedValue .null [w]) fun _ _ hstep =>
      .item [] [] (@Respelling.item (.one .feature) _ _ [_, _, _, _, _] [] (.item [] [] hstep))
  have hfeature : Respelling .document (listedValue .null [keyedMethod]) (.list [keyedFeature]) :=
    .item [] [] (.record .feature [_, _, _, _, _, _] (by decide))
  exact .trans _ _ _ (.rel _ _ hrange) (.trans _ _ _ hmethods (.rel _ _ hfeature))

/-- A dump of one feature that is too long. -/
def overlongDump : String := "[[[],[],[],[],[],[],[],[]]]"

theorem readFirst_overlongDump :
    Json.readFirst overlongDump =
      .ok (.list [.list (List.replicate 8 (.list []))], ⟨[], ⟨1, 27⟩⟩) :=
  toOption_eq_some_iff.mp (by decide +kernel)

theorem decode_of_respelled_listed :
    (decode listedDump).value.toOption =
      some [{ name := "A", methods := [{ name := "m", params := [{ name := "x" }] }] }] ∧
    (decode overlongDump).value = .error .shape ∧
    (record? Dump.sourceRange (.list [.null, .null])).value = none ∧
    (EmitOptions.ofJson (.list [.null, .bool false])).toOption =
      some { suppressOverrideParams := false } := by
  have hread : Json.readFirst listedDump =
      .ok (listedValue (.list [.null, .null]) [listedMethod], ⟨[], ⟨1, 66⟩⟩) :=
    toOption_eq_some_iff.mp (by decide +kernel)
  have hread' : Json.readFirst keyedDump = .ok (.list [keyedFeature], ⟨[], ⟨1, 121⟩⟩) :=
    toOption_eq_some_iff.mp (by decide +kernel)
  have hdecoded : (decode keyedDump).value =
      .ok [{ name := "A", methods := [{ name := "m", params := [{ name := "x" }] }] }] := by
    rw [decode_of_readFirst hread']
    rfl
  obtain ⟨hsame, -, -, habsent, hsettings⟩ :=
    decode_of_respelled hread hread' rfl respelled_listedFeature
  obtain ⟨-, -, hunfit, -⟩ := decode_of_respelled readFirst_overlongDump readFirst_overlongDump
    rfl (.refl _)
  refine ⟨?_, ?_, habsent .sourceRange _ (by decide), ?_⟩
  · rw [hsame, hdecoded]
    rfl
  · exact hunfit _ _ (.inl rfl) (.head _) (by decide)
  · rw [hsettings _ (by decide)]
    rfl

end MixinExterns.Dump
