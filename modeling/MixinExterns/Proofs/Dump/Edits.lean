import MixinExterns.Proofs.Dump.Reading
import MixinExterns.Proofs.Results

/-!
Edits of a dump that change nothing in its features. The order of keys, unknown keys, repeated keys
below the level of features and values of the wrong shape may come and go at any depth. In a record
each field depends on the value of the right shape under its own key alone.
-/

namespace MixinExterns.Dump

open Json (Value)

namespace Role

/-- Whether a value has the shape that is asked for under a key. -/
def fits : Role → Value → Bool
  | name, .string _ => true
  | name, _ => false
  | text, .string s => !Text.isBlankText s
  | text, _ => false
  | privacy, .string s => ["public", "protected", "private"].contains s
  | privacy, _ => false
  | kinds, .list _ | parents, .list _ | many _, .list _ => true
  | kinds, _ | parents, _ | many _, _ => false
  | one _, .object _ => true
  | one r, .list items => items.length ≤ r.fields.length
  | one _, _ => false
  | _, _ => true

/-- The value under a key, unless it has the wrong shape. -/
def shaped (part : Role) (key : String) (members : List (String × Value)) : Option Value :=
  (lastUnder key members).filter part.fits

/-- Whether a known key must not be repeated. -/
def isStrict : Role → Bool
  | document | one .feature => true
  | _ => false

end Role

/-- One edit of a value that makes no difference to what is read from it in a role. -/
inductive Edit : Role → Value → Value → Prop where
  /-- What nothing is read from may be replaced. -/
  | unread (v v' : Value) : Edit .unread v v'
  /-- Members of which no two have one key may be put in another order. -/
  | reordered {role : Role} {members members' : List (String × Value)}
      (hnodup : (members.map (·.1)).Nodup) (hperm : members.Perm members') :
      Edit role (.object members) (.object members')
  /-- A key that is not known may be added. -/
  | unknown {role : Role} {key : String} (w : Value) (before after : List (String × Value))
      (hkey : key ∉ role.keys.map (·.1)) :
      Edit role (.object (before ++ after)) (.object (before ++ (key, w) :: after))
  /-- Where keys may be repeated, all values under a key but the last may be left out. -/
  | repeated {role : Role} {key : String} (w : Value) (before after : List (String × Value))
      (hlenient : role.isStrict = false) (hlater : key ∈ after.map (·.1)) :
      Edit role (.object (before ++ (key, w) :: after)) (.object (before ++ after))
  /-- A key may be left out if its value has the wrong shape. The keys must go together, as those
  of a decoded feature always do; those of a tag with both a title and a `tag` do not. -/
  | misshapen {role part : Role} {key : String} {members : List (String × Value)}
      (hkey : (key, part) ∈ role.keys) (hclash : ¬ role.Clash (members.map (·.1)))
      (hshape : part.shaped key members = none) :
      Edit role (.object members) (.object (members.filter (·.1 ≠ key)))
  /-- A value under a key may be edited in the role it has there. -/
  | under {role part : Role} {key : String} {w w' : Value} (before after : List (String × Value))
      (hkey : (key, part) ∈ role.keys) (h : Edit part w w') :
      Edit role (.object (before ++ (key, w) :: after)) (.object (before ++ (key, w') :: after))
  /-- An item of a list may be edited in the role it has there. -/
  | item {role : Role} {w w' : Value} (before after : List Value)
      (h : Edit (role.item before.length) w w') :
      Edit role (.list (before ++ w :: after)) (.list (before ++ w' :: after))

/-- Whether edits that are made or undone lead from one value to another. -/
def Edited (role : Role) : Value → Value → Prop := Relation.EqvGen (Edit role)

namespace Role

/-- A value of the wrong shape is read as `null` is. -/
theorem read_of_not_fits {part : Role} {v : Value} (h : part.fits v = false) :
    part.read v = part.read .null := by
  cases part with
  | text =>
    cases v with
    | string s =>
      have hblank : Text.isBlankText s = true := by simpa [fits] using h
      change text? (.string s) = none
      simp [text?, hblank]
    | _ => rfl
  | privacy =>
    cases v with
    | string s =>
      simp only [fits, List.contains_eq_mem, decide_eq_false_iff_not, List.mem_cons,
        List.not_mem_nil, or_false, not_or] at h
      change Privacy.ofWord s = .everyone
      simp [Privacy.ofWord, h]
    | _ => rfl
  | one r =>
    have hnone {v : Value} (h : ¬ r.Accepts v) : (one r).read v = none := by
      refine Option.eq_none_iff_forall_not_mem.mpr fun a ha => h ?_
      exact (Record.decode_eq_ok.mp (record?_eq_some.mp ha)).1
    have haccepts : ¬ r.Accepts v := by
      cases v <;> simp_all [fits, Record.Accepts]
    exact (hnone haccepts).trans (hnone (v := .null) id).symm
  | name | kinds | parents | many _ => cases v <;> first | rfl | simp [fits] at h
  | unread | word | parent | features | document => simp [fits] at h

/-- What is read under a key is read from the value of the right shape there. -/
theorem read_said (part : Role) (key : String) (members : List (String × Value)) :
    part.read (said key members) = part.read ((part.shaped key members).getD .null) := by
  unfold said shaped
  cases hlast : lastUnder key members with
  | none => rfl
  | some v =>
    cases hfits : part.fits v with
    | true => simp [Option.filter, hfits]
    | false => simpa [Option.filter, hfits] using read_of_not_fits hfits

theorem clash_congr {role : Role} {keys keys' : List String}
    (h : ∀ key ∈ role.keys.map (·.1), keys.count key = keys'.count key) :
    role.Clash keys ↔ role.Clash keys' := by
  cases role with
  | one r =>
    cases r with
    | feature =>
      have hcount (field : String) (hfield : field ∈ featureFields) :
          keys.count field = keys'.count field := h field hfield
      refine exists_congr fun field => and_congr_right fun hfield => ?_
      rw [hcount field hfield]
    | tag =>
      have htitle := h "title" (by simp [Role.keys, Record.fields])
      have htag := h "tag" (by simp [Role.keys, Record.fields, Record.aliases])
      simp only [Clash, Record.Clash, ← List.count_pos_iff, htitle, htag]
    | _ => rfl
  | document =>
    have hfeatures := h "features" (.head _)
    simp only [Clash, hfeatures]
  | _ => rfl

theorem clash_congr_of_lenient {role : Role} {keys keys' : List String}
    (hlenient : role.isStrict = false) (h : ∀ key, key ∈ keys ↔ key ∈ keys') :
    role.Clash keys ↔ role.Clash keys' := by
  cases role with
  | one r =>
    cases r with
    | feature => simp [isStrict] at hlenient
    | tag => simp only [Clash, Record.Clash, h]
    | _ => rfl
  | document => simp [isStrict] at hlenient
  | _ => rfl

/-- Keys that go together still do so without one whose value has the wrong shape. -/
theorem not_clash_filter {role part : Role} {key : String} {members : List (String × Value)}
    (hkey : (key, part) ∈ role.keys) (hclash : ¬ role.Clash (members.map (·.1)))
    (hshape : part.shaped key members = none) :
    ¬ role.Clash ((members.filter (·.1 ≠ key)).map (·.1)) := by
  cases role with
  | one r => exact fun h => hclash (r.clash_of_sublist (List.filter_sublist.map _) h)
  | document =>
    -- A document has the key of its features, and no value there has the wrong shape.
    obtain ⟨rfl, rfl⟩ := Prod.mk.inj (List.mem_singleton.mp hkey)
    have hone : (members.map (·.1)).count "features" = 1 := not_not.mp hclash
    have hlast := mem_keys_iff.mp (List.count_pos_iff.mp (hone ▸ Nat.one_pos))
    obtain ⟨v, hv⟩ := Option.isSome_iff_exists.mp hlast
    simp [shaped, hv, fits, Option.filter] at hshape
  | _ => exact hclash

end Role

/-- Leaving out a key whose value has the wrong shape does not change what is read under any key. -/
theorem read_said_filter {role part : Role} {key : String} {members : List (String × Value)}
    (hkey : (key, part) ∈ role.keys) (hshape : part.shaped key members = none) :
    ∀ e ∈ role.keys, e.2.read (said e.1 members) =
      e.2.read (said e.1 (members.filter (·.1 ≠ key))) := by
  rintro ⟨k, part'⟩ he
  by_cases hk : k = key
  · subst hk
    obtain rfl := Role.eq_of_mem_keys hkey he
    have hgone : k ∉ (members.filter (·.1 ≠ k)).map (·.1) := by simp
    have hnull : said k (members.filter (·.1 ≠ k)) = .null := by
      rw [said, lastUnder, occurrences_eq_nil.mpr hgone]
      rfl
    dsimp only
    rw [hnull, Role.read_said, hshape]
    rfl
  · exact congrArg _ (said_congr (occurrences_filter (by simpa using hk) members)).symm

theorem Edit.read_eq {role : Role} {v v' : Value} (h : Edit role v v') :
    role.read v = role.read v' := by
  induction h with
  | unread => rfl
  | @reordered role members members' hnodup hperm =>
    refine Role.read_object_congr (Role.clash_congr fun key _ => ?_) fun e _ => ?_
    · exact (hperm.map _).count_eq key
    · exact congrArg _ (said_congr (occurrences_perm hnodup hperm e.1))
  | @unknown role key w before after hkey =>
    have hne (k : String) (hk : k ∈ role.keys.map (·.1)) : key ≠ k := by
      rintro rfl
      exact hkey hk
    refine Role.read_object_congr (Role.clash_congr fun k hk => ?_) fun e he => ?_
    · simp [hne k hk]
    · rw [said_insert_of_ne (hne e.1 (List.mem_map_of_mem he))]
  | @repeated role key w before after hlenient hlater =>
    refine Role.read_object_congr (Role.clash_congr_of_lenient hlenient fun k => ?_) fun e _ => ?_
    · have hmem : k = key → k ∈ after.map (·.1) := by
        rintro rfl
        exact hlater
      simp only [List.map_append, List.map_cons, List.mem_append, List.mem_cons]
      tauto
    · rw [said_of_repeated hlater]
  | @misshapen role part key members hkey hclash hshape =>
    refine Role.read_object_congr ?_ (read_said_filter hkey hshape)
    exact iff_of_false hclash (Role.not_clash_filter hkey hclash hshape)
  | under before after hkey _ ih => exact Role.read_under_congr hkey ih before after
  | item before after _ ih => exact Role.read_list_congr ih

namespace Edited

variable {role part : Role} {v v' w w' : Value}

/-- Edits make no difference to what is read from a value. -/
theorem read_eq (h : Edited role v v') : role.read v = role.read v' :=
  eq_of_eqvGen (fun _ _ hedit => hedit.read_eq) h

/-- A value that is read as part of another may be edited in its place. -/
theorem within {f : Value → Value} (hf : ∀ v v', Edit part v v' → Edit role (f v) (f v'))
    (h : Edited part w w') : Edited role (f w) (f w') :=
  eqvGen_map hf h

end Edited

namespace Record

/-- The fields under some keys depend on the values of the right shape under these keys alone. -/
theorem keep_of_shaped {r : Record} {p : String → Bool} {members members' : List (String × Value)}
    {a a' : r.Decoded} (h : (r.decode (.object members)).value = .ok a)
    (h' : (r.decode (.object members')).value = .ok a')
    (hshaped : ∀ e ∈ (Role.one r).keys, p e.1 = true →
      e.2.shaped e.1 members = e.2.shaped e.1 members') :
    r.keep p a = r.keep p a' := by
  obtain ⟨-, rfl⟩ := decode_eq_ok.mp h
  obtain ⟨-, rfl⟩ := decode_eq_ok.mp h'
  refine keep_of_congr fun e he hp => ?_
  change e.2.read (said e.1 members) = e.2.read (said e.1 members')
  rw [Role.read_said, Role.read_said, hshaped e he hp]

theorem decode_replace {r : Record} {before : List (String × Value)} {key : String} {w : Value}
    {after : List (String × Value)} {a : r.Decoded}
    (h : (r.decode (.object (before ++ (key, w) :: after))).value = .ok a) (w' : Value) :
    ∃ a', (r.decode (.object (before ++ (key, w') :: after))).value = .ok a' ∧
      r.keep (· ≠ key) a = r.keep (· ≠ key) a' := by
  obtain ⟨haccepts, -⟩ := decode_eq_ok.mp h
  have h' := decode_eq_ok.mpr ⟨(r.accepts_replace before key w w' after).mp haccepts, rfl⟩
  refine ⟨_, h', keep_of_shaped h h' fun e _ hne => ?_⟩
  have hother : key ≠ e.1 := fun heq => by simp [heq] at hne
  simp [Role.shaped, lastUnder, occurrences_cons, hother]

/-- Another value under a key makes no difference to the fields under all other keys. -/
theorem keep_replace (r : Record) (before : List (String × Value)) (key : String) (w w' : Value)
    (after : List (String × Value)) :
    (r.decode (.object (before ++ (key, w) :: after))).value.toOption.map (r.keep (· ≠ key)) =
      (r.decode (.object (before ++ (key, w') :: after))).value.toOption.map
        (r.keep (· ≠ key)) := by
  cases h : (r.decode (.object (before ++ (key, w) :: after))).value with
  | ok a =>
    obtain ⟨a', h', hkept⟩ := decode_replace h w'
    rw [h']
    exact congrArg some hkept
  | error e =>
    cases h' : (r.decode (.object (before ++ (key, w') :: after))).value with
    | error e' => rfl
    | ok a' =>
      obtain ⟨a, ha, -⟩ := decode_replace h' w
      simp [h] at ha

end Record

/-- Edits of a dump do not change the features that it decodes to. The order of keys that are not
repeated, unknown keys, keys that are repeated later inside a feature and keys with values of the
wrong shape make no difference at any depth. In a record of any kind the fields under some keys
depend on the values of the right shape under these keys alone, and another value under one key
changes neither the other fields nor whether there is a record at all. -/
theorem decode_of_edited {text text' : String} {v v' : Value} {c c' : Json.Cursor}
    {fs : List Feature} (hread : Json.readFirst text = .ok (v, c))
    (hdecoded : (decode text).value = .ok fs) (hread' : Json.readFirst text' = .ok (v', c'))
    (hspaces : c'.rest.all Json.isSpace = true) (hedited : Edited .document v v') :
    (decode text').value = .ok fs ∧
      (∀ (r : Record) (p : String → Bool) (members members' : List (String × Value))
        (a a' : r.Decoded), (r.decode (.object members)).value = .ok a →
        (r.decode (.object members')).value = .ok a' →
        (∀ e ∈ (Role.one r).keys, p e.1 = true →
          e.2.shaped e.1 members = e.2.shaped e.1 members') →
        r.keep p a = r.keep p a') ∧
      ∀ (r : Record) (before : List (String × Value)) (key : String) (w w' : Value)
        (after : List (String × Value)),
        (r.decode (.object (before ++ (key, w) :: after))).value.toOption.map
            (r.keep (· ≠ key)) =
          (r.decode (.object (before ++ (key, w') :: after))).value.toOption.map
            (r.keep (· ≠ key)) := by
  refine ⟨?_, fun _ _ _ _ _ _ h h' hshaped => Record.keep_of_shaped h h' hshaped,
    Record.keep_replace⟩
  have hdocument : (document v).value = (document v').value := hedited.read_eq
  rw [decode_of_readFirst hread] at hdecoded
  rw [decode_of_readFirst hread', ← hdocument, hspaces]
  cases hfeatures : (document v).value with
  | none => simp [hfeatures] at hdecoded
  | some fs' =>
    simp only [hfeatures] at hdecoded
    split at hdecoded
    · exact hdecoded
    · simp at hdecoded

/-- A dump that repeats the name of a method and has an unknown visibility. -/
def untidyDump : String :=
  "[\x7b\"name\":\"A\",\"kinds\":[\"element-mixin\"],\"methods\":[\x7b\"name\":\"m\"," ++
    "\"name\":\"n\",\"privacy\":\"secret\"\x7d]\x7d]"

/-- The same dump without these, with its keys in another order and one more. -/
def tidyDump : String :=
  "[\x7b\"since\":null,\"methods\":[\x7b\"name\":\"n\"\x7d],\"name\":\"A\"," ++
    "\"kinds\":[\"element-mixin\"]\x7d]\n"

def untidyMethod : Value :=
  .object [("name", .string "m"), ("name", .string "n"), ("privacy", .string "secret")]

def tidyMethod : Value := .object [("name", .string "n")]

def untidyFeature : Value :=
  .object [("name", .string "A"), ("kinds", .list [.string "element-mixin"]),
    ("methods", .list [untidyMethod])]

def tidyFeature : Value :=
  .object [("since", .null), ("methods", .list [tidyMethod]), ("name", .string "A"),
    ("kinds", .list [.string "element-mixin"])]

theorem edited_untidyMethod : Edited (.one .method) untidyMethod tidyMethod := by
  have hprivacy : ("privacy", .privacy) ∈ (Role.one .method).keys := by
    simp [Role.keys, Record.fields]
  have hrepeated : Edit (.one .method) untidyMethod
      (.object [("name", .string "n"), ("privacy", .string "secret")]) :=
    .repeated (.string "m") [] _ rfl (by simp)
  exact .trans _ _ _ (.rel _ _ hrepeated) (.rel _ _ (.misshapen hprivacy id rfl))

theorem edited_untidyFeature : Edited (.one .feature) untidyFeature tidyFeature := by
  have hmethods : ("methods", .many .method) ∈ (Role.one .feature).keys := by
    simp [Role.keys, Record.fields]
  have hsince : "since" ∉ (Role.one .feature).keys.map (·.1) := by
    simp [Role.keys, Record.fields, Record.aliases]
  have hunder : Edited (.one .feature) untidyFeature
      (.object [("name", .string "A"), ("kinds", .list [.string "element-mixin"]),
        ("methods", .list [tidyMethod])]) :=
    edited_untidyMethod.within fun _ _ hedit => .under [_, _] [] hmethods (.item [] [] hedit)
  have hreordered : Edit (.one .feature)
      (.object [("name", .string "A"), ("kinds", .list [.string "element-mixin"]),
        ("methods", .list [tidyMethod])])
      (.object [("methods", .list [tidyMethod]), ("name", .string "A"),
        ("kinds", .list [.string "element-mixin"])]) :=
    .reordered (by simp) (@List.perm_append_comm _ [_, _] [_])
  have hunknown : Edit (.one .feature) _ tidyFeature := .unknown .null [] _ hsince
  exact .trans _ _ _ hunder (.trans _ _ _ (.rel _ _ hreordered) (.rel _ _ hunknown))

theorem decode_of_edited_untidy :
    (decode tidyDump).value =
      .ok [{ name := "A", kinds := ["element-mixin"], methods := [{ name := "n" }] }] := by
  have hread : Json.readFirst untidyDump = .ok (.list [untidyFeature], ⟨[], ⟨1, 95⟩⟩) :=
    toOption_eq_some_iff.mp (by decide +kernel)
  have hread' : Json.readFirst tidyDump = .ok (.list [tidyFeature], ⟨['\n'], ⟨1, 78⟩⟩) :=
    toOption_eq_some_iff.mp (by decide +kernel)
  have hdecoded : (decode untidyDump).value =
      .ok [{ name := "A", kinds := ["element-mixin"], methods := [{ name := "n" }] }] := by
    rw [decode_of_readFirst hread]
    rfl
  have hedited : Edited .document (.list [untidyFeature]) (.list [tidyFeature]) :=
    edited_untidyFeature.within (f := fun v => .list [v]) fun _ _ hedit =>
      @Edit.item .document _ _ [] [] hedit
  exact (decode_of_edited hread hdecoded hread' rfl hedited).1

end MixinExterns.Dump
