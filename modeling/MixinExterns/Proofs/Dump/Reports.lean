import Mathlib.Data.List.Perm.Basic
import MixinExterns.Proofs.Dump.Listings
import MixinExterns.Proofs.Results

/-!
What is reported while a dump is decoded. An entry of a list that does not fit is left out and
reported, once for each entry. Records are visited one inside the other and in no fixed order of
their keys, so the reports about one list need not follow each other; but they are those about all
lists of the dump, put in some order.
-/

namespace MixinExterns

open Json (Value)
open scoped List

variable {α β : Type}

@[simp]
theorem Logged.events_map (f : α → β) (x : Logged α) : (f <$> x).events = x.events :=
  List.append_nil _

theorem Logged.events_foldlM {f : β → α → Logged β} {g : α → List Event}
    (h : ∀ b a, (f b a).events = g a) (items : List α) (b : β) :
    (items.foldlM f b).events = items.flatMap g := by
  induction items generalizing b with
  | nil => rfl
  | cons a items ih => simp only [List.foldlM_cons, Logged.events_bind, h, ih, List.flatMap_cons]

namespace Dump

/-- The reports on the way to a record are those about its fields. -/
theorem events_build [Inhabited α] (v : Visit) {set : α → String → Value → Logged α}
    {f : String → Value → List Event} (h : ∀ r key w, (set r key w).events = f key w) :
    (v.build set).events = v.entries.flatMap fun e => f e.1 e.2 := by
  unfold Visit.build
  simp only [Logged.events_bind, Logged.events_pure, List.append_nil]
  exact Logged.events_foldlM (fun r e => h r e.1 e.2) _ _

theorem flatMap_if_eq [DecidableEq α] {keys : List α} (hnodup : keys.Nodup) {key : α}
    {x : List β} (h : key ∉ keys → x = []) :
    (keys.flatMap fun k => if key = k then x else []) = x := by
  induction keys with
  | nil => exact (h (by simp)).symm
  | cons k keys ih =>
    obtain ⟨hnot, hnodup⟩ := List.nodup_cons.mp hnodup
    rw [List.flatMap_cons]
    by_cases hkey : key = k
    · subst hkey
      have hrest : (keys.flatMap fun k => if key = k then x else []) = [] := by
        refine List.flatMap_eq_nil_iff.mpr fun k hk => if_neg ?_
        rintro rfl
        exact hnot hk
      rw [if_pos rfl, hrest, List.append_nil]
    · rw [if_neg hkey, List.nil_append]
      exact ih hnodup fun hk => h (by simp [hkey, hk])

/-- Whether something is said of the values under some keys only, and nothing of `null`. -/
structure Concerns (keys : List String) (f : String → Value → List β) : Prop where
  nodup : keys.Nodup
  other : ∀ key ∉ keys, ∀ w, f key w = []
  null : ∀ key, f key .null = []

namespace Concerns

variable {keys : List String} {f : String → Value → List β} {members : List (String × Value)}

/-- What is said of members one by one may be said key by key. -/
theorem flatMap_perm (h : Concerns keys f) (members : List (String × Value)) :
    (members.flatMap fun e => f e.1 e.2) ~
      keys.flatMap fun key => (occurrences key members).flatMap (f key) := by
  induction members with
  | nil => simp [occurrences]
  | cons e members ih =>
    obtain ⟨k, w⟩ := e
    have hsplit : (fun key => (occurrences key ((k, w) :: members)).flatMap (f key)) =
        fun key => (if k = key then f k w else []) ++
          (occurrences key members).flatMap (f key) := by
      funext key
      rw [occurrences_cons]
      by_cases hkey : k = key
      · simp [hkey]
      · simp [hkey]
    rw [List.flatMap_cons, hsplit]
    refine List.Perm.trans ?_ (List.flatMap_append_perm keys _ _)
    rw [flatMap_if_eq h.nodup fun hk => h.other k hk w]
    exact ih.append_left _

/-- Of a key that is not repeated, what is said of the member is said of what it says. -/
theorem flatMap_occurrences (h : Concerns keys f) {key : String}
    (honce : (occurrences key members).length ≤ 1) :
    (occurrences key members).flatMap (f key) = f key (said key members) := by
  unfold said lastUnder
  cases hunder : occurrences key members with
  | nil => exact (h.null key).symm
  | cons w more =>
    rw [hunder] at honce
    obtain rfl : more = [] := by simpa using honce
    simp

/-- Where no key is repeated, the order of the members makes no difference but to the order of what
is said. -/
theorem perm_said (h : Concerns keys f)
    (honce : ∀ key ∈ keys, (occurrences key members).length ≤ 1) :
    (members.flatMap fun e => f e.1 e.2) ~ keys.flatMap fun key => f key (said key members) :=
  (h.flatMap_perm members).trans
    (.flatMap_left keys fun key hkey => .of_eq (h.flatMap_occurrences (honce key hkey)))

/-- A table is in the order of its keys, and not in that of the members that are put into it. -/
theorem perm_said_ofEntries (h : Concerns keys f) (members : List (String × Value)) :
    ((Table.ofEntries members).flatMap fun e => f e.1 e.2) ~
      keys.flatMap fun key => f key (said key members) := by
  have honce (key : String) : (occurrences key (Table.ofEntries members)).length ≤ 1 := by
    rw [occurrences_ofEntries]
    cases lastUnder key members <;> simp
  simpa using h.perm_said fun key _ => honce key

/-- Members under other keys have no part in it. -/
theorem perm_said_filter (h : Concerns keys f) {fields : List String}
    (hfields : ∀ key ∈ keys, key ∈ fields)
    (honce : ∀ key ∈ fields, (occurrences key members).length ≤ 1) :
    ((members.filter fun e => fields.contains e.1).flatMap fun e => f e.1 e.2) ~
      keys.flatMap fun key => f key (said key members) := by
  have hvisited : ∀ key ∈ keys,
      occurrences key (members.filter fun e => fields.contains e.1) = occurrences key members :=
    fun key hkey => occurrences_filter (fun _ => by simpa using hfields key hkey) members
  refine (h.perm_said fun key hkey => ?_).trans (.of_eq ?_)
  · rw [hvisited key hkey]
    exact honce key (hfields key hkey)
  · exact List.flatMap_congr fun key hkey => congrArg _ (said_congr (hvisited key hkey))

end Concerns

theorem events_record? (decode : Value → Logged (Except Mismatch α)) (v : Value) :
    (record? decode v).events = (decode v).events := by
  unfold record?
  simp only [Logged.events_bind, Logged.events_pure, List.append_nil]

/-- What is reported about a list is what is reported about each of its items. -/
theorem events_entries (decode : Value → Logged (Except Mismatch α)) (v : Value) :
    (entries decode v).events =
      (itemsOf v).flatMap fun item => (decode item).events ++ dropped (decode item).value := by
  have hgo : ∀ items : List Value, (entries.go decode items).events =
      items.flatMap fun item => (decode item).events ++ dropped (decode item).value := by
    intro items
    induction items with
    | nil => rfl
    | cons item items ih =>
      simp only [entries.go, Logged.events_bind, List.flatMap_cons]
      cases (decode item).value with
      | error cause => simp [ih, dropped]
      | ok a => simp [ih, dropped]
  cases v with
  | list items => exact hgo items
  | _ => rfl

/-- If nothing is reported within the items, each of them is reported as a whole or not at all. -/
theorem events_listing {r : Record} (h : ∀ v, (r.decode v).events = []) (w : Value) :
    (entries r.decode w).events = (Listing.mk r (itemsOf w)).reports := by
  rw [events_entries]
  simp only [h, List.nil_append]
  rfl

/-- Nothing is reported on the way to a record without lists. -/
theorem events_build_of_nil [Inhabited α] (v : Visit) {set : α → String → Value → Logged α}
    (h : ∀ r key w, (set r key w).events = []) : (v.build set).events = [] := by
  rw [events_build v (f := fun _ _ => []) h]
  simp

theorem events_property (v : Value) : (property v).events = [] := by
  refine events_build_of_nil _ fun r key w => ?_
  split <;> rfl

theorem events_param (v : Value) : (param v).events = [] := by
  refine events_build_of_nil _ fun r key w => ?_
  split <;> rfl

theorem events_tag (v : Value) : (tag v).events = [] :=
  events_build_of_nil _ fun _ _ _ => rfl

theorem events_returned (v : Value) : (returned v).events = [] := by
  refine events_build_of_nil _ fun r key w => ?_
  split <;> rfl

theorem events_sourceRange (v : Value) : (sourceRange v).events = [] := by
  refine events_build_of_nil _ fun r key w => ?_
  split <;> rfl

/-- What is reported about a field of a documentation comment. -/
def docEvents : String → Value → List Event
  | "tags", w => (entries tag w).events
  | _, _ => []

def methodEvents : String → Value → List Event
  | "params", w => (entries param w).events
  | "jsdoc", w => (docComment w).events
  | _, _ => []

def featureEvents : String → Value → List Event
  | "properties", w => (entries property w).events
  | "methods", w | "staticMethods", w => (entries method w).events
  | _, _ => []

theorem concerns_docEvents : Concerns ["tags"] docEvents where
  nodup := by simp
  other key hkey w := by
    unfold docEvents
    split
    · exact absurd (.head _) hkey
    · rfl
  null key := by
    unfold docEvents
    split <;> rfl

theorem concerns_methodEvents : Concerns ["params", "jsdoc"] methodEvents where
  nodup := by simp
  other key hkey w := by
    unfold methodEvents
    split
    · exact absurd (.head _) hkey
    · exact absurd (.tail _ (.head _)) hkey
    · rfl
  null key := by
    unfold methodEvents
    split <;> rfl

theorem concerns_featureEvents :
    Concerns ["properties", "methods", "staticMethods"] featureEvents where
  nodup := by simp
  other key hkey w := by
    unfold featureEvents
    split
    · exact absurd (.head _) hkey
    · exact absurd (.tail _ (.head _)) hkey
    · exact absurd (.tail _ (.tail _ (.head _))) hkey
    · rfl
  null key := by
    unfold featureEvents
    split <;> rfl

theorem events_docComment (v : Value) : (docComment v).events =
    (visit "Jsdoc" ["tags"] v).entries.flatMap fun e => docEvents e.1 e.2 := by
  unfold docComment
  refine events_build _ fun r key w => ?_
  unfold docEvents
  split <;> simp

theorem events_method (v : Value) : (method v).events =
    (visit "Method" ["name", "params", "return", "privacy", "inheritedFrom", "jsdoc"]
      v).entries.flatMap fun e => methodEvents e.1 e.2 := by
  unfold method
  refine events_build _ fun r key w => ?_
  unfold methodEvents
  split <;> simp [events_record?, events_returned]

theorem events_feature (v : Value) : (feature v).events =
    (visitStrict "Feature" featureFields v).entries.flatMap fun e => featureEvents e.1 e.2 := by
  unfold feature
  refine events_build _ fun r key w => ?_
  unfold featureEvents
  split <;> simp [events_record?, events_sourceRange]

/-- What is reported about a documentation comment is what is reported about its tags. -/
theorem docComment_reports {v : Value} (h : ∀ items, v ≠ .list items) :
    (docComment v).events ~ (docListings counted v).flatMap Listing.reports := by
  rw [events_docComment]
  cases v with
  | list items => exact absurd rfl (h items)
  | object members =>
    have hsaid := concerns_docEvents.perm_said_ofEntries members
    have htags : docEvents "tags" (said "tags" members) =
        (Listing.mk .tag (itemsOf (said "tags" members))).reports :=
      events_listing (r := .tag) events_tag _
    simpa [visit, htags, docListings, counted] using hsaid
  | _ => exact .nil

theorem method_reports {v : Value} (h : IsKeyedMethod v) :
    (method v).events ~ (methodListings counted v).flatMap Listing.reports := by
  rw [events_method]
  cases v with
  | list items => exact absurd h id
  | object members =>
    have hsaid := concerns_methodEvents.perm_said_ofEntries members
    have hparams : methodEvents "params" (said "params" members) =
        (Listing.mk .param (itemsOf (said "params" members))).reports :=
      events_listing (r := .param) events_param _
    have hdoc : methodEvents "jsdoc" (said "jsdoc" members) =
        (docComment (said "jsdoc" members)).events := rfl
    refine hsaid.trans ?_
    simpa [hparams, hdoc, methodListings, counted] using (docComment_reports h).append_left _
  | _ => exact .nil

/-- What is reported about a list of methods is what is reported about it and the lists in it. -/
theorem methods_reports {w : Value} (h : ∀ v ∈ itemsOf w, IsKeyedMethod v) :
    (entries method w).events ~ (methodsListings counted w).flatMap Listing.reports := by
  have hwithin : ((itemsOf w).flatMap fun v => (method v).events).Perm
      (((itemsOf w).flatMap (methodListings counted)).flatMap Listing.reports) := by
    rw [List.flatMap_assoc]
    exact .flatMap_left _ fun v hv => method_reports (h v hv)
  -- What is reported within a method stands in front of the report that it is left out.
  calc (entries method w).events
    _ = (itemsOf w).flatMap fun v => (method v).events ++ dropped (method v).value :=
      events_entries method w
    _ ~ ((itemsOf w).flatMap fun v => (method v).events) ++
        (Listing.mk .method (itemsOf w)).reports := (List.flatMap_append_perm ..).symm
    _ ~ (Listing.mk .method (itemsOf w)).reports ++
        ((itemsOf w).flatMap fun v => (method v).events) := List.perm_append_comm
    _ ~ (methodsListings counted w).flatMap Listing.reports := hwithin.append_left _

theorem feature_reports {members : List (String × Value)}
    (haccepts : Record.feature.Accepts (.object members)) (h : IsKeyedFeature (.object members)) :
    (feature (.object members)).events ~
      (featureListings counted (.object members)).flatMap Listing.reports := by
  have hfault : (visitOnce featureFields members []).fault = none := by
    simpa [visitOnce_fault, length_occurrences, Record.Accepts, Record.Clash] using haccepts
  have honce : ∀ key ∈ featureFields, (occurrences key members).length ≤ 1 := fun key hkey =>
    (visitOnce_fault.mp hfault key hkey).1
  have hfields : ∀ key ∈ ["properties", "methods", "staticMethods"], key ∈ featureFields := by
    decide
  have hsaid : (feature (.object members)).events ~
      ["properties", "methods", "staticMethods"].flatMap fun key =>
        featureEvents key (said key members) := by
    rw [events_feature, visitStrict, visitOnce_entries hfault]
    exact concerns_featureEvents.perm_said_filter hfields honce
  have hproperties : featureEvents "properties" (said "properties" members) =
      (Listing.mk .property (itemsOf (said "properties" members))).reports :=
    events_listing (r := .property) events_property _
  have hmethods : (featureEvents "methods" (said "methods" members)).Perm _ :=
    methods_reports (h "methods" (by simp))
  have hstatic : (featureEvents "staticMethods" (said "staticMethods" members)).Perm _ :=
    methods_reports (h "staticMethods" (by simp))
  refine hsaid.trans ?_
  simpa [hproperties, featureListings, counted] using
    (hmethods.append hstatic).append_left
      (Listing.mk .property (itemsOf (said "properties" members))).reports

/-- A visit goes to the same fields whatever value one of them has. -/
theorem flatMap_visitOnce_replace {f : String → Value → List β} {key : String}
    (hf : ∀ w, f key w = []) (fields : List String) (before : List (String × Value)) (w w' : Value)
    (after : List (String × Value)) (seen : List String) :
    (visitOnce fields (before ++ (key, w) :: after) seen).entries.flatMap (fun e => f e.1 e.2) =
      (visitOnce fields (before ++ (key, w') :: after) seen).entries.flatMap
        fun e => f e.1 e.2 := by
  induction before generalizing seen with
  | nil =>
    simp only [List.nil_append, visitOnce]
    split
    · rfl
    split
    · rfl
    · simp [hf]
  | cons e before ih =>
    obtain ⟨k, v⟩ := e
    simp only [List.cons_append, visitOnce]
    split
    · exact ih seen
    split
    · rfl
    · simp [ih]

/-- Nothing is reported about the kinds and the parents of a feature. -/
theorem events_feature_replace {field : String} (h : field = "kinds" ∨ field = "mixins")
    (before : List (String × Value)) (w w' : Value) (after : List (String × Value)) :
    (feature (.object (before ++ (field, w) :: after))).events =
      (feature (.object (before ++ (field, w') :: after))).events := by
  have hnone : ∀ w, featureEvents field w = [] := by
    rcases h with rfl | rfl
    · exact fun _ => rfl
    · exact fun _ => rfl
  rw [events_feature, events_feature]
  exact flatMap_visitOnce_replace hnone featureFields before w w' after []

theorem events_features {items : List Value} {fs : List Feature}
    (h : List.Forall₂ (fun item f => (feature item).value = .ok f) items fs) :
    (features items).events = items.flatMap fun item => (feature item).events := by
  induction h with
  | nil => rfl
  | cons hitem _ ih => simp [features, hitem, ih]

theorem events_document {v : Value} {list : List Value} (h : IsDocumentOf v list) :
    (document v).events = (features list).events := by
  rcases h with rfl | ⟨members, rfl, hone⟩
  · rfl
  · simp [document, hone, featureList]

theorem events_decode {text : String} {v : Value} {c : Json.Cursor}
    (hread : Json.readFirst text = .ok (v, c)) : (decode text).events = (document v).events := by
  unfold decode
  simp only [hread, Logged.events_bind]
  cases (document v).value with
  | none => simp
  | some fs => cases Json.finish c <;> simp

theorem features_reports {list : List Value} {fs : List Feature}
    (hdecoded : List.Forall₂ (fun e f => (feature e).value = .ok f) list fs)
    (hkeyed : ∀ e ∈ list, IsKeyedFeature e) :
    (features list).events ~ (listings list).flatMap Listing.reports := by
  rw [events_features hdecoded]
  induction hdecoded with
  | nil => exact .nil
  | cons hfirst _ ih =>
    obtain ⟨hkeyed, hrest⟩ := List.forall_mem_cons.mp hkeyed
    obtain ⟨members, rfl⟩ := isObject_of_isKeyedFeature hkeyed hfirst
    simp only [listings, List.flatMap_cons, List.flatMap_append]
    exact (feature_reports (feature_eq_ok.mp hfirst).1 hkeyed).append (ih hrest)

/-- Each entry that does not fit is reported once. In a dump with the names of all fields, the
reports are those about its lists of members, parameters and tags, of which the features have the
same, without the entries that are reported. So the entries that are kept and the reports are as many
as the entries of all lists, list by list. Of lists under one key that is repeated, only the last is
one of them. There is no report about kinds or parents, and what is reported depends on the list of
features alone, whether that is the document or stands under its key `features`. -/
theorem decode_reports {text : String} {v : Value} {c : Json.Cursor} {list : List Value}
    {fs : List Feature} (hread : Json.readFirst text = .ok (v, c)) (hlist : IsDocumentOf v list)
    (hdecoded : (decode text).value = .ok fs) (hkeyed : ∀ e ∈ list, IsKeyedFeature e) :
    (decode text).events ~ (listings list).flatMap Listing.reports ∧
    fs.flatMap featureLists = (listings list).map Listing.decoded ∧
    (∀ l ∈ listings list, l.kept.length + l.reports.length = l.items.length) ∧
    (∀ e ∈ (decode text).events, ∃ cause, e = .droppedEntry cause) ∧
    (decode text).events.length + ((fs.flatMap featureLists).map (·.2.length)).sum =
      ((listings list).map (·.items.length)).sum ∧
    (∀ field, field = "kinds" ∨ field = "mixins" → ∀ before w w' after,
      (feature (.object (before ++ (field, w) :: after))).events =
        (feature (.object (before ++ (field, w') :: after))).events) ∧
    ∀ text' v' c', Json.readFirst text' = .ok (v', c') → IsDocumentOf v' list →
      (decode text').events = (decode text).events := by
  obtain ⟨list', hlist', hfs⟩ := document_eq_some.mp (document_of_decode hread hdecoded)
  obtain rfl := hlist.unique hlist'
  have hevents {text' : String} {v' : Value} {c' : Json.Cursor}
      (hread' : Json.readFirst text' = .ok (v', c')) (hlist' : IsDocumentOf v' list) :
      (decode text').events = (features list).events := by
    rw [events_decode hread', events_document hlist']
  have hperm : (decode text).events ~ (listings list).flatMap Listing.reports := by
    rw [hevents hread hlist]
    exact features_reports hfs hkeyed
  have hlists := features_lists hfs hkeyed
  refine ⟨hperm, hlists, fun l _ => l.length_kept_add_reports, fun e he => ?_, ?_,
    fun field hfield => events_feature_replace hfield, fun text' v' c' hread' hlist' => ?_⟩
  · obtain ⟨l, -, he⟩ := List.mem_flatMap.mp (hperm.mem_iff.mp he)
    exact l.isDropped_of_mem he
  · rw [hperm.length_eq, hlists, List.length_flatMap, List.map_map]
    exact Listing.sum_reports_add_sum_kept _
  · rw [hevents hread' hlist', hevents hread hlist]

/-- A dump of one feature with entries that do not fit: a property, a parameter, a tag and a
method. -/
def misfitsDump : String :=
  "[\x7b\"kinds\":[null],\"properties\":[null],\"methods\":[" ++
    "\x7b\"params\":[null,\x7b\x7d],\"jsdoc\":\x7b\"tags\":[null]\x7d\x7d,null]\x7d]"

def misfitsFeature : Value :=
  .object [("kinds", .list [.null]), ("properties", .list [.null]),
    ("methods", .list [.object [("params", .list [.null, .object []]),
      ("jsdoc", .object [("tags", .list [.null])])], .null])]

theorem readFirst_misfitsDump :
    Json.readFirst misfitsDump = .ok (.list [misfitsFeature], ⟨[], ⟨1, 100⟩⟩) :=
  toOption_eq_some_iff.mp (by decide +kernel)

theorem decode_reports_misfits :
    (decode misfitsDump).value = .ok [{ methods := [{ params := [{}], doc := some {} }] }] ∧
      (decode misfitsDump).events.length = 4 := by
  have hdecoded : (decode misfitsDump).value =
      .ok [{ methods := [{ params := [{}], doc := some {} }] }] := by
    rw [decode_of_readFirst readFirst_misfitsDump]
    rfl
  have hkeyed : ∀ e ∈ [misfitsFeature], IsKeyedFeature e := by
    intro e he
    obtain rfl := List.mem_singleton.mp he
    simp [misfitsFeature, IsKeyedFeature, IsKeyedMethod, said, lastUnder, occurrences, itemsOf]
  have hitems : ((listings [misfitsFeature]).map (·.items.length)).sum = 6 := rfl
  obtain ⟨-, -, -, -, hcount, -⟩ :=
    decode_reports readFirst_misfitsDump (.inl rfl) hdecoded hkeyed
  have hkept : (([{ methods := [{ params := [{}], doc := some {} }] }] :
      List Feature).flatMap featureLists).map (·.2.length) = [0, 1, 1, 0, 0] := rfl
  rw [hitems, hkept] at hcount
  exact ⟨hdecoded, by simpa using hcount⟩

/-- A dump with a list of parameters that is not the last one under its key. -/
def shadowedDump : String := "[\x7b\"methods\":[\x7b\"params\":[null],\"params\":[]\x7d]\x7d]"

def shadowedFeature : Value :=
  .object [("methods", .list [.object [("params", .list [.null]), ("params", .list [])]])]

theorem readFirst_shadowedDump :
    Json.readFirst shadowedDump = .ok (.list [shadowedFeature], ⟨[], ⟨1, 45⟩⟩) :=
  toOption_eq_some_iff.mp (by decide +kernel)

/-- An entry of a list that another one under its key follows is neither kept nor reported. -/
theorem decode_shadowed :
    Json.readFirst shadowedDump = .ok (.list [shadowedFeature], ⟨[], ⟨1, 45⟩⟩) ∧
    IsKeyedFeature shadowedFeature ∧
    (decode shadowedDump).value = .ok [{ methods := [{}] }] ∧
    (decode shadowedDump).events.length +
        ((featureLists { methods := [{}] }).map (·.2.length)).sum <
      ((featureListings occurrences shadowedFeature).map (·.items.length)).sum := by
  have hdecoded : (decode shadowedDump).value = .ok [{ methods := [{}] }] := by
    rw [decode_of_readFirst readFirst_shadowedDump]
    rfl
  refine ⟨readFirst_shadowedDump, ?_, hdecoded, ?_⟩
  · simp [shadowedFeature, IsKeyedFeature, IsKeyedMethod, said, lastUnder, occurrences, itemsOf]
  · rw [events_decode readFirst_shadowedDump]
    decide

end Dump

end MixinExterns
