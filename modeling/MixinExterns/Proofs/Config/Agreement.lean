import MixinExterns.Proofs.Config.Settings
import MixinExterns.Proofs.Externs.Settings

/-!
The settings of the externs from a config file and from a JSON object. From entries that both can
hold the same settings are decoded, and both fail on the same ones. What the config keeps aside is
what the object is not asked for.
-/

namespace MixinExterns

variable {α : Type}

/-- A value that a config file as well as a JSON object can hold: no table or object, no date or
time, and no `null`. -/
inductive Datum where
  | string (s : String)
  | boolean (b : Bool)
  | integer (n : Int)
  | real (x : Float)
  | array (items : List Datum)

namespace Datum

mutual

/-- The value in a config file. -/
def toToml : Datum → Toml.Value
  | string s => .string s
  | boolean b => .boolean b
  | integer n => .integer n
  | real x => .real x
  | array items => .array (allToToml items)

def allToToml : List Datum → List Toml.Value
  | [] => []
  | d :: ds => d.toToml :: allToToml ds

end

mutual

/-- The value in a JSON object. -/
def toJson : Datum → Json.Value
  | string s => .string s
  | boolean b => .bool b
  | integer n => .number (.integer n)
  | real x => .number (.real x)
  | array items => .list (allToJson items)

def allToJson : List Datum → List Json.Value
  | [] => []
  | d :: ds => d.toJson :: allToJson ds

end

/-- The table of a config file with these entries. Of those with one key the last counts. -/
def toTable (entries : List (String × Datum)) : Table Toml.Value :=
  Table.ofEntries (entries.map fun e => (e.1, e.2.toToml))

/-- The JSON object with these entries. -/
def toObject (entries : List (String × Datum)) : Json.Value :=
  .object (entries.map fun e => (e.1, e.2.toJson))

end Datum

/-- Whether anything may stand under a key of an object without a difference to the settings that
are decoded from it, and to whether they are. -/
def EmitOptions.Ignores (key : String) : Prop :=
  ∀ (before after : List (String × Json.Value)) (v : Json.Value),
    (ofJson (.object (before ++ (key, v) :: after))).toOption =
      (ofJson (.object (before ++ after))).toOption

namespace Datum

theorem toOption_string (d : Datum) :
    (Config.string d.toToml).toOption = (EmitOptions.string d.toJson).toOption := by
  cases d <;> simp only [toToml, toJson] <;> rfl

theorem toOption_bool (d : Datum) :
    (Config.bool d.toToml).toOption = (EmitOptions.bool d.toJson).toOption := by
  cases d <;> simp only [toToml, toJson] <;> rfl

theorem toOption_policyOf (d : Datum) :
    (Config.policyOf d.toToml).toOption = (EmitOptions.policyOf d.toJson).toOption := by
  cases d <;> simp only [toToml, toJson] <;> rfl

theorem toOption_tagOf (d : Datum) :
    (Config.tagOf d.toToml).toOption = (EmitOptions.tagOf d.toJson).toOption := by
  cases d <;> simp only [toToml, toJson] <;> rfl

variable {entries : List (String × Datum)}

theorem get?_toTable (entries : List (String × Datum)) (key : String) :
    (toTable entries).get? key = ((Table.ofEntries entries).get? key).map toToml := by
  rw [toTable, Table.ofEntries_map, Table.get?_map]

theorem mem_keys_toTable {key : String} :
    key ∈ (toTable entries).map (·.1) ↔ key ∈ entries.map (·.1) := by
  rw [← not_iff_not, ← Table.get?_eq_none, get?_toTable, Option.map_eq_none_iff,
    Table.get?_ofEntries_eq_none]

/-- A setting is decoded from both alike if each value is. -/
theorem setting_eq_ok_iff {decode : Toml.Value → Except Mismatch α}
    {decode' : Json.Value → Except Mismatch α}
    (h : ∀ d : Datum, (decode d.toToml).toOption = (decode' d.toJson).toOption) (key : String)
    (default a : α) :
    Config.setting (toTable entries) key decode default = .ok a ↔
      EmitOptions.setting (Table.ofEntries (entries.map fun e => (e.1, e.2.toJson))) key decode'
        default = .ok a := by
  rw [Config.setting, EmitOptions.setting, get?_toTable, Table.ofEntries_map, Table.get?_map]
  cases (Table.ofEntries entries).get? key with
  | none => rfl
  | some d =>
    change decode d.toToml = .ok a ↔ decode' d.toJson = .ok a
    rw [← toOption_eq_some_iff, h, toOption_eq_some_iff]

/-- The settings of the externs are decoded from both alike. -/
theorem emitOfTable_eq_ok_iff {o : EmitOptions} :
    Config.emitOfTable (toTable entries) = .ok o ↔
      EmitOptions.ofJson (toObject entries) = .ok o := by
  rw [Config.emitOfTable_eq_ok, toObject, EmitOptions.ofJson_object_eq_ok, EmitOptions.sets_iff]
  simp only [setting_eq_ok_iff toOption_string, setting_eq_ok_iff toOption_bool,
    setting_eq_ok_iff toOption_policyOf, setting_eq_ok_iff toOption_tagOf]
  tauto

end Datum

/-- The keys of the settings are those under which not everything may stand. -/
theorem EmitOptions.ignores_iff {key : String} : Ignores key ↔ key ∉ keys := by
  constructor
  · -- No setting can be an empty list.
    intro hignores hkey
    have hlist := hignores [] [] (.list [])
    simp only [keys, List.mem_cons, List.not_mem_nil, or_false] at hkey
    rcases hkey with rfl | rfl | rfl | rfl | rfl | rfl | rfl <;> cases hlist
  · intro hkey before after v
    have hget : ∀ k ∈ keys, (Table.ofEntries (before ++ (key, v) :: after)).get? k =
        (Table.ofEntries (before ++ after)).get? k := by
      intro k hk
      have hne : key ≠ k := by
        rintro rfl
        exact hkey hk
      simp [Dump.get?_ofEntries, Dump.lastUnder, Dump.occurrences_cons, hne]
    refine Option.ext fun o => ?_
    rw [toOption_eq_some_iff, toOption_eq_some_iff, ofJson_object_eq_ok, ofJson_object_eq_ok]
    exact sets_congr hget

namespace Config

/-- The keys of a config file that are not those of the externs. -/
def runKeys : List String := ["analysis", "output", "check"]

theorem mem_keys_iff_of_not_mem_runKeys {key : String} (h : key ∉ runKeys) :
    key ∈ keys ↔ key ∈ EmitOptions.keys := by
  simp only [runKeys, List.mem_cons, List.not_mem_nil, or_false, not_or] at h
  simp only [keys, EmitOptions.keys, List.mem_cons, List.not_mem_nil, or_false, h]
  tauto

variable {entries : List (String × Datum)}

/-- Without entries for the run itself, the config is that of the settings of the externs. -/
theorem ofTable_toTable_eq_ok (h : ∀ key ∈ runKeys, key ∉ entries.map (·.1)) {c : Config} :
    ofTable (Datum.toTable entries) = .ok c ↔
      emitOfTable (Datum.toTable entries) = .ok c.emit ∧
        c = { emit := c.emit, unknown := (Datum.toTable entries).without keys } := by
  have hdefault {β : Type} {key : String} (hkey : key ∈ runKeys)
      (decode : Toml.Value → Except Mismatch β) (default : β) :
      setting (Datum.toTable entries) key decode default = .ok default := by
    have hnone : (Datum.toTable entries).get? key = none := by
      rw [Datum.get?_toTable, Table.get?_ofEntries_eq_none.mpr (h key hkey), Option.map_none]
    simp only [setting, hnone]
  obtain ⟨analysis, output, check, emit, unknown⟩ := c
  rw [ofTable_eq_ok]
  simp (disch := decide) only [hdefault, Except.ok.injEq, Config.mk.injEq]
  tauto

/-- A config file and a JSON object with the same entries, none of which is for the run itself, are
decoded to the same settings of the externs, or neither is decoded. The keys that the config does
not know are those that the object is not asked for. -/
theorem ofTable_agrees (h : ∀ key ∈ runKeys, key ∉ entries.map (·.1)) :
    ((∃ c, ofTable (Datum.toTable entries) = .ok c) ↔
      ∃ o, EmitOptions.ofJson (Datum.toObject entries) = .ok o) ∧
    ∀ c, ofTable (Datum.toTable entries) = .ok c →
      EmitOptions.ofJson (Datum.toObject entries) = .ok c.emit ∧
      ∀ key, key ∈ c.unknown.map (·.1) ↔
        key ∈ entries.map (·.1) ∧ EmitOptions.Ignores key := by
  refine ⟨⟨?_, ?_⟩, fun c hc => ⟨?_, fun key => ?_⟩⟩
  · rintro ⟨c, hc⟩
    exact ⟨c.emit, Datum.emitOfTable_eq_ok_iff.mp ((ofTable_toTable_eq_ok h).mp hc).1⟩
  · rintro ⟨o, ho⟩
    exact ⟨{ emit := o, unknown := (Datum.toTable entries).without keys },
      (ofTable_toTable_eq_ok h).mpr ⟨Datum.emitOfTable_eq_ok_iff.mpr ho, rfl⟩⟩
  · exact Datum.emitOfTable_eq_ok_iff.mp ((ofTable_toTable_eq_ok h).mp hc).1
  · rw [((ofTable_toTable_eq_ok h).mp hc).2, EmitOptions.ignores_iff, Table.mem_keys_without,
      Datum.mem_keys_toTable]
    exact and_congr_right fun hmem =>
      not_congr (mem_keys_iff_of_not_mem_runKeys fun hrun => h key hrun hmem)

/-- The entries of a config file with a misspelt key. -/
def mixedEntries : List (String × Datum) :=
  [("inheritance", .string "implements"), ("static-method", .array [.boolean false]),
   ("static-methods", .boolean false)]

theorem ofTable_agrees_mixed :
    (∀ key ∈ runKeys, key ∉ mixedEntries.map (·.1)) ∧
    EmitOptions.ofJson (Datum.toObject mixedEntries) =
      .ok { inheritance := .implementing, staticMethods := false } ∧
    ∃ c, ofTable (Datum.toTable mixedEntries) = .ok c ∧
      c.emit = { inheritance := .implementing, staticMethods := false } ∧
      ∀ key, key ∈ c.unknown.map (·.1) ↔ key = "static-method" := by
  have hrun : ∀ key ∈ runKeys, key ∉ mixedEntries.map (·.1) := by decide
  have hjson : EmitOptions.ofJson (Datum.toObject mixedEntries) =
      .ok { inheritance := .implementing, staticMethods := false } := by rfl
  obtain ⟨hsucceeds, hsame⟩ := ofTable_agrees hrun
  obtain ⟨c, hc⟩ := hsucceeds.mpr ⟨_, hjson⟩
  obtain ⟨hemit, hunknown⟩ := hsame c hc
  refine ⟨hrun, hjson, c, hc, (Except.ok.inj (hjson.symm.trans hemit)).symm, fun key => ?_⟩
  rw [hunknown, EmitOptions.ignores_iff]
  constructor
  · rintro ⟨hmem, hkey⟩
    simp only [mixedEntries, List.map_cons, List.map_nil, List.mem_cons, List.not_mem_nil,
      or_false] at hmem
    rcases hmem with rfl | rfl | rfl
    · exact absurd (by decide) hkey
    · rfl
    · exact absurd (by decide) hkey
  · rintro rfl
    decide

end Config

end MixinExterns
