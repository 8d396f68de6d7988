import MixinExterns.Proofs.Config.Settings
import MixinExterns.Proofs.Run.Jobs
import MixinExterns.Proofs.Toml.KeyOrder

/-!
How a config file's entries are shared out. Those under the key of a setting decide it, each one
its own setting, and make decoding fail if they do not fit it; all others are kept as they are, and
a warning for each of them is reported when the file is read.
-/

namespace MixinExterns

variable {α : Type}

namespace Config

open Toml (Value)

/-- The keys under which a text stands. -/
def textKeys : List String := ["analysis", "output", "namespace", "header"]

/-- The keys of what is turned on or off. -/
def switchKeys : List String :=
  ["check", "suppress-override-params", "skip-inherited-methods", "static-methods",
   "undefined-return"]

def textOf? : Value → Option String
  | .string s => some s
  | _ => none

def switchOf? : Value → Option Bool
  | .boolean b => some b
  | _ => none

def tagOf? : Value → Option InheritanceTag
  | .string "extends" => some .extending
  | .string "implements" => some .implementing
  | _ => none

/-- Whether a value is one of those that the setting of a key can have. Any value fits the key of no
setting. -/
def Fits (key : String) (v : Value) : Prop :=
  (key ∈ textKeys → ∃ s, v = .string s) ∧
  (key ∈ switchKeys → ∃ b, v = .boolean b) ∧
  (key = "inheritance" → v = .string "extends" ∨ v = .string "implements")

/-- The value under a key, or the default if there is none. -/
def valueOr (t : Table Value) (key : String) (read : Value → Option α) (default : α) : α :=
  ((t.get? key).bind read).getD default

/-- What a table says: of each setting the value under its key, or its default, and besides the
entries under all other keys. -/
def said (t : Table Value) : Config where
  analysis := valueOr t "analysis" textOf? defaultDump
  output := (t.get? "output").bind textOf?
  check := valueOr t "check" switchOf? false
  emit := {
    policy := NamespacePolicy.ofOption ((t.get? "namespace").bind textOf?)
    suppressOverrideParams := valueOr t "suppress-override-params" switchOf? true
    skipInheritedMethods := valueOr t "skip-inherited-methods" switchOf? false
    staticMethods := valueOr t "static-methods" switchOf? true
    undefinedReturn := valueOr t "undefined-return" switchOf? true
    inheritance := valueOr t "inheritance" tagOf? .extending
    header := valueOr t "header" textOf? defaultHeader }
  unknown := t.without keys

theorem mem_keys_iff {key : String} :
    key ∈ keys ↔ key ∈ textKeys ∨ key ∈ switchKeys ∨ key = "inheritance" := by
  simp only [keys, textKeys, switchKeys, List.mem_cons, List.not_mem_nil, or_false]
  tauto

theorem mem_keys_of_not_fits {key : String} {v : Value} (h : ¬ Fits key v) : key ∈ keys := by
  by_contra hkey
  rw [mem_keys_iff, not_or, not_or] at hkey
  exact h ⟨fun hk => absurd hk hkey.1, fun hk => absurd hk hkey.2.1, fun hk => absurd hk hkey.2.2⟩

theorem toOption_path (v : Value) : (path v).toOption = textOf? v := by
  cases v <;> rfl

theorem toOption_string (v : Value) : (string v).toOption = textOf? v := by
  cases v <;> rfl

theorem toOption_bool (v : Value) : (bool v).toOption = switchOf? v := by
  cases v <;> rfl

theorem toOption_policyOf (v : Value) : (policyOf v).toOption = (textOf? v).map .only := by
  cases v <;> rfl

theorem toOption_outputOf (v : Value) :
    (some <$> path v : Except Mismatch (Option String)).toOption = (textOf? v).map some := by
  cases v <;> rfl

/-- Of values that are no tables the tags are their words. -/
theorem toOption_tagOf {v : Value} (h : ∀ entries, v ≠ .table entries) :
    (tagOf v).toOption = tagOf? v := by
  cases v with
  | table entries => exact absurd rfl (h entries)
  | string s =>
    by_cases hextends : s = "extends"
    · subst hextends
      rfl
    · by_cases himplements : s = "implements"
      · subst himplements
        rfl
      · simp [tagOf, InheritanceTag.ofWord, tagOf?, hextends, himplements, Except.toOption]
  | datetime d => rfl
  | _ => rfl

/-- Whether all that stands under a key can be read. -/
def Reads (t : Table Value) (read : Value → Option α) (key : String) : Prop :=
  ∀ v, t.get? key = some v → (read v).isSome

/-- A setting has a value iff what stands under its key can be read. It is that, or the default. -/
theorem setting_eq_ok_iff {t : Table Value} {key : String} {decode : Value → Except Mismatch α}
    {read : Value → Option α} (h : ∀ v, t.get? key = some v → (decode v).toOption = read v)
    {default a : α} :
    setting t key decode default = .ok a ↔ Reads t read key ∧ valueOr t key read default = a := by
  unfold setting Reads valueOr
  cases hv : t.get? key with
  | none => simp
  | some v =>
    have hread := h v hv
    cases hd : decode v with
    | error m => simp [← hread, hd, Except.toOption]
    | ok b => simp [← hread, hd, Except.toOption]

theorem isSome_textOf? {v : Value} : (textOf? v).isSome ↔ ∃ s, v = .string s := by
  cases v <;> simp [textOf?]

theorem isSome_switchOf? {v : Value} : (switchOf? v).isSome ↔ ∃ b, v = .boolean b := by
  cases v <;> simp [switchOf?]

theorem isSome_tagOf? {v : Value} :
    (tagOf? v).isSome ↔ v = .string "extends" ∨ v = .string "implements" := by
  unfold tagOf?
  split <;> simp_all

/-- Whether each value of a table fits its key. -/
def AllFit (t : Table Value) : Prop := ∀ key v, t.get? key = some v → Fits key v

theorem allFit_iff {t : Table Value} :
    AllFit t ↔
      (∀ key ∈ textKeys, Reads t textOf? key) ∧ (∀ key ∈ switchKeys, Reads t switchOf? key) ∧
        Reads t tagOf? "inheritance" := by
  simp only [AllFit, Fits, Reads, isSome_textOf?, isSome_switchOf?, isSome_tagOf?]
  constructor
  · intro h
    exact ⟨fun key hkey v hv => (h key v hv).1 hkey, fun key hkey v hv => (h key v hv).2.1 hkey,
      fun v hv => (h _ v hv).2.2 rfl⟩
  · rintro ⟨htext, hswitch, htag⟩ key v hv
    exact ⟨fun hkey => htext key hkey v hv, fun hkey => hswitch key hkey v hv,
      fun hkey => htag v (hkey ▸ hv)⟩

theorem valueOr_map {β : Type} (t : Table Value) (key : String) (read : Value → Option β)
    (f : β → α) (default : α) :
    valueOr t key (fun v => (read v).map f) default =
      (((t.get? key).bind read).map f).getD default := by
  unfold valueOr
  cases t.get? key <;> rfl

theorem reads_map {β : Type} {t : Table Value} {key : String} (read : Value → Option β)
    (f : β → α) : Reads t (fun v => (read v).map f) key ↔ Reads t read key := by
  simp only [Reads, Option.isSome_map]

/-- A table decodes iff all its values fit, and then to what it says. -/
theorem ofTable_eq_ok_iff {t : Table Value}
    (h : ∀ entries, t.get? "inheritance" ≠ some (.table entries)) {c : Config} :
    ofTable t = .ok c ↔ AllFit t ∧ said t = c := by
  have htag : ∀ v, t.get? "inheritance" = some v → (tagOf v).toOption = tagOf? v :=
    fun v hv => toOption_tagOf fun entries hentries => h entries (hentries ▸ hv)
  have houtput : valueOr t "output" (fun v => (textOf? v).map some) none =
      (t.get? "output").bind textOf? := by
    rw [valueOr_map]
    cases (t.get? "output").bind textOf? <;> rfl
  have hpolicy : valueOr t "namespace" (fun v => (textOf? v).map .only) .any =
      NamespacePolicy.ofOption ((t.get? "namespace").bind textOf?) := by
    rw [valueOr_map]
    cases (t.get? "namespace").bind textOf? <;> rfl
  -- Setting by setting: what decodes is what can be read, and the field is what is read.
  rw [ofTable_eq_ok, emitOfTable_eq_ok, setting_eq_ok_iff fun v _ => toOption_path v,
    setting_eq_ok_iff fun v _ => toOption_outputOf v,
    setting_eq_ok_iff fun v _ => toOption_policyOf v, setting_eq_ok_iff htag]
  simp only [setting_eq_ok_iff fun v _ => toOption_string v,
    setting_eq_ok_iff fun v _ => toOption_bool v, reads_map, houtput, hpolicy]
  obtain ⟨analysis, output, check, emit, unknown⟩ := c
  obtain ⟨policy, suppress, skip, statics, undefinedReturn, inheritance, header⟩ := emit
  simp only [allFit_iff, said, textKeys, switchKeys, List.forall_mem_cons, List.not_mem_nil,
    IsEmpty.forall_iff, implies_true, Config.mk.injEq, EmitOptions.mk.injEq,
    eq_comm (a := unknown)]
  tauto

/-- Decoding fails iff some value under the key of a setting does not fit it. -/
theorem ofTable_isError_iff {t : Table Value}
    (h : ∀ entries, t.get? "inheritance" ≠ some (.table entries)) :
    (∃ m, ofTable t = .error m) ↔ ∃ key ∈ keys, ∃ v, t.get? key = some v ∧ ¬ Fits key v := by
  have hfit : AllFit t ↔ ∃ c, ofTable t = .ok c := by
    simp only [ofTable_eq_ok_iff h, exists_and_left, exists_eq', and_true]
  have herror : (∃ m, ofTable t = .error m) ↔ ¬ ∃ c, ofTable t = .ok c := by
    cases ofTable t <;> simp
  rw [herror, ← hfit]
  constructor
  · intro hnot
    unfold AllFit at hnot
    push Not at hnot
    obtain ⟨key, v, hv, hfits⟩ := hnot
    exact ⟨key, mem_keys_of_not_fits hfits, v, hv, hfits⟩
  · rintro ⟨key, -, v, hv, hfits⟩ hall
    exact hfits (hall key v hv)

/-- Entries under keys of no setting change no setting, and not the fault either. -/
theorem ofTable_congr {t t' : Table Value} (h : ∀ key ∈ keys, t'.get? key = t.get? key) :
    ofTable t' = (ofTable t).map fun c => { c with unknown := t'.without keys } := by
  have hsetting {β : Type} {key : String} (hkey : key ∈ keys)
      (decode : Value → Except Mismatch β) (default : β) :
      setting t' key decode default = setting t key decode default :=
    setting_congr (h key hkey) decode default
  have hemit : emitOfTable t' = emitOfTable t := by
    simp (disch := decide) only [emitOfTable, hsetting]
  change ofTable t' = (fun c : Config => { c with unknown := t'.without keys }) <$> ofTable t
  simp (disch := decide) only [ofTable, hsetting, hemit, map_bind, map_pure]

end Config

/-- A config file that is TOML is reported, and then each of its entries that is no setting. -/
theorem run_readConfig {files : FileTree} {path text : String} {t : Table Toml.Value}
    (hread : files.read path = .ok text) (ht : Toml.document? text = some t)
    (events : List Event) :
    ((readConfig path : Job (StateM FileTree) Config).run.run events).run files =
      match Config.ofTable t with
      | .ok c =>
        ((.ok c, events ++ .loadingConfig path :: c.unknown.map fun e => .unknownKey path e.1),
          files)
      | .error m =>
        ((.error (.config path (.shape m)), events ++ [.loadingConfig path]), files) := by
  have hasked : (FileAccess.read path : StateM FileTree _).run files = (.ok text, files) := by
    rw [← hread]
    rfl
  unfold readConfig
  rw [Job.run_bind_of_ok (Job.run_report _), Job.run_bind_of_ok (Job.run_ask hasked),
    Job.run_bind_of_ok (Job.run_orFail _ (.ok text))]
  cases hdecode : Config.ofTable t with
  | error m =>
    have htext : Config.ofText text = .error (.shape m) := by
      simp only [Config.ofText, ht, hdecode, Except.mapError]
    rw [htext]
    exact Job.run_bind_of_error (Job.run_orFail _ _)
  | ok c =>
    have htext : Config.ofText text = .ok c := by
      simp only [Config.ofText, ht, hdecode, Except.mapError]
    rw [htext, Job.run_bind_of_ok (Job.run_orFail _ (.ok c)),
      Job.run_bind_of_ok (Job.run_take _), Job.run_pure, List.append_assoc, List.singleton_append]

/-- The entries of a config file are shared out without loss. Decoding fails iff some entry does not
fit the setting under whose key it stands. Otherwise each setting is the value under its own key, or
its default, and exactly the entries under all other keys are kept aside, as they are; which these
are changes neither a setting nor whether decoding fails, and how. When the file is read, each of
them is reported once, in key order. -/
theorem Config.ofTable_partition {t : Table Toml.Value}
    (h : ∀ entries, t.get? "inheritance" ≠ some (.table entries)) :
    ((∃ m, ofTable t = .error m) ↔ ∃ key ∈ keys, ∃ v, t.get? key = some v ∧ ¬ Fits key v) ∧
    (∀ c, ofTable t = .ok c → c = said t ∧
      ∀ key, c.unknown.get? key = if key ∈ keys then none else t.get? key) ∧
    (∀ t' : Table Toml.Value, (∀ key ∈ keys, t'.get? key = t.get? key) →
      ofTable t' = (ofTable t).map fun c => { c with unknown := t'.without keys }) ∧
    ∀ (files : FileTree) path text events, files.read path = .ok text →
      Toml.document? text = some t →
      (∀ m, ofTable t = .error m →
        ((readConfig path : Job (StateM FileTree) Config).run.run events).run files =
          ((.error (.config path (.shape m)), events ++ [.loadingConfig path]), files)) ∧
      ∀ c, ofTable t = .ok c →
        ((readConfig path : Job (StateM FileTree) Config).run.run events).run files =
          ((.ok c, events ++ .loadingConfig path :: c.unknown.map fun e => .unknownKey path e.1),
            files) ∧
        (c.unknown.map (·.1)).Pairwise (· < ·) := by
  have hsaid {c : Config} (hc : ofTable t = .ok c) : said t = c :=
    ((ofTable_eq_ok_iff h).mp hc).2
  refine ⟨ofTable_isError_iff h, fun c hc => ⟨(hsaid hc).symm, fun key => ?_⟩,
    fun t' ht' => ofTable_congr ht', fun files path text events hread ht => ⟨fun m hm => ?_,
    fun c hc => ⟨?_, ?_⟩⟩⟩
  · rw [← hsaid hc]
    exact Table.get?_without t keys key
  · rw [run_readConfig hread ht, hm]
  · rw [run_readConfig hread ht, hc]
  · rw [← hsaid hc, ← Table.increasing_iff]
    exact Table.increasing_without (Toml.increasing_document ht) keys

/-- The entries of a config file with a misspelt key. -/
def misspelt : Table Toml.Value := [("check", .boolean true), ("chekc", .boolean true)]

theorem document_misspelt : Toml.document? "chekc = true\ncheck = true" = some misspelt := by
  decide +kernel

theorem Config.ofTable_partition_misspelt :
    (∀ entries, misspelt.get? "inheritance" ≠ some (.table entries)) ∧
    ∃ c, ofTable misspelt = .ok c ∧ c.check = true ∧
      c.unknown.get? "check" = none ∧ c.unknown.get? "chekc" = some (.boolean true) ∧
      ∀ (files : FileTree) path, files.read path = .ok "chekc = true\ncheck = true" →
        ((readConfig path : Job (StateM FileTree) Config).run.run []).run files =
          ((.ok c, [.loadingConfig path, .unknownKey path "chekc"]), files) := by
  have htag : ∀ entries, misspelt.get? "inheritance" ≠ some (.table entries) := nofun
  obtain ⟨-, hsaid, -, hread⟩ := ofTable_partition htag
  have hok : ofTable misspelt = .ok (said misspelt) := rfl
  have hunknown := (hsaid _ hok).2
  exact ⟨htag, _, hok, rfl, hunknown "check", hunknown "chekc",
    fun files path htext => ((hread files path _ [] htext document_misspelt).2 _ hok).1⟩

end MixinExterns
