import MixinExterns.CommandLine.Apply
import MixinExterns.CommandLine.Parse
import MixinExterns.Proofs.Config.Settings

/-!
Arguments as entries of a config file. What arguments make of the settings of a file is what the
file would say with their entries in it, however often arguments are given one after the other:
those that make up no run leave the settings as they are.
-/

namespace MixinExterns

open Toml (Value)

/-- The entries that say in a config file what the arguments say. -/
def Arguments.entries (a : Arguments) : List (String × Option Value) :=
  [("analysis", a.analysis.map .string),
   ("output", a.output.map .string),
   ("namespace", a.onlyNamespace.map .string),
   ("inheritance", if a.implements then some (.string "implements") else none),
   ("check", if a.check then some (.boolean true) else none),
   ("skip-inherited-methods", if a.skipInheritedMethods then some (.boolean true) else none),
   ("static-methods", if a.noStaticMethods then some (.boolean false) else none),
   ("undefined-return", if a.noUndefinedReturn then some (.boolean false) else none),
   ("suppress-override-params", if a.keepOverrideParams then some (.boolean false) else none)]

/-- Whether the arguments say something that a config file says under this key. -/
def Arguments.Gives (a : Arguments) (key : String) : Prop := ∃ v, (key, some v) ∈ a.entries

/-- The table of a config file with what the arguments say in place of what it says. -/
def Arguments.overwrite (a : Arguments) (t : Table Value) : Table Value :=
  a.entries.foldl (fun t e => e.2.elim t (t.put e.1)) t

/-- Takes account of arguments that can be parsed, and of no others. -/
def CommandLine.ifParsed {σ : Type} (f : Arguments → σ → σ) (s : σ) (arguments : List String) : σ :=
  match parse arguments with
  | .ok a => f a s
  | .error _ => s

namespace Table

variable {α : Type}

theorem get?_foldl_put_of_not_mem {entries : List (String × Option α)} {key : String}
    (h : ∀ v, (key, some v) ∉ entries) (t : Table α) :
    (entries.foldl (fun t e => e.2.elim t (t.put e.1)) t).get? key = t.get? key := by
  induction entries generalizing t with
  | nil => rfl
  | cons e entries ih =>
    obtain ⟨k, given⟩ := e
    rw [List.foldl_cons, ih fun v hv => h v (.tail _ hv)]
    cases given with
    | none => rfl
    | some v =>
      have hne : k ≠ key := by
        rintro rfl
        exact h v (.head _)
      simp [get?_put, hne]

/-- Of entries with different keys each one that is given is found under its key. -/
theorem get?_foldl_put {entries : List (String × Option α)} (hnodup : (entries.map (·.1)).Nodup)
    {key : String} {given : Option α} (h : (key, given) ∈ entries) (t : Table α) :
    (entries.foldl (fun t e => e.2.elim t (t.put e.1)) t).get? key = given.or (t.get? key) := by
  induction entries generalizing t with
  | nil => simp at h
  | cons e entries ih =>
    obtain ⟨hnot, hrest⟩ := List.nodup_cons.mp hnodup
    rw [List.foldl_cons]
    rcases List.mem_cons.mp h with rfl | h
    · have hlater : ∀ v, (key, some v) ∉ entries :=
        fun v hv => hnot (List.mem_map.mpr ⟨_, hv, rfl⟩)
      rw [get?_foldl_put_of_not_mem hlater]
      cases given <;> simp [get?_put]
    · have hne : e.1 ≠ key := fun hkey => hnot (List.mem_map.mpr ⟨_, h, hkey.symm⟩)
      rw [ih hrest h]
      cases e.2 <;> simp [get?_put, hne]

end Table

namespace Arguments

variable (a : Arguments) (t : Table Value)

theorem nodup_entries : (a.entries.map (·.1)).Nodup := by
  simp [entries]

/-- What arguments give belongs to the settings, and never to the header. -/
theorem mem_keys_of_mem_entries {key : String} {given : Option Value}
    (h : (key, given) ∈ a.entries) : key ∈ Config.keys ∧ key ≠ "header" := by
  simp only [entries, List.mem_cons, Prod.mk.injEq, List.not_mem_nil, or_false] at h
  rcases h with ⟨rfl, -⟩ | ⟨rfl, -⟩ | ⟨rfl, -⟩ | ⟨rfl, -⟩ | ⟨rfl, -⟩ | ⟨rfl, -⟩ | ⟨rfl, -⟩ | ⟨rfl, -⟩ |
    ⟨rfl, -⟩
  all_goals decide

theorem get?_overwrite_of_not_gives {key : String} (h : ¬ a.Gives key) :
    (a.overwrite t).get? key = t.get? key :=
  Table.get?_foldl_put_of_not_mem (fun v hv => h ⟨v, hv⟩) t

theorem setting_overwrite {α : Type} {key : String} {given : Option Value}
    (h : (key, given) ∈ a.entries) (decode : Value → Except Mismatch α) (default : α) :
    Config.setting (a.overwrite t) key decode default =
      given.elim (Config.setting t key decode default) decode := by
  have hget : (a.overwrite t).get? key = given.or (t.get? key) :=
    Table.get?_foldl_put a.nodup_entries h t
  cases given with
  | none => exact Config.setting_congr (by simpa using hget) decode default
  | some v => simp [Config.setting, hget]

theorem setting_header_overwrite :
    Config.setting (a.overwrite t) "header" Config.string defaultHeader =
      Config.setting t "header" Config.string defaultHeader := by
  have hnot : ¬ a.Gives "header" := fun ⟨_, hv⟩ => (a.mem_keys_of_mem_entries hv).2 rfl
  exact Config.setting_congr (a.get?_overwrite_of_not_gives t hnot) _ _

theorem without_overwrite : (a.overwrite t).without Config.keys = t.without Config.keys := by
  have hfold : ∀ (entries : List (String × Option Value)) (t : Table Value),
      (∀ e ∈ entries, e.1 ∈ Config.keys) →
      (entries.foldl (fun t e => e.2.elim t (t.put e.1)) t).without Config.keys =
        t.without Config.keys := by
    intro entries
    induction entries with
    | nil => exact fun t _ => rfl
    | cons e entries ih =>
      intro t hkeys
      rw [List.foldl_cons, ih _ fun e' he' => hkeys e' (.tail _ he')]
      cases e.2 with
      | none => rfl
      | some v => exact Table.without_put t v (hkeys e (.head _))
  exact hfold a.entries t fun e he => (a.mem_keys_of_mem_entries he).1

variable {t}

/-- A setting that a switch turns on or off has the value of the file if the switch is not given. -/
theorem setting_flag (key : String) (flag value : Bool) {default old : Bool}
    (h : (key, if flag then some (Value.boolean value) else none) ∈ a.entries)
    (hold : Config.setting t key Config.bool default = .ok old) :
    Config.setting (a.overwrite t) key Config.bool default = .ok (if flag then value else old) := by
  rw [setting_overwrite a t h, hold]
  cases flag <;> rfl

theorem emitOfTable_overwrite {c : Config} (h : Config.emitOfTable t = .ok c.emit) :
    Config.emitOfTable (a.overwrite t) = .ok (a.apply c).emit := by
  obtain ⟨hheader, htag, hpolicy, hskip, hstatics, hsuppress, hundefined⟩ :=
    Config.emitOfTable_eq_ok.mp h
  refine Config.emitOfTable_eq_ok.mpr ⟨?_, ?_, ?_, ?_, ?_, ?_, ?_⟩
  · rw [setting_header_overwrite, hheader]
    rfl
  · have hentry : ("inheritance", if a.implements then some (.string "implements") else none) ∈
        a.entries := by simp [entries]
    rw [setting_overwrite a t hentry, htag]
    cases hgiven : a.implements with
    | false => simp [apply, hgiven]
    | true => simp [apply, hgiven, Config.tagOf, InheritanceTag.ofWord]
  · have hentry : ("namespace", a.onlyNamespace.map .string) ∈ a.entries := by simp [entries]
    rw [setting_overwrite a t hentry, hpolicy]
    cases hgiven : a.onlyNamespace with
    | none => simp [apply, hgiven]
    | some space =>
      simp only [apply, hgiven]
      rfl
  · rw [a.setting_flag "skip-inherited-methods" a.skipInheritedMethods true (by simp [entries])
      hskip]
    cases hgiven : a.skipInheritedMethods <;> simp [apply, hgiven]
  · rw [a.setting_flag "static-methods" a.noStaticMethods false (by simp [entries]) hstatics]
    cases hgiven : a.noStaticMethods <;> simp [apply, hgiven]
  · rw [a.setting_flag "suppress-override-params" a.keepOverrideParams false (by simp [entries])
      hsuppress]
    cases hgiven : a.keepOverrideParams <;> simp [apply, hgiven]
  · rw [a.setting_flag "undefined-return" a.noUndefinedReturn false (by simp [entries]) hundefined]
    cases hgiven : a.noUndefinedReturn <;> simp [apply, hgiven]

/-- The settings of a file under arguments are those of the file with their entries in it. -/
theorem ofTable_overwrite {c : Config} (h : Config.ofTable t = .ok c) :
    Config.ofTable (a.overwrite t) = .ok (a.apply c) := by
  obtain ⟨hanalysis, hcheck, houtput, hemit, hunknown⟩ := Config.ofTable_eq_ok.mp h
  refine Config.ofTable_eq_ok.mpr ⟨?_, ?_, ?_, a.emitOfTable_overwrite hemit, ?_⟩
  · have hentry : ("analysis", a.analysis.map .string) ∈ a.entries := by simp [entries]
    rw [setting_overwrite a t hentry, hanalysis]
    cases hgiven : a.analysis <;> simp [apply, hgiven, Config.path]
  · rw [a.setting_flag "check" a.check true (by simp [entries]) hcheck]
    cases hgiven : a.check <;> simp [apply, hgiven]
  · have hentry : ("output", a.output.map .string) ∈ a.entries := by simp [entries]
    rw [setting_overwrite a t hentry, houtput]
    cases hgiven : a.output with
    | none => simp [apply, hgiven]
    | some file =>
      simp only [apply, hgiven]
      rfl
  · rw [without_overwrite, ← hunknown]
    rfl

end Arguments

namespace Config

/-- What is not given in any run keeps its entry. -/
theorem get?_foldl_overwrite {key : String} {runs : List (List String)}
    (h : ∀ arguments ∈ runs, ∀ a, CommandLine.parse arguments = .ok a → ¬ a.Gives key)
    (t : Table Value) :
    (runs.foldl (CommandLine.ifParsed Arguments.overwrite) t).get? key = t.get? key := by
  induction runs generalizing t with
  | nil => rfl
  | cons arguments runs ih =>
    rw [List.foldl_cons, ih fun later hlater => h later (.tail _ hlater)]
    unfold CommandLine.ifParsed
    split
    · next a hparsed =>
      exact a.get?_overwrite_of_not_gives t (h arguments (.head _) a hparsed)
    · rfl

theorem ofTable_foldl_overwrite {t : Table Value} {c : Config} (h : ofTable t = .ok c)
    (runs : List (List String)) :
    ofTable (runs.foldl (CommandLine.ifParsed Arguments.overwrite) t) =
      .ok (runs.foldl (CommandLine.ifParsed Arguments.apply) c) := by
  induction runs generalizing t c with
  | nil => exact h
  | cons arguments runs ih =>
    simp only [List.foldl_cons]
    apply ih
    unfold CommandLine.ifParsed
    split
    · next a _ => exact a.ofTable_overwrite h
    · exact h

theorem foldl_apply_untouched (runs : List (List String)) (c : Config) :
    (runs.foldl (CommandLine.ifParsed Arguments.apply) c).emit.header = c.emit.header ∧
      (runs.foldl (CommandLine.ifParsed Arguments.apply) c).unknown = c.unknown := by
  induction runs generalizing c with
  | nil => exact ⟨rfl, rfl⟩
  | cons arguments runs ih =>
    have hstep : (CommandLine.ifParsed Arguments.apply c arguments).emit.header = c.emit.header ∧
        (CommandLine.ifParsed Arguments.apply c arguments).unknown = c.unknown := by
      unfold CommandLine.ifParsed
      split <;> exact ⟨rfl, rfl⟩
    simp only [List.foldl_cons, ih, hstep, and_self]

/-- Arguments override a config file exactly as entries in it would, run after run: the settings
that the runs make of those of the file are those of the file with what was given written over it,
where arguments that cannot be parsed count for nothing. What is not given keeps its entry; the
header and what is no setting are never given. -/
theorem ofTable_overridden {t : Table Value} {c : Config} (h : ofTable t = .ok c)
    (runs : List (List String)) :
    ofTable (runs.foldl (CommandLine.ifParsed Arguments.overwrite) t) =
        .ok (runs.foldl (CommandLine.ifParsed Arguments.apply) c) ∧
      (∀ key, (∀ arguments ∈ runs, ∀ a, CommandLine.parse arguments = .ok a → ¬ a.Gives key) →
        (runs.foldl (CommandLine.ifParsed Arguments.overwrite) t).get? key = t.get? key) ∧
      (∀ key, key = "header" ∨ key ∉ keys →
        (runs.foldl (CommandLine.ifParsed Arguments.overwrite) t).get? key = t.get? key) ∧
      (runs.foldl (CommandLine.ifParsed Arguments.apply) c).emit.header = c.emit.header ∧
      (runs.foldl (CommandLine.ifParsed Arguments.apply) c).unknown = c.unknown := by
  refine ⟨ofTable_foldl_overwrite h runs, fun key hkey => get?_foldl_overwrite hkey t,
    fun key hkey => ?_, foldl_apply_untouched runs c⟩
  refine get?_foldl_overwrite (fun arguments _ a _ ⟨v, hv⟩ => ?_) t
  obtain ⟨hsetting, hheader⟩ := a.mem_keys_of_mem_entries hv
  exact hkey.elim hheader (absurd hsetting)

/-- A file that turns the static methods off, under three runs: the first one adds the check, the
second one excludes itself and counts for nothing, the third one asks for a namespace and a file. -/
theorem ofTable_overridden_thrice :
    let t := [("namespace", Value.string "Ui"), ("static-methods", .boolean false),
      ("typo", .integer 1)]
    let runs := [["--check"], ["-v", "--quiet", "--implements"],
      ["--only-namespace=App", "-o", "x.js"]]
    ofTable t = .ok { emit := { policy := .only "Ui", staticMethods := false }
                      unknown := [("typo", .integer 1)] } ∧
    ofTable (runs.foldl (CommandLine.ifParsed Arguments.overwrite) t) =
      .ok { output := some "x.js", check := true
            emit := { policy := .only "App", staticMethods := false }
            unknown := [("typo", .integer 1)] } ∧
    Table.get? (runs.foldl (CommandLine.ifParsed Arguments.overwrite) t) "static-methods" =
      some (.boolean false) := by
  intro t runs
  have hfile : ofTable t = .ok { emit := { policy := .only "Ui", staticMethods := false }
                                 unknown := [("typo", .integer 1)] } := by rfl
  obtain ⟨hsettings, hkept, -⟩ := ofTable_overridden hfile runs
  refine ⟨hfile, hsettings.trans (by rfl), (hkept "static-methods" ?_).trans (by rfl)⟩
  intro arguments hmem a hparsed ⟨v, hv⟩
  have hfirst : CommandLine.parse ["--check"] = .ok { check := true } := by rfl
  have hsecond : CommandLine.parse ["-v", "--quiet", "--implements"] = .error .conflict := by rfl
  have hthird : CommandLine.parse ["--only-namespace=App", "-o", "x.js"] =
      .ok { onlyNamespace := some "App", output := some "x.js" } := by rfl
  simp only [runs, List.mem_cons, List.not_mem_nil, or_false] at hmem
  rcases hmem with rfl | rfl | rfl
  · obtain rfl := Except.ok.inj (hfirst.symm.trans hparsed)
    simp [Arguments.entries] at hv
  · simp [hsecond] at hparsed
  · obtain rfl := Except.ok.inj (hthird.symm.trans hparsed)
    simp [Arguments.entries] at hv

end Config

end MixinExterns
