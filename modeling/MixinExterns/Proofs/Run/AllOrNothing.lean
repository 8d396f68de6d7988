import MixinExterns.Proofs.Results
import MixinExterns.Proofs.Run.Files
import MixinExterns.Proofs.Run.Jobs

/-!
A run is all or nothing. Its stages are tried in order: the settings, the root of the package, the
dump, its features, the check if it is asked for, and the writing. If one of them fails, nothing is
written anywhere and the error of the first one is reported; otherwise exactly the externs are
written, to the file that is asked for or to the standard output.
-/

namespace MixinExterns

def configAt (t : FileTree) (path : String) : Except RunFault Config := do
  let text ← (t.read path).mapError (.file path)
  (Config.ofText text).mapError (.config path)

/-- The settings in the given config file, or in that of the package if there is one, or the
defaults. -/
def loadedConfig (t : FileTree) (root : String) (given : Option String) : Except RunFault Config :=
  match given with
  | some path => configAt t path
  | none =>
    if t.isFile (Path.join root defaultConfigFile) then
      configAt t (Path.join root defaultConfigFile)
    else .ok {}

/-- The settings of a run: what is loaded, with the arguments over it. -/
def settings (t : FileTree) (a : Arguments) : Except RunFault Config :=
  (loadedConfig t a.root a.config).map a.apply

def dumpPath (a : Arguments) (c : Config) : String := Path.join a.root c.analysis

def externsOf (c : Config) (features : List Feature) : String := (generate features c.emit).value

/-- A run with these settings has these features to write. -/
structure Loads (t : FileTree) (a : Arguments) (c : Config) (features : List Feature) : Prop where
  config : settings t a = .ok c
  root : t.isFolder a.root = true
  dump : ∃ text, t.read (dumpPath a c) = .ok text ∧ (Dump.decode text).value = .ok features

def PassesCheck (c : Config) (text : String) : Prop :=
  c.check = true → ∃ statements, (Script.check text).value = .ok statements

/-- The fault of the first stage that fails: all stages before it succeed. -/
inductive FailsFirst (t : FileTree) (a : Arguments) : RunFault → Prop where
  | config {fault : RunFault} (h : settings t a = .error fault) : FailsFirst t a fault
  | root {c : Config} (hconfig : settings t a = .ok c) (h : t.isFolder a.root = false) :
      FailsFirst t a (.packageRoot a.root)
  | read {c : Config} {fault : FileFault} (hconfig : settings t a = .ok c)
      (hroot : t.isFolder a.root = true) (h : t.read (dumpPath a c) = .error fault) :
      FailsFirst t a (.file (dumpPath a c) fault)
  | decode {c : Config} {text : String} {fault : Dump.Fault} (hconfig : settings t a = .ok c)
      (hroot : t.isFolder a.root = true) (hread : t.read (dumpPath a c) = .ok text)
      (h : (Dump.decode text).value = .error fault) : FailsFirst t a (.dump (dumpPath a c) fault)
  | check {c : Config} {features : List Feature} {place : Script.Place}
      (hloads : Loads t a c features) (hcheck : c.check = true)
      (h : (Script.check (externsOf c features)).value = .error place) :
      FailsFirst t a (.script place)
  | write {c : Config} {features : List Feature} {path : String} {fault : FileFault}
      (hloads : Loads t a c features) (hpasses : PassesCheck c (externsOf c features))
      (hpath : c.output = some path) (h : t.write path (externsOf c features) = .error fault) :
      FailsFirst t a (.file path fault)

/-- Where the externs are when no stage has failed: in what is given back for the standard output,
or in the tree. -/
def Delivers (t : FileTree) (c : Config) (text stdout : String) (after : FileTree) : Prop :=
  match c.output with
  | none => stdout = text ∧ after = t
  | some path => stdout = "" ∧ t.write path text = .ok after

/-- No stage of a run fails, and this is what it leaves. -/
def Completes (t : FileTree) (a : Arguments) (stdout : String) (after : FileTree) : Prop :=
  ∃ c features, Loads t a c features ∧ PassesCheck c (externsOf c features) ∧
    Delivers t c (externsOf c features) stdout after

/-- The arguments `a'` ask for what `a` asks for, and for the check. -/
def TurnsCheckOn (t : FileTree) (a a' : Arguments) : Prop :=
  a'.root = a.root ∧ settings t a' = (settings t a).map fun c => { c with check := true }

/-- The status and the standard output when the arguments do not parse. -/
def ArgumentFault.outcome : ArgumentFault → Nat × String
  | help => (0, helpText)
  | version => (0, versionText)
  | _ => (2, "")

def Report.errors (r : Report) : List Event := r.events.filter fun e => e.level = .error

section

variable {t after : FileTree} {a : Arguments}

open Job

private theorem gives_read (path : String) :
    Gives (Job.ask (FileAccess.read path)) t (.ok (t.read path)) t :=
  gives_ask rfl

theorem gives_readConfig (t : FileTree) (path : String) :
    Gives (readConfig path) t (configAt t path) t := by
  refine (gives_report (by simp [Event.level])).bind ((gives_read path).bind ?_)
  apply gives_orFail_bind
  intro text _
  rw [← bind_pure (Except.mapError (RunFault.config path) (Config.ofText text))]
  refine gives_orFail_bind fun config _ => Gives.bind (gives_take ?_) (gives_pure config)
  intro e he
  obtain ⟨entry, -, rfl⟩ := List.mem_map.mp he
  simp [Event.level]

theorem gives_loadConfig (t : FileTree) (root : String) (given : Option String) :
    Gives (loadConfig root given) t (loadedConfig t root given) t := by
  unfold loadConfig loadedConfig
  cases given with
  | some path => exact gives_readConfig t path
  | none =>
    have hfile : Gives (Job.ask (FileAccess.isFile (Path.join root defaultConfigFile))) t
        (.ok (t.isFile (Path.join root defaultConfigFile))) t := gives_ask rfl
    apply hfile.bind
    cases t.isFile (Path.join root defaultConfigFile) with
    | true => exact gives_readConfig t _
    | false => exact (gives_report (by simp [Event.level])).bind (gives_pure _)

def loadedFeatures (t : FileTree) (root file : String) : Except RunFault (List Feature) :=
  if t.isFolder root then do
    let text ← (t.read (Path.join root file)).mapError (.file (Path.join root file))
    (Dump.decode text).value.mapError (.dump (Path.join root file))
  else .error (.packageRoot root)

theorem gives_analyze (t : FileTree) (root file : String) :
    Gives (analyze root file) t (loadedFeatures t root file) t := by
  have hfolder : Gives (Job.ask (FileAccess.isFolder root)) t (.ok (t.isFolder root)) t :=
    gives_ask rfl
  unfold loadedFeatures
  apply hfolder.bind
  cases t.isFolder root with
  | false => exact (gives_throw _).bind_error
  | true =>
    refine (gives_report (by simp [Event.level])).bind ((gives_read _).bind ?_)
    apply gives_orFail_bind
    intro text _
    apply (gives_take (Dump.isQuiet_decode text)).bind
    rw [← bind_pure (Except.mapError _ (Dump.decode text).value)]
    apply gives_orFail_bind
    intro features _
    exact (gives_report (by simp [Event.level])).bind (gives_pure features)

theorem loadedFeatures_of_loads {c : Config} {features : List Feature}
    (h : Loads t a c features) : loadedFeatures t a.root c.analysis = .ok features := by
  obtain ⟨text, hread, hdecode⟩ := h.dump
  unfold dumpPath at hread
  rw [loadedFeatures, if_pos h.root, hread]
  exact congrArg (Except.mapError _) hdecode

private theorem settings_eq_ok {c : Config} (h : settings t a = .ok c) :
    ∃ config, loadedConfig t a.root a.config = .ok config ∧ a.apply config = c :=
  map_eq_ok_iff.mp h

private theorem settings_eq_error {fault : RunFault} (h : settings t a = .error fault) :
    loadedConfig t a.root a.config = .error fault :=
  map_eq_error_iff.mp h

theorem gives_checkIf {c : Config} {text : String} (h : PassesCheck c text) :
    Gives (checkIf c.check text) t (.ok ()) t := by
  unfold checkIf
  split
  · next hcheck =>
    obtain ⟨statements, hok⟩ := h hcheck
    have hpassed := gives_orFail (t := t) RunFault.script (Script.check text).value
    rw [hok] at hpassed
    apply (gives_take (isQuiet_check text)).bind
    rw [hok]
    exact hpassed.bind (gives_pure ())
  · exact gives_pure ()

theorem gives_checkIf_fault {text : String} {place : Script.Place}
    (h : (Script.check text).value = .error place) :
    Gives (checkIf true text) t (.error (.script place)) t := by
  have hfailed := gives_orFail (t := t) RunFault.script (Script.check text).value
  apply (gives_take (isQuiet_check text)).bind
  rw [h] at hfailed ⊢
  exact hfailed.bind_error

private theorem gives_write {path text : String} (h : t.write path text = .ok after) :
    Gives (Job.ask (FileAccess.write path text)) t (.ok (.ok ())) after := by
  apply gives_ask
  simp [FileAccess.write, h]
  rfl

private theorem gives_write_fault {path text : String} {fault : FileFault}
    (h : t.write path text = .error fault) :
    Gives (Job.ask (FileAccess.write path text)) t (.ok (.error fault)) t := by
  apply gives_ask
  simp [FileAccess.write, h]
  rfl

theorem gives_deliver {c : Config} {text stdout : String}
    (h : Delivers t c text stdout after) : Gives (deliver c.output text) t (.ok stdout) after := by
  unfold Delivers at h
  cases hpath : c.output with
  | none =>
    simp only [hpath] at h
    obtain ⟨rfl, rfl⟩ := h
    exact gives_pure _
  | some path =>
    simp only [hpath] at h
    obtain ⟨rfl, hwrite⟩ := h
    refine (gives_write hwrite).bind (Gives.bind (gives_pure ()) ?_)
    exact (gives_report (by simp [Event.level])).bind (gives_pure "")

theorem gives_deliver_fault {path text : String} {fault : FileFault}
    (h : t.write path text = .error fault) :
    Gives (deliver (some path) text) t (.error (.file path fault)) t :=
  (gives_write_fault h).bind (gives_throw _).bind_error

theorem gives_produce_of_loads {c : Config} {features : List Feature}
    {result : Except RunFault String} (hloads : Loads t a c features)
    (hrest : Gives (do
      checkIf c.check (externsOf c features)
      deliver c.output (externsOf c features)) t result after) :
    Gives (produce a) t result after := by
  obtain ⟨config, hloaded, rfl⟩ := settings_eq_ok hloads.config
  have hconfig := gives_loadConfig t a.root a.config
  have hfeatures := gives_analyze t a.root (a.apply config).analysis
  rw [hloaded] at hconfig
  rw [loadedFeatures_of_loads hloads] at hfeatures
  exact hconfig.bind (hfeatures.bind ((gives_take (isQuiet_generate _ _)).bind hrest))

theorem gives_produce_of_unloaded {c : Config} {fault : RunFault} (hsettings : settings t a = .ok c)
    (hunloaded : loadedFeatures t a.root c.analysis = .error fault) :
    Gives (produce a) t (.error fault) t := by
  obtain ⟨config, hloaded, rfl⟩ := settings_eq_ok hsettings
  have hconfig := gives_loadConfig t a.root a.config
  have hfeatures := gives_analyze t a.root (a.apply config).analysis
  rw [hloaded] at hconfig
  rw [hunloaded] at hfeatures
  exact hconfig.bind hfeatures.bind_error

theorem gives_produce {stdout : String} (h : Completes t a stdout after) :
    Gives (produce a) t (.ok stdout) after := by
  obtain ⟨c, features, hloads, hpasses, hdelivers⟩ := h
  exact gives_produce_of_loads hloads ((gives_checkIf hpasses).bind (gives_deliver hdelivers))

/-- A run in which a stage fails stops there and leaves everything as it is. -/
theorem gives_produce_fault {fault : RunFault} (h : FailsFirst t a fault) :
    Gives (produce a) t (.error fault) t := by
  cases h with
  | config h =>
    have hconfig := gives_loadConfig t a.root a.config
    rw [settings_eq_error h] at hconfig
    exact hconfig.bind_error
  | root hsettings h =>
    apply gives_produce_of_unloaded hsettings
    simp [loadedFeatures, h]
  | read hsettings hroot h =>
    apply gives_produce_of_unloaded hsettings
    unfold dumpPath at h ⊢
    rw [loadedFeatures, if_pos hroot, h]
    rfl
  | decode hsettings hroot hread h =>
    apply gives_produce_of_unloaded hsettings
    unfold dumpPath at hread ⊢
    rw [loadedFeatures, if_pos hroot, hread]
    exact congrArg (Except.mapError _) h
  | check hloads hcheck h =>
    apply gives_produce_of_loads hloads
    rw [hcheck]
    exact (gives_checkIf_fault h).bind_error
  | write hloads hpasses hpath h =>
    refine gives_produce_of_loads hloads ((gives_checkIf hpasses).bind ?_)
    rw [hpath]
    exact gives_deliver_fault h

/-- Every run completes, or has a first stage that fails. -/
theorem fails_or_completes (t : FileTree) (a : Arguments) :
    (∃ fault, FailsFirst t a fault) ∨ ∃ stdout after, Completes t a stdout after := by
  cases hconfig : settings t a with
  | error fault => exact .inl ⟨fault, .config hconfig⟩
  | ok c =>
  cases hroot : t.isFolder a.root with
  | false => exact .inl ⟨_, .root hconfig hroot⟩
  | true =>
  cases hread : t.read (dumpPath a c) with
  | error fault => exact .inl ⟨_, .read hconfig hroot hread⟩
  | ok text =>
  cases hdecode : (Dump.decode text).value with
  | error fault => exact .inl ⟨_, .decode hconfig hroot hread hdecode⟩
  | ok features =>
  have hloads : Loads t a c features := ⟨hconfig, hroot, text, hread, hdecode⟩
  by_cases hpasses : PassesCheck c (externsOf c features)
  · cases hpath : c.output with
    | none =>
      refine .inr ⟨externsOf c features, t, c, features, hloads, hpasses, ?_⟩
      simp [Delivers, hpath]
    | some path =>
      cases hwrite : t.write path (externsOf c features) with
      | error fault => exact .inl ⟨_, .write hloads hpasses hpath hwrite⟩
      | ok after =>
        refine .inr ⟨"", after, c, features, hloads, hpasses, ?_⟩
        simp [Delivers, hpath, hwrite]
  · obtain ⟨hcheck, hfails⟩ := Classical.not_imp.mp hpasses
    cases hplace : (Script.check (externsOf c features)).value with
    | error place => exact .inl ⟨_, .check hloads hcheck hplace⟩
    | ok statements => exact absurd ⟨statements, hplace⟩ hfails

/-- A run that completes with the check completes without it, and leaves the same. -/
theorem completes_of_turnsCheckOn {a' : Arguments} {stdout : String} (hon : TurnsCheckOn t a a')
    (h : Completes t a' stdout after) : Completes t a stdout after := by
  obtain ⟨hsame, hsettings⟩ := hon
  obtain ⟨c', features, hloads, hpasses, hdelivers⟩ := h
  obtain ⟨c, hc, rfl⟩ := map_eq_ok_iff.mp (hsettings.symm.trans hloads.config)
  have hdump := hloads.dump
  unfold dumpPath at hdump
  rw [hsame] at hdump
  refine ⟨c, features, ⟨hc, hsame ▸ hloads.root, hdump⟩, fun _ => hpasses rfl, hdelivers⟩

theorem turnsCheckOn_flag (t : FileTree) (a : Arguments) :
    TurnsCheckOn t a { a with check := true } := by
  refine ⟨rfl, ?_⟩
  unfold settings
  cases loadedConfig t a.root a.config with
  | error fault => rfl
  | ok config => simp [Except.map, Arguments.apply]

end

section

variable {t after : FileTree} {a : Arguments} {arguments : List String}
  {environment : Option String}

private theorem errors_of_areQuiet {events : List Event} (h : AreQuiet events) :
    events.filter (fun e => e.level = .error) = [] := by
  rw [List.filter_eq_nil_iff]
  intro e he
  simpa using h e he

theorem run_of_completes {stdout : String} (hparse : CommandLine.parse arguments = .ok a)
    (h : Completes t a stdout after) :
    ∃ report, (run arguments environment : StateM FileTree Report).run t = (report, after) ∧
      report.status = 0 ∧ report.stdout = stdout ∧ report.errors = [] := by
  obtain ⟨events, hquiet, hrun⟩ := gives_produce h []
  refine ⟨⟨0, stdout, events, Log.Filter.choose a.verbose a.quiet environment⟩, ?_, rfl, rfl,
    errors_of_areQuiet hquiet⟩
  simp only [run, hparse]
  rw [StateT.run_bind, hrun]
  rfl

theorem run_of_failsFirst {fault : RunFault} (hparse : CommandLine.parse arguments = .ok a)
    (h : FailsFirst t a fault) :
    ∃ report, (run arguments environment : StateM FileTree Report).run t = (report, t) ∧
      report.status = 1 ∧ report.stdout = "" ∧ report.errors = [.failed fault.message] := by
  obtain ⟨events, hquiet, hrun⟩ := gives_produce_fault h []
  refine ⟨⟨1, "", events ++ [.failed fault.message],
    Log.Filter.choose a.verbose a.quiet environment⟩, ?_, rfl, rfl, ?_⟩
  · simp only [run, hparse]
    rw [StateT.run_bind, hrun]
    rfl
  · simp only [Report.errors, List.filter_append, errors_of_areQuiet hquiet]
    rfl

theorem run_of_parse_error {fault : ArgumentFault}
    (hparse : CommandLine.parse arguments = .error fault) :
    ∃ report, (run arguments environment : StateM FileTree Report).run t = (report, t) ∧
      (report.status, report.stdout) = fault.outcome := by
  refine ⟨_, by simp only [run, hparse]; rfl, ?_⟩
  cases fault <;> rfl

/-- A run does all that it is for or nothing. If the arguments do not parse, it only says so. If one
of its stages fails, the tree is as it was, nothing is on the standard output, and the error is that
of the first such stage. Otherwise exactly the externs are on the standard output, or in the file
that is asked for. Asking for the check too changes nothing of this, or suppresses it. -/
theorem run_all_or_nothing (arguments : List String) (environment : Option String)
    (t : FileTree) :
    ∃ report after, (run arguments environment : StateM FileTree Report).run t = (report, after) ∧
      (∀ fault, CommandLine.parse arguments = .error fault →
        after = t ∧ (report.status, report.stdout) = fault.outcome) ∧
      (∀ a, CommandLine.parse arguments = .ok a →
        (∀ fault, FailsFirst t a fault →
          report.status = 1 ∧ report.stdout = "" ∧ after = t ∧
          report.errors = [.failed fault.message]) ∧
        ((∀ fault, ¬ FailsFirst t a fault) →
          report.status = 0 ∧ report.errors = [] ∧
          ∃ c features, Loads t a c features ∧ PassesCheck c (externsOf c features) ∧
            match c.output with
            | none => report.stdout = externsOf c features ∧ after = t
            | some path =>
              report.stdout = "" ∧ t.HasWritten path (externsOf c features) after) ∧
        TurnsCheckOn t a { a with check := true } ∧
        ∀ arguments' environment' a', CommandLine.parse arguments' = .ok a' →
          TurnsCheckOn t a a' →
          ∃ report' after',
            (run arguments' environment' : StateM FileTree Report).run t = (report', after') ∧
            (report'.stdout = report.stdout ∧ after' = after ∨
              report'.stdout = "" ∧ after' = t)) := by
  obtain ⟨report, after, hrun⟩ : ∃ report after,
      (run arguments environment : StateM FileTree Report).run t = (report, after) := ⟨_, _, rfl⟩
  refine ⟨report, after, hrun, fun fault hparse => ?_, fun a hparse => ⟨fun fault hfails => ?_,
    fun hnone => ?_, turnsCheckOn_flag t a, fun arguments' environment' a' hparse' hon => ?_⟩⟩
  · obtain ⟨_, hrun', houtcome⟩ := run_of_parse_error hparse
    obtain ⟨rfl, rfl⟩ := Prod.mk.inj (hrun.symm.trans hrun')
    exact ⟨rfl, houtcome⟩
  · obtain ⟨_, hrun', hstatus, hstdout, herrors⟩ := run_of_failsFirst hparse hfails
    obtain ⟨rfl, rfl⟩ := Prod.mk.inj (hrun.symm.trans hrun')
    exact ⟨hstatus, hstdout, rfl, herrors⟩
  · obtain ⟨_, _, hcompletes⟩ := (fails_or_completes t a).resolve_left (not_exists.mpr hnone)
    obtain ⟨_, hrun', hstatus, rfl, herrors⟩ := run_of_completes hparse hcompletes
    obtain ⟨rfl, rfl⟩ := Prod.mk.inj (hrun.symm.trans hrun')
    obtain ⟨c, features, hloads, hpasses, hdelivers⟩ := hcompletes
    refine ⟨hstatus, herrors, c, features, hloads, hpasses, ?_⟩
    unfold Delivers at hdelivers
    cases hpath : c.output with
    | none => simpa only [hpath] using hdelivers
    | some path =>
      simp only [hpath] at hdelivers ⊢
      exact ⟨hdelivers.1, FileTree.hasWritten_of_write hdelivers.2⟩
  · rcases fails_or_completes t a' with ⟨fault, hfails⟩ | ⟨stdout, after', hcompletes⟩
    · obtain ⟨report', hrun', -, hstdout, -⟩ := run_of_failsFirst hparse' hfails
      exact ⟨report', t, hrun', .inr ⟨hstdout, rfl⟩⟩
    · obtain ⟨report', hrun', -, hstdout', -⟩ := run_of_completes hparse' hcompletes
      obtain ⟨_, hrun'', -, hstdout, -⟩ :=
        run_of_completes hparse (completes_of_turnsCheckOn hon hcompletes)
      obtain ⟨rfl, rfl⟩ := Prod.mk.inj (hrun.symm.trans hrun'')
      exact ⟨report', after, hrun', .inl ⟨hstdout'.trans hstdout.symm, rfl⟩⟩

end

end MixinExterns
