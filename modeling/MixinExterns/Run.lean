import MixinExterns.CommandLine.Apply
import MixinExterns.CommandLine.Help
import MixinExterns.CommandLine.Parse
import MixinExterns.Config.Decode
import MixinExterns.Externs.Generate
import MixinExterns.Feature.Decode
import MixinExterns.Log.Filter
import MixinExterns.Package.FileTree
import MixinExterns.Script.Check

/-!
A run of the program: the config is loaded and the arguments are laid over it, the dump is read and
decoded, the externs are generated, perhaps checked, and written. The first step that fails ends
the run; what it was for has not happened then.
-/

namespace MixinExterns

/-- Why a run fails. -/
inductive RunFault where
  | packageRoot (path : String)
  | file (path : String) (fault : FileFault)
  | dump (path : String) (fault : Dump.Fault)
  | config (path : String) (fault : Config.Fault)
  | script (place : Script.Place)
  deriving DecidableEq, Repr

def RunFault.message : RunFault → String
  | packageRoot path => "package root not found: " ++ path
  | file path fault => "I/O error on " ++ path ++ ": " ++ fault.message
  | dump path fault => "invalid feature dump " ++ path ++ ": " ++ fault.message
  | config path fault => "invalid config " ++ path ++ ": " ++ fault.message
  | script place =>
    "generated externs do not parse (" ++ toString place.line ++ ":" ++ toString place.column ++
      "): syntax error"

/-- A part of a run: it can fail, and it reports events. -/
abbrev Job (m : Type → Type) (α : Type) : Type := ExceptT RunFault (StateT (List Event) m) α

namespace Job

variable {m : Type → Type} [Monad m] {α : Type}

/-- Reports an event. -/
def report (e : Event) : Job m Unit := modify (· ++ [e])

/-- Takes over a value and what was reported on the way to it. -/
def take (x : Logged α) : Job m α := do
  modify (· ++ x.events)
  return x.value

def ask (x : m α) : Job m α := liftM x

/-- Goes on with a result, or fails with a cause. -/
def orFail {ε : Type} (cause : ε → RunFault) : Except ε α → Job m α
  | .ok a => pure a
  | .error e => throw (cause e)

end Job

section

variable {m : Type → Type} [Monad m] [FileAccess m]

/-- The config file of a package unless another is given. -/
def defaultConfigFile : String := "polymer-externs.toml"

/-- Reads a config file. Entries that are no settings are reported. -/
def readConfig (path : String) : Job m Config := do
  Job.report (.loadingConfig path)
  let text ← Job.orFail (.file path) (← Job.ask (FileAccess.read path))
  let config ← Job.orFail (.config path) (Config.ofText text)
  Job.take ⟨(), config.unknown.map fun e => .unknownKey path e.1⟩
  return config

/-- Loads the given config file, or that of the package, or the defaults. -/
def loadConfig (root : String) (given : Option String) : Job m Config := do
  match given with
  | some path => readConfig path
  | none =>
    let path := Path.join root defaultConfigFile
    if ← Job.ask (FileAccess.isFile path) then readConfig path
    else
      Job.report .defaultConfig
      return {}

/-- Reads the features of a package from its dump. -/
def analyze (root file : String) : Job m (List Feature) := do
  unless ← Job.ask (FileAccess.isFolder root) do throw (.packageRoot root)
  let path := Path.join root file
  Job.report (.readingDump path)
  let text ← Job.orFail (.file path) (← Job.ask (FileAccess.read path))
  let features ← Job.orFail (.dump path) (← Job.take (Dump.decode text))
  Job.report (.loadedDump features.length)
  return features

/-- Parses the externs if that is asked for. -/
def checkIf (asked : Bool) (externs : String) : Job m Unit := do
  if asked then
    let _ ← Job.orFail .script (← Job.take (Script.check externs))

/-- Writes the externs to a file, or gives them back for the standard output. -/
def deliver (output : Option String) (externs : String) : Job m String := do
  match output with
  | none => return externs
  | some path =>
    Job.orFail (.file path) (← Job.ask (FileAccess.write path externs))
    Job.report (.wrote path)
    return ""

/-- Generates the externs of a package, checks them if that is asked for, and writes them. What is
to go to the standard output is given back. -/
def produce (a : Arguments) : Job m String := do
  let config := a.apply (← loadConfig a.root a.config)
  let features ← analyze a.root config.analysis
  let externs ← Job.take (generate features config.emit)
  checkIf config.check externs
  deliver config.output externs

/-- What a run comes to, besides the files that it writes. -/
structure Report where
  status : Nat
  stdout : String
  events : List Event
  filter : Log.Filter

def Report.log (r : Report) : List String :=
  (r.events.filter r.filter.shows).map Log.line

/-- Runs the program with arguments and what the environment says of the log. -/
def run (arguments : List String) (environment : Option String) : m Report := do
  match CommandLine.parse arguments with
  | .error fault =>
    let (status, stdout) :=
      match fault with
      | .help => (0, helpText)
      | .version => (0, versionText)
      | _ => (2, "")
    return { status, stdout, events := [], filter := Log.Filter.choose false false environment }
  | .ok a =>
    let filter := Log.Filter.choose a.verbose a.quiet environment
    let (result, events) ← ((produce a).run).run []
    match result with
    | .ok stdout => return { status := 0, stdout, events, filter }
    | .error fault =>
      return { status := 1, stdout := "", events := events ++ [.failed fault.message], filter }

end

end MixinExterns
