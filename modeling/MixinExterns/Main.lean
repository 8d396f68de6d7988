import MixinExterns.Run
import Std.Time.Format

/-!
The program: a run on the files of the system. The externs go to the standard output, the log and
what is wrong with the arguments to the standard error.
-/

namespace MixinExterns.Program

/-- Whether a code of the system is this one. Some calls give the codes below zero. -/
def isCode (n code : UInt32) : Bool := code = n || code = 0 - n

/-- The fault behind an error of the system. -/
def faultOf (e : IO.Error) : FileFault :=
  match e with
  | .noFileOrDirectory _ _ _ => .notFound
  | .inappropriateType _ code _ =>
    if isCode 20 code then .notFolder
    else if isCode 21 code then .isFolder
    else .system e.toString
  | .permissionDenied _ _ _ => .system "Permission denied (os error 13)"
  | e => .system e.toString

/-- Does something with the file at a path, unless the path cannot be that of a file. -/
def attempt {α : Type} (path : String) (act : IO α) : IO (Except FileFault α) := do
  if path.toList.any fun c => c.toNat = 0 then return .error .nulInName
  match ← act.toBaseIO with
  | .ok a => return .ok a
  | .error e => return .error (faultOf e)

/-- What kind of thing is at a path, if there is anything. -/
def kindAt (path : String) : IO (Option IO.FS.FileType) := do
  if path.isEmpty then return none
  let place := (← IO.currentDir) / path
  match ← attempt path place.metadata with
  | .ok data => return some data.type
  | .error _ => return none

instance : FileAccess IO where
  isFolder path := do return (← kindAt path) == some .dir
  isFile path := do return (← kindAt path) == some .file
  read path := do
    match ← attempt path (IO.FS.readBinFile path) with
    | .error e => return .error e
    | .ok bytes => return (String.fromUTF8? bytes).elim (.error .notUtf8) .ok
  write path text := attempt path (IO.FS.writeBinFile path text.toUTF8)

def timeText : IO String := do
  let now := Std.Time.DateTime.ofTimestampWithZone (← Std.Time.Timestamp.now) .UTC
  return now.format "uuuu-MM-dd'T'HH:mm:ss.SSSSSS'Z'"

def logLine (time : String) (e : Event) : String :=
  time ++ " " ++ String.ofList (List.replicate (5 - e.level.word.length) ' ') ++ Log.line e

/-- What to say of arguments that do not make up a run. -/
def usage? (arguments : List String) : Option String :=
  match CommandLine.parse arguments with
  | .ok _ => none
  | .error fault =>
    fault.message?.map fun m => "error: " ++ m ++ "\n\nFor more information, try '--help'."

/-- Runs the program on the files of the system and gives its exit status. -/
def execute (arguments : List String) : IO UInt32 := do
  let report : Report ← run arguments (← IO.getEnv "RUST_LOG")
  if let some text := usage? arguments then
    IO.eprintln text
  let time ← timeText
  for e in report.events do
    if report.filter.shows e then
      IO.eprintln (logLine time e)
  let stdout ← IO.getStdout
  stdout.putStr report.stdout
  stdout.flush
  return report.status.toUInt32

end MixinExterns.Program

def main (arguments : List String) : IO UInt32 :=
  MixinExterns.Program.execute arguments
