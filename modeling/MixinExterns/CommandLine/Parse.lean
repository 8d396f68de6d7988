import MixinExterns.CommandLine.Arguments

/-!
Parsing the arguments. A switch is written by its name or letter. An option is written by its name
with the value behind an equals sign or as the next argument, or by its letter with the value right
behind it, behind an equals sign or as the next argument. Letters may be clustered behind one
hyphen. Behind a lone `--` nothing is a switch or an option any more.

What is given as an argument of its own, the value of an option or the root, is *pending* until the
next argument that is understood: only then it is looked at. So of two faults the first one found
need not be the one that stands first.
-/

namespace MixinExterns

/-- Why the arguments do not make up a run. Help and the version end parsing, too. -/
inductive ArgumentFault where
  | unknownArgument
  | invalidValue
  | conflict
  | tooManyValues
  | help
  | version
  deriving DecidableEq, Repr

/-- What is told of a fault. Help and the version are no faults of the arguments. -/
def ArgumentFault.message? : ArgumentFault → Option String
  | unknownArgument => some "unknown argument"
  | invalidValue => some "a value is missing or empty"
  | conflict => some "an argument is given twice, or two arguments exclude each other"
  | tooManyValues => some "a value is given to an argument that takes none"
  | help | version => none

namespace CommandLine

/-- What a name or letter stands for. -/
inductive Meaning where
  | switch (s : Switch)
  | choice (c : Choice)
  | help
  | version
  deriving DecidableEq, Repr

/-- What a name behind two hyphens stands for. -/
def ofLongName? (name : String) : Option Meaning :=
  if name = "help" then some .help
  else if name = "version" then some .version
  else
    match Switch.all.find? (·.longName = name) with
    | some s => some (.switch s)
    | none => (Choice.all.find? (·.longName = name)).map .choice

/-- What a letter behind one hyphen stands for. -/
def ofLetter? (letter : Char) : Option Meaning :=
  if letter = 'h' then some .help
  else if letter = 'V' then some .version
  else
    match Switch.all.find? (·.letter? = some letter) with
    | some s => some (.switch s)
    | none => (Choice.all.find? (·.letter? = some letter)).map .choice

/-- What is not looked at yet. -/
inductive Pending where
  | nothing
  /-- An option whose value must come next. -/
  | awaited (c : Choice)
  | chosen (c : Choice) (value : String)
  | root (value : String)
  deriving DecidableEq, Repr

/-- How far parsing has come. -/
structure Progress where
  arguments : Arguments := {}
  pending : Pending := .nothing
  hasRoot : Bool := false
  /-- Whether a lone `--` was passed. -/
  onlyRoot : Bool := false
  deriving DecidableEq, Repr

namespace Progress

def choose (p : Progress) (c : Choice) (value : String) : Except ArgumentFault Progress :=
  if (p.arguments.value? c).isSome then .error .conflict
  else if c.isPath && value.isEmpty then .error .invalidValue
  else .ok { p with arguments := p.arguments.choose value c, pending := .nothing }

def settle (p : Progress) : Except ArgumentFault Progress :=
  match p.pending with
  | .nothing => .ok p
  | .awaited _ => .error .invalidValue
  | .chosen c value => p.choose c value
  | .root value =>
    if value.isEmpty then .error .invalidValue
    else .ok { p with arguments := { p.arguments with root := value }, pending := .nothing }

def turnOn (p : Progress) (s : Switch) : Except ArgumentFault Progress := do
  let p ← p.settle
  if p.arguments.has s then .error .conflict
  else return { p with arguments := p.arguments.turnOn s }

def stop (p : Progress) (fault : ArgumentFault) : Except ArgumentFault Progress := do
  let _ ← p.settle
  .error fault

/-- Takes an option with the value that is attached to it, or to come next. -/
def take (p : Progress) (c : Choice) (attached : Option String) :
    Except ArgumentFault Progress := do
  let p ← p.settle
  match attached with
  | some value => p.choose c value
  | none => return { p with pending := .awaited c }

/-- Takes what stands behind two hyphens. -/
def takeLong (p : Progress) (text : List Char) : Except ArgumentFault Progress :=
  let name := text.takeWhile (· ≠ '=')
  let attached :=
    match text.drop name.length with
    | _ :: value => some (String.ofList value)
    | [] => none
  match ofLongName? (String.ofList name), attached with
  | none, _ => .error .unknownArgument
  | some (.choice c), attached => p.take c attached
  | some _, some _ => .error .tooManyValues
  | some (.switch s), none => p.turnOn s
  | some .help, none => p.stop .help
  | some .version, none => p.stop .version

/-- Takes letters behind one hyphen. -/
def takeLetters (p : Progress) : List Char → Except ArgumentFault Progress
  | [] => .ok p
  | letter :: rest =>
    match ofLetter? letter with
    | none => .error .unknownArgument
    | some (.switch s) => do takeLetters (← p.turnOn s) rest
    | some .help => p.stop .help
    | some .version => p.stop .version
    | some (.choice c) =>
      match rest with
      | [] => p.take c none
      | '=' :: value => p.take c (some (String.ofList value))
      | value => p.take c (some (String.ofList value))

def takePlain (p : Progress) (text : String) : Except ArgumentFault Progress :=
  match p.pending with
  | .awaited c =>
    if p.onlyRoot then .error (if p.hasRoot then .unknownArgument else .invalidValue)
    else .ok { p with pending := .chosen c text }
  | _ =>
    if p.hasRoot then .error .unknownArgument
    else do
      let p ← p.settle
      return { p with pending := .root text, hasRoot := true }

/-- Takes an argument. -/
def step (p : Progress) (argument : String) : Except ArgumentFault Progress :=
  if p.onlyRoot then p.takePlain argument
  else
    match argument.toList with
    | ['-', '-'] => .ok { p with onlyRoot := true }
    | '-' :: '-' :: text => p.takeLong text
    | '-' :: letter :: rest => p.takeLetters (letter :: rest)
    | _ => p.takePlain argument

end Progress

/-- Parses the arguments. -/
def parse (arguments : List String) : Except ArgumentFault Arguments := do
  let p ← arguments.foldlM Progress.step {}
  let p ← p.settle
  if p.arguments.verbose && p.arguments.quiet then .error .conflict
  else return p.arguments

end CommandLine

end MixinExterns
