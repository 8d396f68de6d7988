import MixinExterns.Log.Event
import MixinExterns.Text.Blank
import MixinExterns.Text.Identifier
import MixinExterns.Text.Quoted

/-!
Which events are shown. A filter is a list of directives, the most specific first: a directive may
name the beginning of a target, a span and fields, and says up to which level events pass. The
first directive that fits an event decides; an event that none fits is not shown.

Filters are written as directives parted by commas. The verbosity switches stand for a filter of
their own; without them the environment may give one.
-/

namespace MixinExterns

/-- The least level that is shown, or none at all. -/
abbrev Threshold := Option Level

namespace Log

def thresholdWord : Threshold → String
  | none => "off"
  | some .error => "error"
  | some .warn => "warn"
  | some .info => "info"
  | some .debug => "debug"
  | some .trace => "trace"

/-- Whether events of a level pass. -/
def passes (t : Threshold) (level : Level) : Bool :=
  t.any fun least => least.rank ≤ level.rank

def lower (text : List Char) : List Char := text.map Char.toLower

/-- The threshold of a number, which may have a plus sign and leading zeros. -/
def thresholdOfNumber? (text : List Char) : Option Threshold :=
  let digits :=
    match text with
    | '+' :: rest => rest
    | text => text
  if digits.isEmpty || !digits.all Char.isDigit then none
  else
    match digits.dropWhile (· = '0') with
    | [] => some none
    | ['1'] => some (some .error)
    | ['2'] => some (some .warn)
    | ['3'] => some (some .info)
    | ['4'] => some (some .debug)
    | ['5'] => some (some .trace)
    | _ => none

def threshold? (text : List Char) : Option Threshold :=
  match thresholdOfNumber? text with
  | some t => some t
  | none =>
    match String.ofList (lower text) with
    | "off" => some none
    | "error" => some (some .error)
    | "warn" => some (some .warn)
    | "info" => some (some .info)
    | "debug" => some (some .debug)
    | "trace" => some (some .trace)
    | _ => none

/-- A field that a directive asks for, perhaps with a value. -/
structure FieldMatch where
  name : String
  value : Option String
  deriving DecidableEq, Repr

structure Directive where
  target : Option String := none
  span : Option String := none
  fields : List FieldMatch := []
  threshold : Threshold := some .trace
  deriving DecidableEq, Repr

namespace Directive

def fieldText (f : FieldMatch) : String :=
  f.name ++ f.value.elim "" ("=" ++ ·)

/-- Whether a directive says something of spans, or of the values of fields. -/
def isDynamic (d : Directive) : Bool := d.span.isSome || !d.fields.isEmpty

/-- Whether a directive can decide about an event by itself. -/
def isStatic (d : Directive) : Bool := d.span.isNone && d.fields.all (·.value.isNone)

def text (d : Directive) : String :=
  let scope :=
    if d.isDynamic then
      "[" ++ d.span.getD "" ++
        (if d.fields.isEmpty then ""
        else "\x7b" ++ String.intercalate "," (d.fields.map fieldText) ++ "\x7d") ++ "]"
    else ""
  let head := d.target.getD "" ++ scope
  (if d.target.isNone && scope.isEmpty then "" else head ++ "=") ++ thresholdWord d.threshold

/-- Whether a directive fits an event. The message counts as a field. -/
def fits (d : Directive) (e : Event) : Bool :=
  d.target.all (fun t => t.toList.isPrefixOf e.target.toList) &&
    d.fields.all fun f => f.name = "message" || (e.fields.any fun g => g.1 = f.name)

/-- The order of two optional texts by length; none comes first. -/
def compareLength (a b : Option String) : Ordering :=
  compare (a.elim 0 (·.utf8ByteSize + 1)) (b.elim 0 (·.utf8ByteSize + 1))

/-- The order of two optional texts by their characters; none comes first. -/
def compareText (a b : Option String) : Ordering :=
  match a, b with
  | none, none => .eq
  | none, some _ => .lt
  | some _, none => .gt
  | some a, some b => compare a b

def compareFields : List FieldMatch → List FieldMatch → Ordering
  | [], [] => .eq
  | [], _ => .lt
  | _, [] => .gt
  | f :: fs, g :: gs =>
    (compare f.name g.name).then ((compareText f.value g.value).then (compareFields fs gs))

/-- How specific a directive is, compared with another one. -/
def compareTo (a b : Directive) : Ordering :=
  (compareLength a.target b.target).then <|
    (compare a.span.isSome.toNat b.span.isSome.toNat).then <|
      (compare a.fields.length b.fields.length).then <|
        (compareText a.target b.target).then <|
          (compareText a.span b.span).then (compareFields a.fields b.fields)

/-- Puts a directive at its place among others, the most specific first. One that says the same of
the same events is replaced. -/
def insert (d : Directive) : List Directive → List Directive
  | [] => [d]
  | e :: rest =>
    match d.compareTo e with
    | .gt => d :: e :: rest
    | .eq => d :: rest
    | .lt => e :: insert d rest

def mayBegin (c : Char) : Bool :=
  c = '-' || c = ':' || c = '_' || c.isAlphanum ||
    (0x80 ≤ c.toNat && Text.isIdentifierPart c)

/-- The characters of a text from one place up to another. -/
def between (text : List Char) (first last : Nat) : List Char := (text.drop first).take (last - first)

/-- What follows the last closing bracket of a directive, from place `i` on: nothing, or an equals
sign and a threshold. -/
def tail? (source : List Char) (d : Directive) (i : Nat) (rest : List Char) : Option Directive :=
  match rest with
  | [] => some d
  | '=' :: _ =>
    let level := source.drop (i + 1)
    if level.isEmpty then some d
    else (threshold? level).map fun t => { d with threshold := t }
  | _ => none

/-- A field with its value, if there is one. -/
def field? (text : List Char) : Option FieldMatch :=
  if text.isEmpty then none
  else
    let name := text.takeWhile (· ≠ '=')
    match text.drop name.length with
    | _ :: value => some ⟨String.ofList name, some (String.ofList (value.takeWhile (· ≠ '=')))⟩
    | [] => some ⟨String.ofList name, none⟩

/-- What a directive says of spans, behind the opening bracket, from place `i` on. -/
def scope? (source : List Char) (d : Directive) (i : Nat) (rest : List Char) :
    Option Directive :=
  let size := (rest.takeWhile fun c => c ≠ ']' && c ≠ '\x7b').length
  let span := between source i (i + size)
  match rest.drop size with
  | ']' :: rest => tail? source { d with span := some (String.ofList span) } (i + size + 1) rest
  | '\x7b' :: rest => do
    let j := i + size + 1
    let inner := (rest.takeWhile (· ≠ '\x7d')).length
    let field ← field? (between source j (j + inner))
    match rest.drop inner with
    | '\x7d' :: ']' :: rest =>
      let span := if span.isEmpty then none else some (String.ofList span)
      tail? source { d with span, fields := [field] } (j + inner + 2) rest
    | _ => none
  | _ => none

/-- Reads a directive: a threshold, a target, or a target or span with a threshold. Without one
all events pass. The parts are found in the text without the blanks around it, and taken from the
same places of the whole text. -/
def ofText? (source : List Char) : Option Directive :=
  let text := ((source.dropWhile Text.isBlank).reverse.dropWhile Text.isBlank).reverse
  match text with
  | [] => none
  | '[' :: rest => scope? source {} 1 rest
  | c :: _ =>
    if !mayBegin c then none
    else
      let size := (text.takeWhile fun c => c ≠ '=' && c ≠ '[').length
      let target := some (String.ofList (between source 0 size))
      match text.drop size with
      | [] =>
        match threshold? source with
        | some threshold => some { threshold }
        | none => some { target := some (String.ofList source) }
      | '[' :: rest => scope? source { target } (size + 1) rest
      | rest => tail? source { target } size rest

end Directive

/-- A filter: the directives that decide about events and those that wait for spans, each the most
specific first. -/
structure Filter where
  statics : List Directive
  dynamics : List Directive
  deriving DecidableEq, Repr

namespace Filter

def ofDirectives (directives : List Directive) : Filter :=
  let (dynamics, statics) := directives.partition (·.isDynamic)
  { statics := (statics ++ dynamics.filter (·.isStatic)).foldl (fun ds d => d.insert ds) []
    dynamics := dynamics.foldl (fun ds d => d.insert ds) [] }

def parts : List Char → List (List Char)
  | [] => [[]]
  | c :: rest =>
    if c = ',' then [] :: parts rest
    else
      match parts rest with
      | [] => [[c]]
      | p :: ps => (c :: p) :: ps

/-- Reads a filter. Every directive must be readable. -/
def ofText? (text : String) : Option Filter := do
  let directives ←
    ((parts text.toList).filter fun p => !p.isEmpty).mapM Directive.ofText?
  return ofDirectives directives

def text (f : Filter) : String :=
  String.intercalate "," ((f.statics ++ f.dynamics).map (·.text))

/-- Whether an event is shown. -/
def shows (f : Filter) (e : Event) : Bool :=
  match f.statics.find? (·.fits e) with
  | some d => passes d.threshold e.level
  | none => false

/-- The filter for the events of this program from a level up. -/
def ofLevel (level : Level) : Filter :=
  ⟨[{ target := some "polymer_externs", threshold := some level }], []⟩

/-- The filter for the verbosity switches and what the environment gives. -/
def choose (verbose quiet : Bool) (environment : Option String) : Filter :=
  if verbose then ofLevel .debug
  else if quiet then ofLevel .error
  else (environment.bind ofText?).getD (ofLevel .info)

end Filter

/-- How a log line shows a character of a message: those that a terminal could obey are spelled
out. -/
def shown (c : Char) : List Char :=
  if [0x07, 0x08, 0x0C, 0x1B, 0x7F].contains c.toNat then
    '\\' :: 'x' :: (if c.toNat < 0x10 then ['0'] else []) ++ Text.hexDigits c.toNat
  else if 0x80 ≤ c.toNat && c.toNat ≤ 0x9F then
    ['\\', 'u', '\x7b'] ++ Text.hexDigits c.toNat ++ ['\x7d']
  else [c]

/-- An event as it is logged, without the time. -/
def line (e : Event) : String :=
  e.level.word ++ " " ++ String.ofList (e.message.toList.flatMap shown) ++
    String.join (e.fields.map fun f => " " ++ f.1 ++ "=" ++ f.2)

end Log

end MixinExterns
