import MixinExterns.Toml.Document
import MixinExterns.Toml.Number

/-!
Reading TOML. A reader takes the characters still to be read to a result and the characters behind
it, or to nothing if they are not TOML. Values may be nested 80 deep; the reader of values is
defined by recursion on the nesting still allowed.
-/

namespace MixinExterns.Toml

/-- A reader of `α`. -/
abbrev Reader (α : Type) := List Char → Option (α × List Char)

/-- A character that may stand between the parts of a line. -/
def isSpace (c : Char) : Bool := c = ' ' || c = '\t'

def skipSpaces (text : List Char) : List Char := text.dropWhile isSpace

def isPlain (c : Char) : Bool := c = '\t' || (0x20 ≤ c.toNat && c.toNat ≠ 0x7F)

def newline? : List Char → Option (List Char)
  | '\n' :: rest => some rest
  | '\r' :: '\n' :: rest => some rest
  | _ => none

def skipComment (text : List Char) : List Char :=
  match text with
  | '#' :: rest => rest.dropWhile isPlain
  | _ => text

/-- Skips spaces, comments and the ends of lines, at most `bound` lines. -/
def skipLines : Nat → List Char → List Char
  | 0, text => text
  | bound + 1, text =>
    let text := skipComment (skipSpaces text)
    match newline? text with
    | some rest => skipLines bound rest
    | none => text

def letterEscape? : Char → Option Char
  | 'b' => some '\x08'
  | 't' => some '\t'
  | 'n' => some '\n'
  | 'f' => some '\x0c'
  | 'r' => some '\r'
  | '"' => some '"'
  | '\\' => some '\\'
  | _ => none

def codePoint? (digits : List Char) : Option Char := do
  let n ← Text.hexNumber? digits
  if h : n.isValidChar then some (Char.ofNatAux n h) else none

/-- Whether nothing but spaces stands before the end of the line. -/
def endsLine (text : List Char) : Bool := (newline? (skipSpaces text)).isSome

/-- Reads a string behind its opening quote. `read` is what was read, last character first. -/
def basicTail : List Char → List Char → Option (String × List Char)
  | '"' :: rest, read => some (String.ofList read.reverse, rest)
  | '\\' :: 'u' :: a :: b :: c :: d :: rest, read =>
    match codePoint? [a, b, c, d] with
    | some ch => basicTail rest (ch :: read)
    | none => none
  | '\\' :: 'U' :: a :: b :: c :: d :: e :: f :: g :: h :: rest, read =>
    match codePoint? [a, b, c, d, e, f, g, h] with
    | some ch => basicTail rest (ch :: read)
    | none => none
  | '\\' :: e :: rest, read =>
    match letterEscape? e with
    | some ch => basicTail rest (ch :: read)
    | none => none
  | c :: rest, read => if isPlain c && c ≠ '\\' then basicTail rest (c :: read) else none
  | [], _ => none

/-- Reads a string of several lines behind its opening quotes. While `trimming`, blanks and the
ends of lines are passed over. Of five quotes at the end two belong to the string. -/
def longTail : Bool → List Char → List Char → Option (String × List Char)
  | _, '"' :: '"' :: '"' :: '"' :: '"' :: rest, read =>
    some (String.ofList ('"' :: '"' :: read).reverse, rest)
  | _, '"' :: '"' :: '"' :: '"' :: rest, read => some (String.ofList ('"' :: read).reverse, rest)
  | _, '"' :: '"' :: '"' :: rest, read => some (String.ofList read.reverse, rest)
  | _, '\\' :: 'u' :: a :: b :: c :: d :: rest, read =>
    match codePoint? [a, b, c, d] with
    | some ch => longTail false rest (ch :: read)
    | none => none
  | _, '\\' :: 'U' :: a :: b :: c :: d :: e :: f :: g :: h :: rest, read =>
    match codePoint? [a, b, c, d, e, f, g, h] with
    | some ch => longTail false rest (ch :: read)
    | none => none
  | _, '\\' :: e :: rest, read =>
    if endsLine (e :: rest) then
      if e = '\n' || e = '\r' || isSpace e then longTail true rest read else none
    else
      match letterEscape? e with
      | some ch => longTail false rest (ch :: read)
      | none => none
  | trimming, '\r' :: '\n' :: rest, read =>
    longTail trimming rest (if trimming then read else '\n' :: '\r' :: read)
  | trimming, c :: rest, read =>
    if c = '\n' || (trimming && isSpace c) then
      longTail trimming rest (if trimming then read else c :: read)
    else if isPlain c && c ≠ '\\' then longTail false rest (c :: read)
    else none
  | _, [], _ => none

/-- Reads a string without escapes behind its opening quote. -/
def literalTail (text : List Char) : Option (String × List Char) :=
  let inner := text.takeWhile fun c => isPlain c && c ≠ '\''
  match text.drop inner.length with
  | '\'' :: rest => some (String.ofList inner, rest)
  | _ => none

/-- Reads a string of several lines without escapes behind its opening quotes. -/
def longLiteralTail : List Char → List Char → Option (String × List Char)
  | '\'' :: '\'' :: '\'' :: '\'' :: '\'' :: rest, read =>
    some (String.ofList ('\'' :: '\'' :: read).reverse, rest)
  | '\'' :: '\'' :: '\'' :: '\'' :: rest, read =>
    some (String.ofList ('\'' :: read).reverse, rest)
  | '\'' :: '\'' :: '\'' :: rest, read => some (String.ofList read.reverse, rest)
  | '\r' :: '\n' :: rest, read => longLiteralTail rest ('\n' :: '\r' :: read)
  | c :: rest, read =>
    if c = '\n' || isPlain c then longLiteralTail rest (c :: read) else none
  | [], _ => none

/-- What follows the end of a line right at the beginning of a string of several lines. -/
def withoutFirstNewline (text : List Char) : List Char := (newline? text).getD text

/-- Reads a string of any kind at its opening quote. -/
def string? : Reader String
  | '"' :: '"' :: '"' :: rest => longTail false (withoutFirstNewline rest) []
  | '"' :: rest => basicTail rest []
  | '\'' :: '\'' :: '\'' :: rest => longLiteralTail (withoutFirstNewline rest) []
  | '\'' :: rest => literalTail rest
  | _ => none

/-- A character of a key without quotes. -/
def isKeyChar (c : Char) : Bool := c.isAlphanum || c = '_' || c = '-'

def keyPart? : Reader String
  | '"' :: rest => basicTail rest []
  | '\'' :: rest => literalTail rest
  | text =>
    let part := text.takeWhile isKeyChar
    if part.isEmpty then none else some (String.ofList part, text.dropWhile isKeyChar)

/-- Reads a dotted key of at most `bound` parts, and the spaces behind it. -/
def key? : Nat → Reader (List String)
  | 0, _ => none
  | bound + 1, text => do
    let (part, rest) ← keyPart? (skipSpaces text)
    match skipSpaces rest with
    | '.' :: rest =>
      let (parts, rest) ← key? bound rest
      return (part :: parts, rest)
    | rest => return ([part], rest)

/-- What follows a character that must be next. -/
def expect? (c : Char) : List Char → Option (List Char)
  | d :: rest => if c = d then some rest else none
  | [] => none

/-- Whether a character ends a value without quotes or brackets. -/
def endsScalar (c : Char) : Bool :=
  [' ', '\t', '\n', '\r', ',', ']', '\x7d', '#'].contains c

/-- Reads a value without quotes or brackets. A date may be parted from its time by a space. -/
def plainValue? (text : List Char) : Option (Value × List Char) :=
  let first := text.takeWhile fun c => !endsScalar c
  let rest := text.drop first.length
  let (whole, rest) :=
    match Datetime.date? first, rest with
    | some (_, []), ' ' :: d :: more =>
      if d.isDigit then
        let second := (d :: more).takeWhile fun c => !endsScalar c
        (first ++ ' ' :: second, (d :: more).drop second.length)
      else (first, rest)
    | _, _ => (first, rest)
  (scalar? whole).map fun v => (v, rest)

def keyValue? (item : Reader Value) : Reader (List String × Value) := fun text => do
  let (key, rest) ← key? text.length text
  let rest ← expect? '=' rest
  let (v, rest) ← item (skipSpaces rest)
  return ((key, v), rest)

/-- Reads at most `bound` items of an array up to its closing bracket. -/
def items? (item : Reader Value) : Nat → Reader (List Value)
  | 0, _ => none
  | bound + 1, text =>
    let text := skipLines (text.length + 1) text
    match text with
    | ']' :: rest => some ([], rest)
    | _ => do
      let (v, rest) ← item text
      let rest := skipLines (rest.length + 1) rest
      match rest with
      | ',' :: rest =>
        let (vs, rest) ← items? item bound rest
        return (v :: vs, rest)
      | ']' :: rest => return ([v], rest)
      | _ => none

/-- Reads at most `bound` entries of an inline table up to its closing brace, which must not follow
a comma. -/
def inlineEntries? (item : Reader Value) : Nat → Table Node → Reader (Table Node)
  | 0, _, _ => none
  | bound + 1, entries, text => do
    let ((key, v), rest) ← keyValue? item text
    let entries ← setEntry entries key v
    match skipSpaces rest with
    | ',' :: rest => inlineEntries? item bound entries rest
    | '\x7d' :: rest => return (entries, rest)
    | _ => none

/-- Reads an inline table behind its opening brace. -/
def inlineTable? (item : Reader Value) : Reader Value := fun text =>
  match skipSpaces text with
  | '\x7d' :: rest => some (.table [], rest)
  | _ => do
    let (entries, rest) ← inlineEntries? item text.length [] text
    return (.table (tableOf entries), rest)

/-- Reads a value, given how to read an array and an inline table behind their opening bracket. -/
def valueWith (array table : Reader Value) : Reader Value := fun text =>
  match text with
  | '"' :: _ | '\'' :: _ => (string? text).map fun (s, rest) => (.string s, rest)
  | '[' :: rest => array rest
  | '\x7b' :: rest => table rest
  | _ => plainValue? text

/-- Reads a value whose brackets are nested at most `depth` deep. -/
def value? : Nat → Reader Value
  | 0 => valueWith (fun _ => none) (fun _ => none)
  | depth + 1 =>
    valueWith
      (fun text => (items? (value? depth) (text.length + 1) text).map fun (vs, rest) =>
        (.array vs, rest))
      (inlineTable? (value? depth))

/-- How deep brackets may be nested. -/
def maxDepth : Nat := 80

def line? : Reader Line
  | '[' :: '[' :: text => do
    let (path, rest) ← key? text.length text
    let rest ← expect? ']' rest
    let rest ← expect? ']' rest
    return (.element path, rest)
  | '[' :: text => do
    let (path, rest) ← key? text.length text
    let rest ← expect? ']' rest
    return (.table path, rest)
  | text => do
    let ((key, v), rest) ← keyValue? (value? maxDepth) text
    return (.entry key v, rest)

/-- Reads at most `bound` lines up to the end of the text. -/
def lines? : Nat → List Char → Option (List Line)
  | 0, _ => none
  | bound + 1, text =>
    let text := skipLines (text.length + 1) text
    if text.isEmpty then some []
    else do
      let (line, rest) ← line? text
      let rest := skipComment (skipSpaces rest)
      if rest.isEmpty then return [line]
      else
        let rest ← newline? rest
        return line :: (← lines? bound rest)

/-- The table of a document. A mark of the byte order may stand before it. -/
def document? (text : String) : Option (Table Value) := do
  let text :=
    match text.toList with
    | c :: rest => if c.toNat = 0xFEFF then rest else c :: rest
    | [] => []
  tableOfLines (← lines? (text.length + 1) text)

end MixinExterns.Toml
