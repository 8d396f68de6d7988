import MixinExterns.Script.Token
import MixinExterns.Text.Blank
import MixinExterns.Text.Hex
import MixinExterns.Text.Identifier

/-!
The tokens of a script's text. A solidus begins a regular expression where an operand is to come
and is a division elsewhere; which of the two is the case follows from the token before and from
the brackets that are open, and so does the end of an expression inside a template.

Every function here takes the characters still to be read and gives back those behind what it
took, with their number.
-/

namespace MixinExterns.Script

def isLineEnd (c : Char) : Bool :=
  c = '\n' || c = '\r' || c.toNat = 0x2028 || c.toNat = 0x2029

def isGap (c : Char) : Bool := Text.isBlank c || c.toNat = 0xFEFF

/-- What lies in front of a token: its characters' number, whether a line ends there, whether it is
a comment without an end, and the text behind it. -/
structure Gap where
  size : Nat
  lineBreak : Bool
  openComment : Bool
  rest : List Char

/-- What a reader of gaps is inside of. -/
inductive GapMode where
  | blanks
  | lineComment
  | blockComment
  deriving DecidableEq

/-- Skips blanks and comments. A comment may also begin with `<!--`, and with `-->` where nothing
but blanks and comments stand before it on its line; both end with the line. -/
def skipGap : GapMode → List Char → Nat → Bool → Gap
  | .blanks, '/' :: '/' :: rest, n, b => skipGap .lineComment rest (n + 2) b
  | .blanks, '/' :: '*' :: rest, n, b => skipGap .blockComment rest (n + 2) b
  | .blanks, '<' :: '!' :: '-' :: '-' :: rest, n, b => skipGap .lineComment rest (n + 4) b
  | .blanks, '-' :: '-' :: '>' :: rest, n, true => skipGap .lineComment rest (n + 3) true
  | .blanks, c :: rest, n, b =>
    if isGap c then skipGap .blanks rest (n + 1) (b || isLineEnd c) else ⟨n, b, false, c :: rest⟩
  | .lineComment, c :: rest, n, b =>
    if isLineEnd c then skipGap .blanks rest (n + 1) true
    else skipGap .lineComment rest (n + 1) b
  | .blockComment, '*' :: '/' :: rest, n, b => skipGap .blanks rest (n + 2) b
  | .blockComment, c :: rest, n, b => skipGap .blockComment rest (n + 1) (b || isLineEnd c)
  | mode, [], n, b => ⟨n, b, mode = .blockComment, []⟩

/-- What a reader of one token took: the token, the number of its characters, and the text behind
it. A place inside of an invalid token is counted from the token's beginning. -/
structure Taken where
  lexeme : Lexeme
  size : Nat
  rest : List Char

/-- The character that an escape by code point stands for, behind its reverse solidus, and the
number of characters of the escape. -/
def unicodeEscape? : List Char → Option (Char × Nat)
  | 'u' :: '\x7b' :: rest =>
    let digits := rest.takeWhile Text.isHexDigit
    match Text.hexNumber? digits, rest.drop digits.length with
    | some n, '\x7d' :: _ =>
      if n < 0x110000 then some (Char.ofNat n, digits.length + 3) else none
    | _, _ => none
  | 'u' :: a :: b :: c :: d :: _ => (Text.hexNumber? [a, b, c, d]).map fun n => (Char.ofNat n, 5)
  | _ => none

/-- Takes the rest of a word that is written with escapes, at most `fuel` pieces of it. -/
def escapedWord : Nat → List Char → List Char → Nat → Taken
  | 0, rest, read, size => ⟨.word (String.ofList read.reverse), size, rest⟩
  | fuel + 1, rest, read, size =>
    match rest with
    | '\\' :: behind =>
      match unicodeEscape? behind with
      | some (c, n) => escapedWord fuel (behind.drop n) (c :: read) (size + n + 1)
      | none => ⟨.invalid size, size + 1, behind⟩
    | c :: behind =>
      if Text.isIdentifierPart c then escapedWord fuel behind (c :: read) (size + 1)
      else ⟨.word (String.ofList read.reverse), size, rest⟩
    | [] => ⟨.word (String.ofList read.reverse), size, rest⟩

/-- Takes a word. A keyword cannot be written with escapes. -/
def takeWord (text : List Char) : Taken :=
  let plain := text.takeWhile Text.isIdentifierPart
  match text.dropWhile Text.isIdentifierPart with
  | '\\' :: rest =>
    let taken := escapedWord (rest.length + 1) ('\\' :: rest) plain.reverse plain.length
    match taken.lexeme with
    | .word w => if isReserved w then { taken with lexeme := .invalid 0 } else taken
    | _ => taken
  | rest => ⟨.word (String.ofList plain), plain.length, rest⟩

def takeDigits (isDigit : Char → Bool) (text : List Char) : List Char × List Char :=
  let isPart c := isDigit c || c = '_'
  (text.takeWhile isPart, text.dropWhile isPart)

/-- A number of a given size. A word must not follow it directly. -/
def numberOf (size : Nat) (rest : List Char) : Taken :=
  match rest with
  | c :: _ =>
    if Text.isIdentifierStart c then ⟨.invalid size, size, rest⟩ else ⟨.number, size, rest⟩
  | [] => ⟨.number, size, rest⟩

/-- Takes the exponent of a number and what follows, behind `size` characters. -/
def takeExponent (size : Nat) (text : List Char) : Taken :=
  match text with
  | e :: rest =>
    if e = 'e' || e = 'E' then
      let (sign, rest) :=
        match rest with
        | '+' :: rest => (1, rest)
        | '-' :: rest => (1, rest)
        | _ => (0, rest)
      let (digits, rest) := takeDigits Char.isDigit rest
      if digits.isEmpty then ⟨.invalid 0, size + 1 + sign, rest⟩
      else numberOf (size + 1 + sign + digits.length) rest
    else numberOf size text
  | [] => numberOf size text

/-- Takes a number in another base than ten behind its two first characters. -/
def takeRadix (isDigit : Char → Bool) (text : List Char) : Taken :=
  let (digits, rest) := takeDigits isDigit text
  if digits.isEmpty then ⟨.invalid 0, 2, rest⟩
  else
    match rest with
    | 'n' :: rest => numberOf (digits.length + 3) rest
    | _ => numberOf (digits.length + 2) rest

def takeNumber (text : List Char) : Taken :=
  match text with
  | '0' :: 'x' :: rest | '0' :: 'X' :: rest => takeRadix Text.isHexDigit rest
  | '0' :: 'o' :: rest | '0' :: 'O' :: rest => takeRadix (fun c => '0' ≤ c && c ≤ '7') rest
  | '0' :: 'b' :: rest | '0' :: 'B' :: rest => takeRadix (fun c => c = '0' || c = '1') rest
  | _ =>
    let (whole, rest) := takeDigits Char.isDigit text
    match rest with
    | 'n' :: rest => numberOf (whole.length + 1) rest
    | '.' :: rest =>
      let (fraction, rest) := takeDigits Char.isDigit rest
      takeExponent (whole.length + 1 + fraction.length) rest
    | _ => takeExponent whole.length rest

/-- Takes a string literal behind its opening quote. `read` is what was taken, last first. -/
def stringTail (quote : Char) : List Char → List Char → Nat → Taken
  | '\\' :: '\r' :: '\n' :: rest, read, n => stringTail quote rest read (n + 3)
  | '\\' :: c :: rest, read, n =>
    if (c = 'u' && (unicodeEscape? (c :: rest)).isNone) ||
        (c = 'x' && (Text.hexNumber? (rest.take 2)).isNone) then
      ⟨.invalid n, n + 2, rest⟩
    else stringTail quote rest (c :: '\\' :: read) (n + 2)
  | c :: rest, read, n =>
    if c = quote then ⟨.string (String.ofList (c :: read).reverse), n + 1, rest⟩
    else if c = '\n' || c = '\r' then ⟨.invalid 0, n, c :: rest⟩
    else stringTail quote rest (c :: read) (n + 1)
  | [], _, n => ⟨.invalid 0, n, []⟩

/-- Takes a regular expression behind its opening solidus, and its flags. -/
def regexTail (inClass : Bool) : List Char → Nat → Taken
  | '\\' :: c :: rest, n =>
    if isLineEnd c then ⟨.invalid 0, n + 1, c :: rest⟩ else regexTail inClass rest (n + 2)
  | c :: rest, n =>
    if isLineEnd c then ⟨.invalid 0, n, c :: rest⟩
    else if c = '[' then regexTail true rest (n + 1)
    else if c = ']' then regexTail false rest (n + 1)
    else if c = '/' && !inClass then
      ⟨.regularExpression, n + 1 + (rest.takeWhile Text.isIdentifierPart).length,
        rest.dropWhile Text.isIdentifierPart⟩
    else regexTail inClass rest (n + 1)
  | [], n => ⟨.invalid 0, n, []⟩

/-- Takes characters of a template up to its end or to an expression in it. -/
def templateTail : List Char → Nat → Taken
  | '`' :: rest, n => ⟨.templateText, n, '`' :: rest⟩
  | '$' :: '\x7b' :: rest, n => ⟨.templateText, n, '$' :: '\x7b' :: rest⟩
  | '\\' :: _ :: rest, n => templateTail rest (n + 2)
  | _ :: rest, n => templateTail rest (n + 1)
  | [], n => ⟨.invalid 0, n, []⟩

/-- A punctuator and the text behind it. -/
def marked (m : Mark) (size : Nat) (rest : List Char) : Taken := ⟨.mark m, size, rest⟩

/-- A binary operator, or with an equals sign behind it an assignment operator. -/
def operator (spelling : String) (size : Nat) (rest : List Char) : Taken :=
  match rest with
  | '=' :: rest => ⟨.assign (spelling ++ "="), size + 1, rest⟩
  | _ => ⟨.binary spelling, size, rest⟩

/-- Takes a punctuator. A character that begins none is invalid. -/
def takeMark (text : List Char) : Taken :=
  match text with
  | '(' :: rest => marked .leftParen 1 rest
  | ')' :: rest => marked .rightParen 1 rest
  | '[' :: rest => marked .leftBracket 1 rest
  | ']' :: rest => marked .rightBracket 1 rest
  | '\x7b' :: rest => marked .leftBrace 1 rest
  | '\x7d' :: rest => marked .rightBrace 1 rest
  | '.' :: '.' :: '.' :: rest => marked .ellipsis 3 rest
  | '.' :: rest => marked .dot 1 rest
  | ',' :: rest => marked .comma 1 rest
  | ';' :: rest => marked .semicolon 1 rest
  | ':' :: rest => marked .colon 1 rest
  | '?' :: '?' :: rest => operator "??" 2 rest
  | '?' :: rest => marked .question 1 rest
  | '`' :: rest => marked .backquote 1 rest
  | '@' :: rest => marked .at 1 rest
  | '#' :: rest => marked .hash 1 rest
  | '~' :: rest => marked .tilde 1 rest
  | '=' :: '=' :: '=' :: rest => ⟨.binary "===", 3, rest⟩
  | '=' :: '=' :: rest => ⟨.binary "==", 2, rest⟩
  | '=' :: '>' :: rest => marked .arrow 2 rest
  | '=' :: rest => ⟨.assign "=", 1, rest⟩
  | '!' :: '=' :: '=' :: rest => ⟨.binary "!==", 3, rest⟩
  | '!' :: '=' :: rest => ⟨.binary "!=", 2, rest⟩
  | '!' :: rest => marked .bang 1 rest
  | '+' :: '+' :: rest => marked .increment 2 rest
  | '+' :: rest => operator "+" 1 rest
  | '-' :: '-' :: rest => marked .decrement 2 rest
  | '-' :: rest => operator "-" 1 rest
  | '*' :: '*' :: rest => operator "**" 2 rest
  | '*' :: rest => operator "*" 1 rest
  | '/' :: rest => operator "/" 1 rest
  | '%' :: rest => operator "%" 1 rest
  | '^' :: rest => operator "^" 1 rest
  | '&' :: '&' :: rest => operator "&&" 2 rest
  | '&' :: rest => operator "&" 1 rest
  | '|' :: '|' :: rest => operator "||" 2 rest
  | '|' :: rest => operator "|" 1 rest
  | '<' :: '<' :: rest => operator "<<" 2 rest
  | '<' :: '=' :: rest => ⟨.binary "<=", 2, rest⟩
  | '<' :: rest => ⟨.binary "<", 1, rest⟩
  | '>' :: '>' :: '>' :: rest => operator ">>>" 3 rest
  | '>' :: '>' :: rest => operator ">>" 2 rest
  | '>' :: '=' :: rest => ⟨.binary ">=", 2, rest⟩
  | '>' :: rest => ⟨.binary ">", 1, rest⟩
  | _ :: rest => ⟨.invalid 0, 1, rest⟩
  | [] => ⟨.invalid 0, 0, []⟩

def takeToken (operandNext : Bool) (text : List Char) : Taken :=
  match text with
  | '"' :: rest => stringTail '"' rest ['"'] 1
  | '\'' :: rest => stringTail '\'' rest ['\''] 1
  | '.' :: d :: rest =>
    if d.isDigit then
      let (fraction, rest) := takeDigits Char.isDigit (d :: rest)
      takeExponent (1 + fraction.length) rest
    else takeMark text
  | '/' :: rest => if operandNext then regexTail false rest 1 else takeMark text
  | c :: _ =>
    if Text.isIdentifierStart c || c = '\\' then takeWord text
    else if c.isDigit then takeNumber text
    else takeMark text
  | [] => takeMark text

/-- A bracket that is open, or a construct that waits for one. -/
inductive Frame where
  /-- The braces of a block, or the whole script. -/
  | block
  | object
  /-- The braces of an expression in a template. -/
  | insertion
  /-- The parentheses behind a keyword such as `if`; `loop` says that it is `for`. -/
  | condition (loop : Bool)
  /-- Any other parentheses. -/
  | grouping
  | template
  | functionOperand
  | classOperand
  deriving DecidableEq, Repr

def Frame.endsOperand : Frame → Bool
  | .object | .insertion | .grouping | .template | .functionOperand | .classOperand => true
  | .block | .condition _ => false

/-- What is open, innermost first, the token before, and whether an operand is to come. -/
structure Surroundings where
  frames : List Frame
  previous : Option Lexeme
  operandNext : Bool

def Surroundings.start : Surroundings := ⟨[.block], none, true⟩

def Surroundings.opensBlock (s : Surroundings) (afterLineBreak : Bool) : Bool :=
  match s.previous with
  | some (.mark .colon) =>
    match s.frames.head? with
    | some .block => true
    | some .object => false
    | _ => !s.operandNext
  | some (.word "return") | some (.word "yield") => afterLineBreak
  | none | some (.word "else") | some (.mark .semicolon) | some (.mark .rightParen) |
    some (.mark .arrow) | some (.binary "<") | some (.binary ">") => true
  | some (.mark .leftBrace) => s.frames.head? = some .block
  | _ => !s.operandNext

/-- Closes the innermost bracket, except the script itself. -/
def Surroundings.close (s : Surroundings) : List Frame × Bool :=
  match s.frames with
  | [] => ([], true)
  | [f] => ([f], true)
  | .block :: .functionOperand :: rest => (rest, false)
  | .block :: .classOperand :: rest => (rest, false)
  | .insertion :: .template :: rest => (.template :: rest, false)
  | .insertion :: rest => (rest, true)
  | f :: rest => (rest, !f.endsOperand)

/-- The surroundings behind one more token. -/
def Surroundings.push (s : Surroundings) (l : Lexeme) (afterLineBreak : Bool) : Surroundings :=
  let (frames, operandNext) :=
    match l with
    | .mark .rightParen | .mark .rightBrace => s.close
    | .mark .leftParen =>
      let frame :=
        match s.previous with
        | some (.word "if") | some (.word "with") | some (.word "while") => .condition false
        | some (.word "for") => .condition true
        | _ => .grouping
      (frame :: s.frames, true)
    | .mark .leftBrace =>
      ((if s.opensBlock afterLineBreak then .block else .object) :: s.frames, true)
    | .mark .templateOpen => (.insertion :: s.frames, true)
    | .mark .backquote =>
      match s.frames with
      | .template :: rest => (rest, false)
      | frames => (.template :: frames, false)
    | .mark .increment | .mark .decrement => (s.frames, s.operandNext)
    | .mark .rightBracket | .mark .dot | .mark .hash | .mark .at => (s.frames, false)
    | .mark _ | .binary _ | .assign _ => (s.frames, true)
    | .word w =>
      if s.previous = some (.mark .dot) then (s.frames, false)
      else if w = "function" && s.operandNext && !s.opensBlock afterLineBreak then
        (.functionOperand :: s.frames, false)
      else if w = "class" && s.operandNext && !s.opensBlock afterLineBreak then
        (.classOperand :: s.frames, false)
      else if w = "of" && s.frames.head? = some (.condition true) then (s.frames, true)
      else (s.frames, keywordsBeforeOperand.contains w)
    | _ => (s.frames, false)
  ⟨frames, some l, operandNext⟩

/-- Moves the place inside an invalid token from the token's beginning to the script's. -/
def Taken.token (t : Taken) (start : Nat) (afterLineBreak : Bool) : Token :=
  let lexeme :=
    match t.lexeme with
    | .invalid place => .invalid (start + place)
    | l => l
  ⟨lexeme, start, start + t.size, afterLineBreak⟩

def takeTemplate (text : List Char) : Taken :=
  match text with
  | '`' :: rest => marked .backquote 1 rest
  | '$' :: '\x7b' :: rest => marked .templateOpen 2 rest
  | _ => templateTail text 0

/-- The tokens of a text that begins `offset` characters into the script, at most `fuel`. -/
def lexFrom : Nat → Surroundings → Bool → List Char → Nat → List Token
  | 0, _, _, _, _ => []
  | fuel + 1, s, first, text, offset =>
    if s.frames.head? = some .template then
      if text.isEmpty then []
      else
        let taken := takeTemplate text
        let token := taken.token offset false
        token :: lexFrom fuel (s.push taken.lexeme false) false taken.rest token.stop
    else
      let gap := skipGap .blanks text 0 first
      if gap.openComment then [⟨.invalid offset, offset, offset + gap.size, gap.lineBreak⟩]
      else if gap.rest.isEmpty then []
      else
        let taken := takeToken s.operandNext gap.rest
        let token := taken.token (offset + gap.size) gap.lineBreak
        token :: lexFrom fuel (s.push taken.lexeme gap.lineBreak) false taken.rest token.stop

/-- The tokens of a script. A first line that begins with `#!` is no part of the code. -/
def tokens (text : List Char) : List Token :=
  match text with
  | '#' :: '!' :: rest =>
    let line := rest.takeWhile fun c => !isLineEnd c
    lexFrom (text.length + 1) .start true (rest.drop line.length) (line.length + 2)
  | _ => lexFrom (text.length + 1) .start true text 0

end MixinExterns.Script
