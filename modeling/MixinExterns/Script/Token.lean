/-!
The tokens of a script. A token knows which characters of the script it covers, counted from zero,
and whether a line ends between it and the token before.
-/

namespace MixinExterns.Script

/-- The punctuators other than the operators between two operands. -/
inductive Mark where
  | leftParen
  | rightParen
  | leftBracket
  | rightBracket
  | leftBrace
  | rightBrace
  | dot
  | ellipsis
  | comma
  | semicolon
  | colon
  | question
  | arrow
  | bang
  | tilde
  | increment
  | decrement
  | at
  | hash
  /-- The mark at either end of a template. -/
  | backquote
  /-- What opens an expression inside a template. -/
  | templateOpen
  deriving DecidableEq, Repr

/-- What a token is. -/
inductive Lexeme where
  | word (text : String)
  | number
  /-- A string literal, as it is written. -/
  | string (text : String)
  | regularExpression
  /-- Characters of a template outside of its expressions. -/
  | templateText
  | mark (m : Mark)
  /-- An operator between two operands. -/
  | binary (operator : String)
  | assign (operator : String)
  /-- Characters that form no token. The offending place need not be the first of them. -/
  | invalid (place : Nat)
  deriving DecidableEq, Repr

/-- A token with the characters it covers, from `start` up to `stop`. -/
structure Token where
  lexeme : Lexeme
  start : Nat
  stop : Nat
  afterLineBreak : Bool
  deriving DecidableEq, Repr

/-- The words that have a meaning of their own wherever they stand for a keyword. -/
def keywords : List String :=
  ["await", "break", "case", "catch", "class", "const", "continue", "debugger", "default",
   "delete", "do", "else", "export", "extends", "finally", "for", "function", "if", "import", "in",
   "instanceof", "let", "new", "return", "super", "switch", "this", "throw", "try", "typeof",
   "var", "void", "while", "with", "yield"]

/-- The keywords behind which an operand is to come. -/
def keywordsBeforeOperand : List String :=
  ["await", "case", "default", "delete", "do", "else", "extends", "in", "instanceof", "new",
   "return", "throw", "typeof", "void", "yield"]

def literalWords : List String := ["null", "true", "false"]

/-- The words that are names except in strict code. -/
def strictWords : List String :=
  ["implements", "interface", "package", "private", "protected", "public", "static"]

/-- The keywords that are names where nothing gives them their meaning. -/
def contextualKeywords : List String := ["await", "let", "yield"]

/-- Whether a word is reserved in every script: no identifier can be spelled like it. -/
def isReserved (word : String) : Bool :=
  (keywords.contains word && !contextualKeywords.contains word) || literalWords.contains word

end MixinExterns.Script
