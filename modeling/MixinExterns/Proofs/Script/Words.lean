import MixinExterns.Externs.Name
import MixinExterns.Script.Lexer

/-!
The identifiers of ASCII, and the words that no variable should be called in any kind of script.
An identifier is a word that the reader of tokens takes whole and that no parser confuses with a
keyword.
-/

namespace MixinExterns.Script

def isNameStart (c : Char) : Bool := c.isAlpha || c = '$' || c = '_'

def isNamePart (c : Char) : Bool := c.isAlphanum || c = '$' || c = '_'

/-- Whether a word has the form of an identifier of ASCII. It may be a reserved word. -/
def isIdentifierName (word : String) : Bool :=
  match word.toList with
  | [] => false
  | c :: rest => isNameStart c && rest.all isNamePart

/-- The words that some kind of script reserves: those of every script, those of strict code, and
the names that strict code does not bind. -/
def reservedWords : List String :=
  ["arguments", "await", "break", "case", "catch", "class", "const", "continue", "debugger",
   "default", "delete", "do", "else", "enum", "eval", "export", "extends", "false", "finally",
   "for", "function", "if", "implements", "import", "in", "instanceof", "interface", "let", "new",
   "null", "package", "private", "protected", "public", "return", "static", "super", "switch",
   "this", "throw", "true", "try", "typeof", "var", "void", "while", "with", "yield"]

def isIdentifier (word : String) : Bool :=
  isIdentifierName word && !reservedWords.contains word

/-- Whether a word is an identifier, or two words of their form joined by a dot. -/
def IsMixinName (name : String) : Prop :=
  isIdentifier name = true ∨
    ∃ space base, name = space ++ "." ++ base ∧ isIdentifierName space = true ∧
      isIdentifierName base = true

theorem isNamePart_of_start {c : Char} (h : isNameStart c = true) : isNamePart c = true := by
  simp only [isNameStart, Bool.or_eq_true] at h
  simp only [isNamePart, Char.isAlphanum, Bool.or_eq_true]
  rcases h with (h | h) | h
  · exact Or.inl (Or.inl (Or.inl h))
  · exact Or.inl (Or.inr h)
  · exact Or.inr h

private theorem isAlphanum_lt {c : Char} (h : c.isAlphanum = true) : c.toNat < 0x80 := by
  have hupper : c.isUpper = true → c.toNat ≤ 90 := fun h => (of_decide_eq_true h).2
  have hlower : c.isLower = true → c.toNat ≤ 122 :=
    fun h => of_decide_eq_true ((Bool.and_eq_true ..).mp h).2
  have hdigit : c.isDigit = true → c.toNat ≤ 57 :=
    fun h => of_decide_eq_true ((Bool.and_eq_true ..).mp h).2
  rcases (Bool.or_eq_true ..).mp h with h | h
  · rcases (Bool.or_eq_true ..).mp h with h | h
    · have := hupper h
      omega
    · have := hlower h
      omega
  · have := hdigit h
    omega

theorem namePart_lt {c : Char} (h : isNamePart c = true) : c.toNat < 0x80 := by
  simp only [isNamePart, Bool.or_eq_true, decide_eq_true_eq] at h
  rcases h with (h | rfl) | rfl
  · exact isAlphanum_lt h
  · decide
  · decide

/-- What holds of the first characters by enumeration holds of those of ASCII. -/
theorem of_ascii {P : Char → Prop} (h : ∀ n : Fin 0x80, P (Char.ofNat n)) {c : Char}
    (hc : c.toNat < 0x80) : P c := by
  have hchar := h ⟨c.toNat, hc⟩
  rwa [Char.ofNat_toNat] at hchar

theorem isIdentifierPart_of_namePart {c : Char} (h : isNamePart c = true) :
    Text.isIdentifierPart c = true := by
  simpa [Text.isIdentifierPart, namePart_lt h, isNamePart] using h

theorem isIdentifierStart_of_nameStart {c : Char} (h : isNameStart c = true) :
    Text.isIdentifierStart c = true := by
  simpa [Text.isIdentifierStart, namePart_lt (isNamePart_of_start h), isNameStart] using h

theorem isIdentifierName_iff {word : String} :
    isIdentifierName word = true ↔
      ∃ c rest, word.toList = c :: rest ∧ isNameStart c = true ∧
        ∀ d ∈ rest, isNamePart d = true := by
  unfold isIdentifierName
  cases hword : word.toList with
  | nil => simp
  | cons c rest =>
    rw [Bool.and_eq_true, List.all_eq_true]
    constructor
    · rintro ⟨hc, hrest⟩
      exact ⟨c, rest, rfl, hc, hrest⟩
    · rintro ⟨d, tail, heq, hd, htail⟩
      obtain ⟨rfl, rfl⟩ := List.cons.inj heq
      exact ⟨hd, htail⟩

theorem namePart_of_mem {word : String} (h : isIdentifierName word = true) {c : Char}
    (hc : c ∈ word.toList) : isNamePart c = true := by
  obtain ⟨d, rest, hword, hd, hrest⟩ := isIdentifierName_iff.mp h
  rw [hword, List.mem_cons] at hc
  rcases hc with rfl | hc
  · exact isNamePart_of_start hd
  · exact hrest c hc

theorem not_mem_of_identifierName {word : String} (h : isIdentifierName word = true) {c : Char}
    (hc : isNamePart c = false) : c ∉ word.toList := by
  intro hmem
  rw [namePart_of_mem h hmem] at hc
  exact absurd hc (by simp)

theorem ne_empty_of_identifierName {word : String} (h : isIdentifierName word = true) :
    word ≠ "" := by
  rintro rfl
  exact absurd h (by decide)

theorem isIdentifierName_of_identifier {word : String} (h : isIdentifier word = true) :
    isIdentifierName word = true := by
  simp only [isIdentifier, Bool.and_eq_true] at h
  exact h.1

theorem not_reserved_of_identifier {word : String} (h : isIdentifier word = true) :
    word ∉ reservedWords := by
  simp only [isIdentifier, Bool.and_eq_true, Bool.not_eq_true', List.contains_eq_mem,
    decide_eq_false_iff_not] at h
  exact h.2

/-- An identifier is none of the words that have a meaning of their own in every script. -/
theorem isReserved_of_identifier {word : String} (h : isIdentifier word = true) :
    isReserved word = false := by
  have hnot := not_reserved_of_identifier h
  simp only [reservedWords, List.mem_cons, List.not_mem_nil, or_false, not_or] at hnot
  simp only [isReserved, keywords, contextualKeywords, literalWords, List.contains_eq_mem,
    List.mem_cons, List.not_mem_nil, or_false]
  grind

/-- Two words joined by a low line are an identifier: no reserved word has a low line. -/
theorem isIdentifier_joined {space base : String} (hspace : isIdentifierName space = true)
    (hbase : isIdentifierName base = true) : isIdentifier (space ++ "_" ++ base) = true := by
  obtain ⟨c, rest, hword, hc, hrest⟩ := isIdentifierName_iff.mp hspace
  have hname : isIdentifierName (space ++ "_" ++ base) = true := by
    refine isIdentifierName_iff.mpr ⟨c, rest ++ '_' :: base.toList, by simp [hword], hc, ?_⟩
    intro d hd
    simp only [List.mem_append, List.mem_cons] at hd
    rcases hd with hd | rfl | hd
    · exact hrest d hd
    · decide
    · exact namePart_of_mem hbase hd
  have hlow : ∀ word ∈ reservedWords, '_' ∉ word.toList := by decide
  have hnot : space ++ "_" ++ base ∉ reservedWords := by
    intro hmem
    exact hlow _ hmem (by simp)
  simp [isIdentifier, hname, hnot]

theorem isIdentifier_combined {name : String} (h : IsMixinName name) :
    isIdentifier (QualifiedName.ofIdentifier name).combined = true := by
  rcases h with h | ⟨space, base, rfl, hspace, hbase⟩
  · have hdot := not_mem_of_identifierName (isIdentifierName_of_identifier h)
      (c := '.') (by decide)
    have hsplit := QualifiedName.splitAtLastDot_eq_none.mpr hdot
    simpa [QualifiedName.ofIdentifier, hsplit, QualifiedName.combined] using h
  · have hdot := not_mem_of_identifierName hbase (c := '.') (by decide)
    rw [QualifiedName.ofIdentifier_joined space hdot]
    exact isIdentifier_joined hspace hbase

end MixinExterns.Script
