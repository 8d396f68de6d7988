import MixinExterns.Proofs.Script.Gaps
import MixinExterns.Proofs.Script.Words

/-!
Texts that spell tokens. What a token is depends on the characters behind it, so a spelling always
names the text that follows; spellings compose when the second one is what follows the first. The
reader of tokens finds exactly the spelled ones, whatever brackets it believes to be open, since
none of the tokens here begins with a solidus or with the mark of a template.
-/

namespace MixinExterns.Script

/-- The reader of tokens takes a lexeme from its spelling, whatever kind of token it expects. -/
structure Reads (l : Lexeme) (spelling rest : List Char) : Prop where
  starts : ∃ c tail, spelling = c :: tail ∧ stopsGap c = true
  takes : ∀ operandNext,
    takeToken operandNext (spelling ++ rest) = ⟨l, spelling.length, rest⟩
  ordinary : l ≠ .mark .backquote ∧ ∀ place, l ≠ .invalid place

/-- The text in front of `tail` is made of gaps and of the spellings of some lexemes, the last of
which ends it. -/
inductive Spells (tail : List Char) : List Char → List Lexeme → Prop where
  | nil : Spells tail [] []
  | token {gap spelling rest : List Char} {l : Lexeme} {ls : List Lexeme} (hgap : Inert gap)
      (hread : Reads l spelling (rest ++ tail)) (hrest : Spells tail rest ls) :
      Spells tail (gap ++ (spelling ++ rest)) (l :: ls)

theorem Spells.append {tail a b : List Char} {ls ms : List Lexeme}
    (ha : Spells (b ++ tail) a ls) (hb : Spells tail b ms) : Spells tail (a ++ b) (ls ++ ms) := by
  induction ha with
  | nil => exact hb
  | token hgap hread _ ih =>
    rw [List.append_assoc, List.append_assoc]
    exact .token hgap (by simpa using hread) ih

theorem Spells.gap {tail gap text : List Char} {l : Lexeme} {ls : List Lexeme} (hgap : Inert gap)
    (h : Spells tail text (l :: ls)) : Spells tail (gap ++ text) (l :: ls) := by
  cases h with
  | token hfirst hread hrest =>
    rw [← List.append_assoc]
    exact .token (hgap.append hfirst) hread hrest

theorem Spells.cons {tail spelling rest : List Char} {l : Lexeme} {ls : List Lexeme}
    (hread : Reads l spelling (rest ++ tail)) (hrest : Spells tail rest ls) :
    Spells tail (spelling ++ rest) (l :: ls) :=
  .token .nil hread hrest

def endsWord (rest : List Char) : Bool :=
  match rest with
  | [] => true
  | c :: _ => !Text.isIdentifierPart c && c ≠ '\\'

private theorem takeWord_of_part {word rest : List Char}
    (hword : ∀ c ∈ word, Text.isIdentifierPart c = true) (hrest : endsWord rest = true) :
    takeWord (word ++ rest) = ⟨.word (String.ofList word), word.length, rest⟩ := by
  have hhead : ∀ c tail, rest = c :: tail → Text.isIdentifierPart c = false ∧ c ≠ '\\' := by
    rintro c tail rfl
    simpa [endsWord] using hrest
  have htake : (word ++ rest).takeWhile Text.isIdentifierPart = word := by
    rw [List.takeWhile_append_of_pos hword]
    cases rest with
    | nil => simp
    | cons c tail => simp [hhead c tail rfl]
  have hdrop : (word ++ rest).dropWhile Text.isIdentifierPart = rest := by
    rw [List.dropWhile_append_of_pos hword]
    cases rest with
    | nil => simp
    | cons c tail => simp [hhead c tail rfl]
  unfold takeWord
  simp only [htake, hdrop]
  split
  · next tail => exact absurd rfl (hhead '\\' tail rfl).2
  · rfl

private theorem stopsGap_of_nameStart {c : Char} (h : isNameStart c = true) :
    stopsGap c = true :=
  of_ascii (P := fun c => isNameStart c = true → stopsGap c = true) (by decide)
    (namePart_lt (isNamePart_of_start h)) h

private theorem not_quote_of_nameStart {c : Char} (h : isNameStart c = true) :
    c ≠ '"' ∧ c ≠ '\'' ∧ c ≠ '.' ∧ c ≠ '/' := by
  refine ⟨?_, ?_, ?_, ?_⟩
  all_goals
    rintro rfl
    exact absurd h (by decide)

/-- A word is read from its letters if the text behind it does not continue it. -/
theorem reads_word {word : String} {rest : List Char} (hword : isIdentifierName word = true)
    (hrest : endsWord rest = true) : Reads (.word word) word.toList rest := by
  obtain ⟨c, letters, heq, hc, -⟩ := isIdentifierName_iff.mp hword
  have hparts : ∀ d ∈ word.toList, Text.isIdentifierPart d = true :=
    fun d hd => isIdentifierPart_of_namePart (namePart_of_mem hword hd)
  refine ⟨⟨c, letters, heq, stopsGap_of_nameStart hc⟩, fun operandNext => ?_, by simp⟩
  have htake := takeWord_of_part hparts hrest
  rw [String.ofList_toList] at htake
  obtain ⟨hquote, hapostrophe, hdot, hslash⟩ := not_quote_of_nameStart hc
  rw [← htake, heq, List.cons_append, takeToken.eq_5 _ _ _ hquote hapostrophe]
  · simp [isIdentifierStart_of_nameStart hc]
  all_goals
    intros
    simp_all

/-- The punctuators that are read from one character, whatever follows. -/
def spellings : List (Char × Mark) :=
  [('(', .leftParen), (')', .rightParen), ('\x7b', .leftBrace), ('\x7d', .rightBrace),
   (',', .comma), (';', .semicolon)]

theorem reads_mark {c : Char} {m : Mark} (h : (c, m) ∈ spellings) (rest : List Char) :
    Reads (.mark m) [c] rest := by
  have hcases : ∀ e ∈ spellings, stopsGap e.1 = true ∧ Text.isIdentifierStart e.1 = false ∧
      e.1.isDigit = false ∧ e.2 ≠ .backquote := by decide
  obtain ⟨hstops, hstart, hdigit, hquote⟩ := hcases _ h
  refine ⟨⟨c, [], rfl, hstops⟩, fun operandNext => ?_, by simpa using hquote⟩
  simp only [spellings, List.mem_cons, Prod.mk.injEq, List.not_mem_nil, or_false] at h
  rcases h with ⟨rfl, rfl⟩ | ⟨rfl, rfl⟩ | ⟨rfl, rfl⟩ | ⟨rfl, rfl⟩ | ⟨rfl, rfl⟩ | ⟨rfl, rfl⟩ <;>
    simp_all [takeToken, takeMark, marked]

theorem reads_dot {word : String} (hword : isIdentifierName word = true) (rest : List Char) :
    Reads (.mark .dot) ['.'] (word.toList ++ rest) := by
  obtain ⟨c, letters, heq, hc, -⟩ := isIdentifierName_iff.mp hword
  have hdigit : c.isDigit = false :=
    of_ascii (P := fun c => isNameStart c = true → c.isDigit = false) (by decide)
      (namePart_lt (isNamePart_of_start hc)) hc
  refine ⟨⟨'.', [], rfl, by decide⟩, fun operandNext => ?_, by simp⟩
  have hdot := (not_quote_of_nameStart hc).2.2.1
  rw [heq]
  simp [takeToken, hdigit, takeMark, marked, hdot]

theorem reads_equals (rest : List Char) : Reads (.assign "=") ['='] (' ' :: rest) := by
  refine ⟨⟨'=', [], rfl, by decide⟩, fun operandNext => ?_, by simp⟩
  have hstart : Text.isIdentifierStart '=' = false := by decide
  simp [takeToken, takeMark, hstart]

/-- Nothing that is open is a template, so that the next characters are read as code. -/
def Surroundings.InCode (s : Surroundings) : Prop := .template ∉ s.frames

private theorem close_suffix (s : Surroundings) : s.close.1 <:+ s.frames := by
  unfold Surroundings.close
  split
  all_goals
    simp_all [List.suffix_cons_iff]

/-- A lexeme other than the mark of a template does not lead into one. -/
theorem Surroundings.InCode.push {s : Surroundings} (hs : s.InCode) {l : Lexeme}
    (hl : l ≠ .mark .backquote) (b : Bool) : (s.push l b).InCode := by
  have hclose : .template ∉ s.close.1 := fun h => hs ((close_suffix s).subset h)
  unfold InCode at hs ⊢
  unfold Surroundings.push
  cases l with
  | mark m =>
    cases m with
    | backquote => exact absurd rfl hl
    | rightParen | rightBrace => exact hclose
    | leftParen =>
      simp only [List.mem_cons, not_or]
      refine ⟨?_, hs⟩
      split <;> simp
    | leftBrace =>
      simp only [List.mem_cons, not_or]
      refine ⟨?_, hs⟩
      split <;> simp
    | templateOpen => simpa using hs
    | _ => exact hs
  | word w =>
    dsimp only
    split_ifs <;> simpa using hs
  | _ => exact hs

/-- A token behind a gap is read from its spelling, at the place where that begins. -/
theorem lexFrom_token {gap spelling rest : List Char} {l : Lexeme} (hgap : Inert gap)
    (hread : Reads l spelling rest) (fuel : Nat) {s : Surroundings} (hs : s.InCode) (first : Bool)
    (offset : Nat) :
    ∃ t, lexFrom (fuel + 1) s first (gap ++ (spelling ++ rest)) offset =
        t :: lexFrom fuel (s.push l (first || gap.any isLineEnd)) false rest
          (offset + gap.length + spelling.length) ∧
      t.lexeme = l ∧ t.start = offset + gap.length := by
  obtain ⟨c, letters, hspelling, hstops⟩ := hread.starts
  obtain ⟨-, hvalid⟩ := hread.ordinary
  have hframe : s.frames.head? ≠ some .template := fun hhead => hs (List.mem_of_mem_head? hhead)
  -- The gap ends where the spelling begins, and the token behind it is the spelled one.
  have hskip : skipGap .blanks (gap ++ (spelling ++ rest)) 0 first =
      ⟨gap.length, first || gap.any isLineEnd, false, spelling ++ rest⟩ := by
    rw [skipGap_inert hgap, hspelling, List.cons_append, skipGap_stops hstops, Nat.zero_add]
  have hnonempty : (spelling ++ rest).isEmpty = false := by simp [hspelling]
  refine ⟨Taken.token ⟨l, spelling.length, rest⟩ (offset + gap.length)
    (first || gap.any isLineEnd), ?_, ?_, rfl⟩
  · rw [lexFrom, if_neg hframe, hskip]
    simp [hnonempty, hread.takes, Taken.token]
  · cases l with
    | invalid place => exact absurd rfl (hvalid place)
    | _ => rfl

/-- The tokens of a spelled text are the spelled lexemes. Behind them the reader goes on with the
text that follows, counting on from the characters that were read. -/
theorem lexFrom_spells {tail text : List Char} {ls : List Lexeme} (h : Spells tail text ls) :
    ∀ (fuel : Nat) (s : Surroundings) (first : Bool) (offset : Nat), s.InCode →
      (text ++ tail).length < fuel →
      ∃ ts fuel' s' first', lexFrom fuel s first (text ++ tail) offset =
          ts ++ lexFrom fuel' s' first' tail (offset + text.length) ∧
        ts.map (·.lexeme) = ls ∧ s'.InCode ∧ tail.length < fuel' := by
  induction h with
  | nil =>
    intro fuel s first offset hs hfuel
    exact ⟨[], fuel, s, first, by simp, rfl, hs, by simpa using hfuel⟩
  | @token gap spelling rest l ls hgap hread _ ih =>
    intro fuel s first offset hs hfuel
    obtain ⟨c, letters, hspelling, -⟩ := hread.starts
    obtain ⟨fuel, rfl⟩ : ∃ n, fuel = n + 1 := ⟨fuel - 1, by omega⟩
    obtain ⟨t, htoken, hlexeme, -⟩ := lexFrom_token hgap hread fuel hs first offset
    obtain ⟨ts, fuel', s', first', hlex, hmap, hs', hfuel'⟩ :=
      ih fuel (s.push l (first || gap.any isLineEnd)) false (offset + gap.length + spelling.length)
        (hs.push hread.ordinary.1 _) (by simp [hspelling] at hfuel ⊢; omega)
    refine ⟨t :: ts, fuel', s', first', ?_, by simp [hlexeme, hmap], hs', hfuel'⟩
    have hend : offset + (gap ++ (spelling ++ rest)).length =
        offset + gap.length + spelling.length + rest.length := by simp [Nat.add_assoc]
    rw [List.append_assoc, List.append_assoc, htoken, hlex, hend, List.cons_append]

/-- What is left when all tokens are read may be blanks and comments. -/
theorem lexFrom_inert {gap : List Char} (hgap : Inert gap) (fuel : Nat) {s : Surroundings}
    (hs : s.InCode) (first : Bool) (offset : Nat) : lexFrom fuel s first gap offset = [] := by
  cases fuel with
  | zero => rfl
  | succ fuel =>
    have hframe : s.frames.head? ≠ some .template := fun hhead => hs (List.mem_of_mem_head? hhead)
    have hskip := skipGap_inert hgap [] 0 first
    rw [List.append_nil] at hskip
    rw [lexFrom, if_neg hframe, hskip]
    simp [skipGap]

private theorem head_inert {gap : List Char} (hgap : Inert gap) : gap.head? ≠ some '#' := by
  cases hgap with
  | nil => simp
  | @blank c rest hc _ =>
    rintro heq
    obtain rfl : c = '#' := by simpa using heq
    exact absurd hc (by decide)
  | comment => simp

/-- A spelled text begins with a number sign only if its first lexeme is one. -/
private theorem head_spells {text tail : List Char} {ls : List Lexeme} (h : Spells tail text ls)
    (htail : tail.head? ≠ some '#') (hhash : .mark .hash ∉ ls) :
    (text ++ tail).head? ≠ some '#' := by
  cases h with
  | nil => exact htail
  | @token first spelling rest l ls hfirst hread hrest =>
    obtain ⟨c, letters, rfl, -⟩ := hread.starts
    cases first with
    | cons d first => simpa using head_inert hfirst
    | nil =>
      rintro heq
      obtain rfl : c = '#' := by simpa using heq
      have hstart : Text.isIdentifierStart '#' = false := by decide
      have htake := hread.takes false
      simp [takeToken, takeMark, marked, hstart] at htake
      exact hhash (by simp [← htake.1])

private theorem tokens_eq_lexFrom {text : List Char} (h : text.head? ≠ some '#') :
    tokens text = lexFrom (text.length + 1) .start true text 0 := by
  unfold tokens
  split
  · simp at h
  · rfl

private theorem inCode_start : Surroundings.start.InCode := by
  simp [Surroundings.InCode, Surroundings.start]

/-- The tokens of a script whose text spells some lexemes are these lexemes. -/
theorem tokens_of_spells {text gap : List Char} {ls : List Lexeme} (h : Spells gap text ls)
    (hgap : Inert gap) (hhash : .mark .hash ∉ ls) :
    (tokens (text ++ gap)).map (·.lexeme) = ls := by
  obtain ⟨ts, fuel', s', first', hlex, hmap, hs', -⟩ :=
    lexFrom_spells h ((text ++ gap).length + 1) .start true 0 inCode_start (by omega)
  rw [tokens_eq_lexFrom (head_spells h (head_inert hgap) hhash), hlex,
    lexFrom_inert hgap fuel' hs', List.append_nil, hmap]

/-- A lexeme behind a text that spells others is read as a token at the end of that text, whatever
follows it. -/
theorem tokens_of_spells_reads {text spelling rest : List Char} {ls : List Lexeme} {l : Lexeme}
    (h : Spells (spelling ++ rest) text ls) (hread : Reads l spelling rest)
    (hhead : (spelling ++ rest).head? ≠ some '#') (hhash : .mark .hash ∉ ls) :
    ∃ ts t more, tokens (text ++ (spelling ++ rest)) = ts ++ t :: more ∧
      ts.map (·.lexeme) = ls ∧ t.lexeme = l ∧ t.start = text.length := by
  obtain ⟨ts, fuel', s', first', hlex, hmap, hs', hfuel'⟩ :=
    lexFrom_spells h ((text ++ (spelling ++ rest)).length + 1) .start true 0 inCode_start (by omega)
  obtain ⟨fuel', rfl⟩ : ∃ n, fuel' = n + 1 := ⟨fuel' - 1, by omega⟩
  obtain ⟨t, htoken, hlexeme, hstart⟩ :=
    lexFrom_token .nil hread fuel' hs' first' (0 + text.length)
  rw [List.nil_append] at htoken
  rw [tokens_eq_lexFrom (head_spells h hhead hhash), hlex, htoken]
  exact ⟨ts, t, _, rfl, hmap, hlexeme, by simpa using hstart⟩

end MixinExterns.Script
