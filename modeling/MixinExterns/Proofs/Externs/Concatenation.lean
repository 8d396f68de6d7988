import MixinExterns.Externs.Generate

/-!
Externs of lists put together. Below the header the externs of two lists are those of the first and
those of the second, parted by an empty line if there are any of both. The header counts without the
blanks at its end, and stands in front like one more text of externs.
-/

namespace MixinExterns

/-- The options without a header. -/
def EmitOptions.headless (o : EmitOptions) : EmitOptions := { o with header := "" }

namespace Externs

/-- Two texts with an empty line between them, unless one of them is empty. -/
def joined (a b : String) : String :=
  if b = "" then a else if a = "" then b else a ++ "\n" ++ b

@[simp]
theorem joined_empty (a : String) : joined a "" = a := by
  simp [joined]

@[simp]
theorem empty_joined (b : String) : joined "" b = b := by
  by_cases hb : b = "" <;> simp [joined, hb]

theorem layOut_eq_empty_iff {parts : List String} : layOut parts = "" ↔ parts = [] := by
  cases parts with
  | nil => simp [layOut]
  | cons p ps => cases ps <;> simp [layOut]

theorem layOut_singleton (part : String) : layOut [part] = part ++ "\n" := by
  simp [layOut]

/-- What is laid out behind other parts is parted from them by an empty line. -/
theorem layOut_append (ps qs : List String) :
    layOut (ps ++ qs) = joined (layOut ps) (layOut qs) := by
  have hnil : layOut [] = "" := rfl
  by_cases hps : ps = []
  · rw [hps, List.nil_append, hnil, empty_joined]
  by_cases hqs : qs = []
  · rw [hqs, List.append_nil, hnil, joined_empty]
  have hmap : layOut (ps ++ qs) = layOut ps ++ "\n" ++ layOut qs := by
    simp only [layOut, List.map_append]
    exact String.intercalate_append_of_ne_nil (by simpa using hps) (by simpa using hqs)
  rw [joined, if_neg (mt layOut_eq_empty_iff.mp hqs), if_neg (mt layOut_eq_empty_iff.mp hps), hmap]

theorem declarations_append (xs ys : List Feature) (o : EmitOptions) :
    declarations (xs ++ ys) o = declarations xs o ++ declarations ys o := by
  simp [declarations, mixins]

theorem value_generate (features : List Feature) (o : EmitOptions) :
    (generate features o).value = text features o := by
  simp only [generate]

theorem value_headless (features : List Feature) (o : EmitOptions) :
    (generate features o.headless).value = layOut ((declarations features o).map (·.text)) := by
  have hheader : headerPart "" = [] := by decide
  have hdeclarations : declarations features o.headless = declarations features o := rfl
  rw [value_generate, text, hdeclarations, EmitOptions.headless, hheader, List.nil_append]

/-- The header stands in front of the externs that have none. -/
theorem value_generate_header (features : List Feature) (o : EmitOptions) :
    (generate features o).value =
      joined (layOut (headerPart o.header)) (generate features o.headless).value := by
  rw [value_headless, ← layOut_append, value_generate, text]

theorem layOut_headerPart {header : String} (h : Text.trimEnd header ≠ "") :
    layOut (headerPart header) = Text.trimEnd header ++ "\n" := by
  have hpart : headerPart header = [Text.trimEnd header] := by
    simp [headerPart, h]
  rw [hpart, layOut_singleton]

theorem headerPart_congr {header header' : String}
    (h : Text.trimEnd header = Text.trimEnd header') : headerPart header = headerPart header' := by
  simp only [headerPart, h]

/-- Whether a text has a last character, and that is no line feed. -/
def EndsInLine (s : String) : Prop := ∃ before last, last ≠ '\n' ∧ s.toList = before ++ [last]

theorem endsInLine_append {a b : String} (hb : EndsInLine b) : EndsInLine (a ++ b) := by
  obtain ⟨before, last, hlast, hchars⟩ := hb
  exact ⟨a.toList ++ before, last, hlast, by simp [hchars]⟩

theorem endsInLine_declaration (d : Declaration) : EndsInLine d.text := by
  have hbrace : EndsInLine "()\x7b\x7d" := ⟨"()\x7b".toList, '\x7d', by decide⟩
  have hstub : EndsInLine ")\x7b\x7d;" := ⟨")\x7b\x7d".toList, ';', by decide⟩
  have hsemicolon : EndsInLine ";" := ⟨[], ';', by decide⟩
  cases d with
  | record name tag parents => exact endsInLine_append hbrace
  | property owner name type => exact endsInLine_append hsemicolon
  | method target name annotations params => exact endsInLine_append hstub

/-- A line feed is blank, so none is left at the end of a trimmed text. -/
theorem endsInLine_trimEnd {s : String} (h : Text.trimEnd s ≠ "") : EndsInLine (Text.trimEnd s) := by
  have hchars := Text.toList_trimEnd s
  cases hreverse : s.toList.reverse.dropWhile Text.isBlank with
  | nil => exact absurd (String.toList_inj.mp (by simp [hreverse])) h
  | cons last before =>
    have hblank : ¬ Text.isBlank last = true := by
      have hnone := List.head?_dropWhile_not Text.isBlank s.toList.reverse
      simpa [hreverse] using hnone
    refine ⟨before.reverse, last, ?_, by simp [hchars, hreverse]⟩
    rintro rfl
    exact hblank (by decide)

/-- Parts that end in a line are laid out with one line feed at their end. -/
theorem layOut_ends {parts : List String} (h : ∀ p ∈ parts, EndsInLine p) :
    layOut parts = "" ∨
      ∃ before last, last ≠ '\n' ∧ (layOut parts).toList = before ++ [last, '\n'] := by
  rcases List.eq_nil_or_concat parts with rfl | ⟨front, part, rfl⟩
  · exact .inl rfl
  right
  obtain ⟨before, last, hlast, hchars⟩ := h part (by simp)
  have hpart : layOut [part] ≠ "" := mt layOut_eq_empty_iff.mp (by simp)
  rw [List.concat_eq_append, layOut_append, joined, if_neg hpart, layOut_singleton]
  split
  · exact ⟨before, last, hlast, by simp [hchars]⟩
  · exact ⟨(layOut front ++ "\n").toList ++ before, last, hlast, by simp [hchars]⟩

theorem value_generate_ends (features : List Feature) (o : EmitOptions) :
    (generate features o).value = "" ∨ ∃ before last, last ≠ '\n' ∧
      (generate features o).value.toList = before ++ [last, '\n'] := by
  rw [value_generate, text]
  refine layOut_ends fun part hpart => ?_
  rcases List.mem_append.mp hpart with hpart | hpart
  · by_cases hheader : Text.trimEnd o.header = ""
    · simp [headerPart, hheader] at hpart
    · obtain rfl : part = Text.trimEnd o.header := by simpa [headerPart, hheader] using hpart
      exact endsInLine_trimEnd hheader
  · obtain ⟨d, -, rfl⟩ := List.mem_map.mp hpart
    exact endsInLine_declaration d

/-- The externs of two lists put together are the externs of the first one and behind an empty line
those of the second one without a header, or only those that are not empty. Of the header only its
text without the blanks at the end counts: if that is not empty it is the first line or lines, and
the externs without a header stand behind it and an empty line. Externs that are not empty end in
one line feed. -/
theorem generate_append (o : EmitOptions) :
    (∀ xs ys, (generate (xs ++ ys) o).value =
      if (generate ys o.headless).value = "" then (generate xs o).value
      else if (generate xs o).value = "" then (generate ys o.headless).value
      else (generate xs o).value ++ "\n" ++ (generate ys o.headless).value) ∧
    (∀ header features, Text.trimEnd header = Text.trimEnd o.header →
      (generate features { o with header }).value = (generate features o).value) ∧
    (∀ features, Text.trimEnd o.header ≠ "" → (generate features o).value =
      Text.trimEnd o.header ++ "\n" ++
        if (generate features o.headless).value = "" then ""
        else "\n" ++ (generate features o.headless).value) ∧
    ∀ features, (generate features o).value = "" ∨ ∃ before last, last ≠ '\n' ∧
      (generate features o).value.toList = before ++ [last, '\n'] := by
  refine ⟨fun xs ys => ?_, fun header features h => ?_, fun features h => ?_,
    fun features => value_generate_ends features o⟩
  · have happend : (generate (xs ++ ys) o).value =
        joined (generate xs o).value (generate ys o.headless).value := by
      rw [value_headless, value_generate, value_generate, text, text, declarations_append,
        List.map_append, ← List.append_assoc, layOut_append]
    exact happend
  · have hdeclarations : declarations features { o with header } = declarations features o := rfl
    simp only [value_generate, text, headerPart_congr h, hdeclarations]
  · have hheader : Text.trimEnd o.header ++ "\n" ≠ "" := by simp
    rw [value_generate_header, layOut_headerPart h, joined, if_neg hheader]
    split
    · simp
    · rw [String.append_assoc]

/-- Options whose header has blanks at its end. -/
def spaced : EmitOptions := { header := "/* a */ \n\t" }

theorem generate_append_spaced :
    Text.trimEnd "/* a */" = Text.trimEnd spaced.header ∧ Text.trimEnd spaced.header ≠ "" ∧
      (generate [{ name := "Ui.A", kinds := ["element-mixin"] }]
        { spaced with header := "/* a */" }).value =
        "/* a */\n\n/**\n * @record\n */\nfunction Ui_A()\x7b\x7d\n" := by
  have hsame : Text.trimEnd "/* a */" = Text.trimEnd spaced.header := by decide
  have hheader : Text.trimEnd spaced.header ≠ "" := by decide
  have hbare : (generate [{ name := "Ui.A", kinds := ["element-mixin"] }] spaced.headless).value =
      "/**\n * @record\n */\nfunction Ui_A()\x7b\x7d\n" := by decide +kernel
  refine ⟨hsame, hheader, ?_⟩
  rw [(generate_append spaced).2.1 _ _ hsame, (generate_append spaced).2.2.1 _ hheader, hbare]
  decide

end Externs

end MixinExterns
