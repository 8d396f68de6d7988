import Mathlib.Data.List.Basic
import MixinExterns.Proofs.Externs.Layout

/-!
The lines of the externs. No line of a declaration is empty, and an empty line parts one declaration
from the next, so the text can be cut into the lines of each declaration again. From its lines a
declaration is known, as long as its names are identifiers and its types stay on their lines.
-/

namespace MixinExterns

open Script

/-- Lines as a text: each is ended by a line feed. -/
def unlines (lines : List (List Char)) : List Char := lines.flatMap (· ++ ['\n'])

@[simp]
theorem unlines_nil : unlines [] = [] := rfl

@[simp]
theorem unlines_cons (l : List Char) (ls : List (List Char)) :
    unlines (l :: ls) = l ++ '\n' :: unlines ls := by
  simp [unlines]

@[simp]
theorem unlines_append (a b : List (List Char)) : unlines (a ++ b) = unlines a ++ unlines b := by
  simp [unlines]

theorem splitOn_unlines {ls : List (List Char)} (h : ∀ l ∈ ls, '\n' ∉ l) (rest : List Char) :
    (unlines ls ++ rest).splitOn '\n' = ls ++ rest.splitOn '\n' := by
  induction ls with
  | nil => rfl
  | cons l ls ih =>
    have hrest := ih fun l hl => h l (.tail _ hl)
    rw [unlines_cons, List.append_assoc, List.cons_append,
      List.splitOn_append_cons_self_of_not_mem (h l (.head _)), hrest, List.cons_append]

/-- A text is cut into its lines at its line feeds. -/
theorem unlines_injective {a b : List (List Char)} (ha : ∀ l ∈ a, '\n' ∉ l)
    (hb : ∀ l ∈ b, '\n' ∉ l) (h : unlines a = unlines b) : a = b := by
  have heq := splitOn_unlines ha []
  rw [h, splitOn_unlines hb []] at heq
  exact (List.append_cancel_right heq).symm

/-- Blocks of lines that are not empty are found again between the empty lines. -/
theorem intercalate_injective {α : Type} [DecidableEq α] {sep : α} {a b : List (List α)}
    (ha : ∀ block ∈ a, block ≠ [] ∧ sep ∉ block) (hb : ∀ block ∈ b, block ≠ [] ∧ sep ∉ block)
    (h : [sep].intercalate a = [sep].intercalate b) : a = b := by
  have hnil : ∀ blocks : List (List α), (∀ block ∈ blocks, block ≠ [] ∧ sep ∉ block) →
      [sep].intercalate blocks = [] → blocks = [] := by
    intro blocks hblocks hempty
    cases blocks with
    | nil => rfl
    | cons block rest =>
      have hne := (hblocks block (.head _)).1
      cases rest <;> simp_all [List.intercalate, List.intersperse]
  by_cases hempty : a = [] ∨ b = []
  · rcases hempty with rfl | rfl
    · exact (hnil b hb h.symm).symm
    · exact hnil a ha h
  · obtain ⟨hane, hbne⟩ := not_or.mp hempty
    have heq := List.splitOn_intercalate sep (fun l hl => (ha l hl).2) hane
    rw [h, List.splitOn_intercalate sep (fun l hl => (hb l hl).2) hbne] at heq
    exact heq.symm

theorem not_mem_intercalate {α : Type} {c : α} {sep : List α} {blocks : List (List α)}
    (hsep : c ∉ sep) (hblocks : ∀ block ∈ blocks, c ∉ block) : c ∉ sep.intercalate blocks := by
  induction blocks with
  | nil => simp
  | cons block blocks ih =>
    have hrest := ih fun b hb => hblocks b (.tail _ hb)
    have hfirst := hblocks block (.head _)
    cases blocks with
    | nil => simpa using hfirst
    | cons next blocks => simp [List.intercalate_cons_cons, hfirst, hsep, hrest]

namespace Declaration

def commentLines (annotations : List Annotation) : List String :=
  "/**" :: annotations.map (fun a => " * " ++ a.line) ++ [" */"]

/-- The line with the code of a declaration. -/
def code : Declaration → String
  | record name _ _ => "function " ++ name ++ "()\x7b\x7d"
  | property owner name _ => owner ++ ".prototype." ++ name ++ ";"
  | method target name _ params =>
    target ++ "." ++ name ++ " = function(" ++ String.intercalate ", " params ++ ")\x7b\x7d;"

/-- The lines in front of the code. -/
def gloss : Declaration → List String
  | record _ tag parents => commentLines (.record :: parents.map (.link tag))
  | property _ _ type => ["/** @type " ++ braced type ++ " */"]
  | method _ _ annotations _ => if annotations.isEmpty then [] else commentLines annotations

def lines (d : Declaration) : List (List Char) := (d.gloss ++ [d.code]).map (·.toList)

theorem unlines_commentLines (annotations : List Annotation) :
    unlines ((commentLines annotations).map (·.toList)) = (comment annotations ++ "\n").toList := by
  simp [commentLines, comment, unlines, List.flatMap_map]

theorem unlines_lines (d : Declaration) : unlines d.lines = (d.text ++ "\n").toList := by
  cases d with
  | record name tag parents =>
    simp [lines, gloss, unlines_commentLines, code, text]
  | property owner name type => simp [lines, gloss, code, text]
  | method target name annotations params =>
    cases annotations with
    | nil => simp [lines, gloss, code, text]
    | cons a as => simp [lines, gloss, unlines_commentLines, code, text]

theorem toList_text (d : Declaration) :
    d.text.toList = unlines (d.gloss.map (·.toList)) ++ d.code.toList := by
  have hlines := d.unlines_lines
  rw [lines, List.map_append, unlines_append] at hlines
  simpa [← List.append_assoc] using hlines.symm

end Declaration

theorem toList_layOut (declarations : List Declaration) :
    (Externs.layOut (declarations.map (·.text))).toList =
      unlines ([[]].intercalate (declarations.map (·.lines))) := by
  induction declarations with
  | nil => rfl
  | cons d ds ih =>
    have hlines := d.unlines_lines
    cases ds with
    | nil => simpa [Externs.layOut, List.intercalate] using hlines.symm
    | cons e es =>
      have hcons : [[]].intercalate ((d :: e :: es).map (·.lines)) =
          d.lines ++ [] :: [[]].intercalate ((e :: es).map (·.lines)) := by
        simp [List.intercalate]
      rw [List.map_cons, Externs.layOut_cons, ih, hcons, unlines_append, hlines]
      simp [Externs.separator]

/-- A text is cut in two at the first one of its separators. -/
theorem append_cons_inj_of_not_mem {α : Type} {a b a' b' : List α} {sep : α} (ha : sep ∉ a)
    (ha' : sep ∉ a') (h : a ++ sep :: b = a' ++ sep :: b') : a = a' ∧ b = b' := by
  induction a generalizing a' with
  | nil =>
    cases a' with
    | nil => simpa using h
    | cons x a' => exact absurd (List.mem_cons.mpr (.inl (List.cons.inj h).1)) ha'
  | cons x a ih =>
    cases a' with
    | nil => exact absurd (List.mem_cons.mpr (.inl (List.cons.inj h).1.symm)) ha
    | cons y a' =>
      obtain ⟨hfirst, hrest⟩ := List.cons.inj h
      obtain ⟨hbefore, hbehind⟩ := ih (mt (.tail _) ha) (mt (.tail _) ha') hrest
      exact ⟨by rw [hfirst, hbefore], hbehind⟩

/-- A text is cut in two at the last one of its separators. -/
theorem append_cons_inj_of_not_mem_right {α : Type} {a b a' b' : List α} {sep : α} (hb : sep ∉ b)
    (hb' : sep ∉ b') (h : a ++ sep :: b = a' ++ sep :: b') : a = a' ∧ b = b' := by
  have hreverse : b.reverse ++ sep :: a.reverse = b'.reverse ++ sep :: a'.reverse := by
    simpa using congrArg List.reverse h
  obtain ⟨hlast, hfirst⟩ := append_cons_inj_of_not_mem (mt List.mem_reverse.mp hb)
    (mt List.mem_reverse.mp hb') hreverse
  exact ⟨List.reverse_inj.mp hfirst, List.reverse_inj.mp hlast⟩

theorem eq_of_map_eq_map {α β : Type} {f : α → β} {P : α → Prop}
    (hf : ∀ a b, P a → P b → f a = f b → a = b) {as bs : List α} (has : ∀ a ∈ as, P a)
    (hbs : ∀ b ∈ bs, P b) (h : as.map f = bs.map f) : as = bs := by
  induction as generalizing bs with
  | nil => exact (List.map_eq_nil_iff.mp h.symm).symm
  | cons a as ih =>
    cases bs with
    | nil => simp at h
    | cons b bs =>
      obtain ⟨hhead, htail⟩ := List.cons.inj h
      rw [hf a b (has a (.head _)) (hbs b (.head _)) hhead,
        ih (fun x hx => has x (.tail _ hx)) (fun x hx => hbs x (.tail _ hx)) htail]

namespace Annotation

/-- Whether an annotation stays on its line, and a name in it is an identifier. -/
def IsPlain : Annotation → Prop
  | record | overriding => True
  | link _ parent => '\n' ∉ parent.toList
  | param type name => '\n' ∉ type.toList ∧ isIdentifierName name = true
  | result type => '\n' ∉ type.toList

theorem newline_not_mem_line {a : Annotation} (ha : a.IsPlain) : '\n' ∉ a.line.toList := by
  cases a with
  | record | overriding => decide
  | link tag parent =>
    have hparent : '\n' ∉ parent.toList := ha
    cases tag <;> simp [line, braced, InheritanceTag.word, hparent]
  | param type name =>
    have hname := not_mem_of_identifierName ha.2 (c := '\n') (by decide)
    simpa [line, braced, hname] using ha.1
  | result type =>
    have htype : '\n' ∉ type.toList := ha
    simp [line, braced, htype]

/-- The beginning of a line, which tells the annotations apart. -/
def mark : Annotation → List Char
  | record => ['@', 'r', 'e', 'c']
  | link .extending _ => ['@', 'e', 'x', 't']
  | link .implementing _ => ['@', 'i', 'm', 'p']
  | param _ _ => ['@', 'p', 'a', 'r']
  | result _ => ['@', 'r', 'e', 't']
  | overriding => ['@', 'o', 'v', 'e']

theorem take_line (a : Annotation) : a.line.toList.take 4 = a.mark := by
  cases a with
  | link tag parent => cases tag <;> simp [line, mark, InheritanceTag.word]
  | _ => simp [line, mark]

theorem line_injective {a b : Annotation} (ha : a.IsPlain) (hb : b.IsPlain)
    (h : a.line = b.line) : a = b := by
  have hmark : a.mark = b.mark := by rw [← take_line, h, take_line]
  have hchars := congrArg String.toList h
  rcases a with _ | ⟨_ | _, parent⟩ | ⟨type, name⟩ | type | _ <;>
    rcases b with _ | ⟨_ | _, parent'⟩ | ⟨type', name'⟩ | type' | _ <;> simp [mark] at hmark
  case record.record => rfl
  case overriding.overriding => rfl
  case param.param =>
    have hcut : "@param \x7b".toList ++ type.toList ++ ['\x7d'] ++ ' ' :: name.toList =
        "@param \x7b".toList ++ type'.toList ++ ['\x7d'] ++ ' ' :: name'.toList := by
      simpa [line, braced] using hchars
    obtain ⟨htype, hname⟩ := append_cons_inj_of_not_mem_right
      (not_mem_of_identifierName ha.2 (c := ' ') (by decide))
      (not_mem_of_identifierName hb.2 (by decide)) hcut
    rw [List.append_left_inj, List.append_right_inj] at htype
    rw [String.toList_injective htype, String.toList_injective hname]
  case result.result =>
    exact congrArg result (String.toList_injective (by simpa [line, braced] using hchars))
  all_goals
    exact congrArg (link _) (String.toList_injective (by simpa [line, braced] using hchars))

end Annotation

namespace Declaration

/-- Names as they stand between the commas of a list of parameters. -/
def listed : List String → List (List Char)
  | [] => []
  | name :: names => name.toList :: names.map fun n => ' ' :: n.toList

theorem mem_listed {names : List String} {l : List Char} (h : l ∈ listed names) :
    ∃ n ∈ names, l = n.toList ∨ l = ' ' :: n.toList := by
  cases names with
  | nil => cases h
  | cons name names =>
    rcases List.mem_cons.mp h with rfl | h
    · exact ⟨name, .head _, .inl rfl⟩
    · obtain ⟨n, hn, rfl⟩ := List.mem_map.mp h
      exact ⟨n, .tail _ hn, .inr rfl⟩

theorem toList_intercalate_listed (names : List String) :
    (String.intercalate ", " names).toList = [','].intercalate (listed names) := by
  -- The blank behind a comma belongs to the name that follows.
  have hshift (first : List Char) (rest : List (List Char)) :
      [','].intercalate ((' ' :: first) :: rest) = ' ' :: [','].intercalate (first :: rest) := by
    cases rest <;> simp [List.intercalate]
  have hbehind (names : List (List Char)) : ∀ first, [',', ' '].intercalate (first :: names) =
      [','].intercalate (first :: names.map (' ' :: ·)) := by
    induction names with
    | nil => exact fun _ => rfl
    | cons name names ih =>
      intro first
      rw [List.map_cons, List.intercalate_cons_cons, List.intercalate_cons_cons, hshift, ih]
      simp
  cases names with
  | nil => rfl
  | cons name names =>
    simpa [listed, Function.comp_def] using hbehind (names.map (·.toList)) name.toList

theorem intercalate_names_injective {names names' : List String}
    (h : ∀ n ∈ names, isIdentifierName n = true) (h' : ∀ n ∈ names', isIdentifierName n = true)
    (heq : String.intercalate ", " names = String.intercalate ", " names') : names = names' := by
  have hlisted : ∀ names : List String, (∀ n ∈ names, isIdentifierName n = true) →
      ∀ block ∈ listed names, block ≠ [] ∧ ',' ∉ block := by
    intro names hnames block hblock
    obtain ⟨n, hn, hblock⟩ := mem_listed hblock
    have hname := hnames n hn
    have hcomma := not_mem_of_identifierName hname (c := ',') (by decide)
    rcases hblock with rfl | rfl
    · exact ⟨by simpa using ne_empty_of_identifierName hname, hcomma⟩
    · exact ⟨by simp, by simpa using hcomma⟩
  have hblocks : listed names = listed names' := by
    apply intercalate_injective (hlisted names h) (hlisted names' h')
    rw [← toList_intercalate_listed, ← toList_intercalate_listed, heq]
  cases names with
  | nil => cases names' <;> simp_all [listed]
  | cons name names =>
    cases names' with
    | nil => simp [listed] at hblocks
    | cons name' names' =>
      obtain ⟨hname, hnames⟩ := List.cons.inj hblocks
      rw [String.toList_injective hname, eq_of_map_eq_map (P := fun _ => True)
        (fun a b _ _ hab => String.toList_injective (List.cons.inj hab).2) (fun _ _ => trivial)
        (fun _ _ => trivial) hnames]

/-- Whether the names in a declaration are identifiers, apart from the dots in the target of a
method, and nothing else in it leaves its line. A record is linked by the given tag. -/
def IsPlain (tag : InheritanceTag) : Declaration → Prop
  | record name tag' parents =>
    isIdentifierName name = true ∧ tag' = tag ∧ ∀ p ∈ parents, '\n' ∉ p.toList
  | property owner name type =>
    isIdentifierName owner = true ∧ isIdentifierName name = true ∧ '\n' ∉ type.toList
  | method target name annotations params =>
    (∀ c ∈ target.toList, isNamePart c = true ∨ c = '.') ∧ isIdentifierName name = true ∧
      (∀ a ∈ annotations, a.IsPlain) ∧ ∀ p ∈ params, isIdentifierName p = true

theorem mem_code {tag : InheritanceTag} {d : Declaration} (hd : d.IsPlain tag) :
    (' ' ∈ d.code.toList ↔ ∀ owner name type, d ≠ property owner name type) ∧
      ('.' ∈ d.code.toList ↔ ∀ name tag parents, d ≠ record name tag parents) := by
  cases d with
  | record name tag' parents =>
    have hdot := not_mem_of_identifierName hd.1 (c := '.') (by decide)
    simp [code, hdot]
  | property owner name type =>
    have howner := not_mem_of_identifierName hd.1 (c := ' ') (by decide)
    have hname := not_mem_of_identifierName hd.2.1 (c := ' ') (by decide)
    simp [code, howner, hname]
  | method target name annotations params => simp [code]

/-- The annotations of a comment are known from its lines. -/
theorem commentLines_injective {as bs : List Annotation} (has : ∀ a ∈ as, a.IsPlain)
    (hbs : ∀ b ∈ bs, b.IsPlain) (h : commentLines as = commentLines bs) : as = bs := by
  have hlines : as.map (fun a => " * " ++ a.line) = bs.map fun b => " * " ++ b.line := by
    simpa [commentLines] using h
  refine eq_of_map_eq_map (fun a b ha hb hab => ?_) has hbs hlines
  exact Annotation.line_injective ha hb ((String.append_right_inj _).mp hab)

/-- A method without annotations has no comment, and every comment has lines. -/
theorem gloss_method_injective {target name target' name' : String} {params params' : List String}
    {as bs : List Annotation} (has : ∀ a ∈ as, a.IsPlain) (hbs : ∀ b ∈ bs, b.IsPlain)
    (h : (method target name as params).gloss = (method target' name' bs params').gloss) :
    as = bs := by
  simp only [gloss, List.isEmpty_iff] at h
  split at h
  · next hempty =>
    split at h
    · next hempty' => rw [hempty, hempty']
    · simp [commentLines] at h
  · split at h
    · simp [commentLines] at h
    · exact commentLines_injective has hbs h

theorem space_not_mem_path {target name : String}
    (htarget : ∀ c ∈ target.toList, isNamePart c = true ∨ c = '.')
    (hname : isIdentifierName name = true) : ' ' ∉ target.toList ++ '.' :: name.toList := by
  simp only [List.mem_append, List.mem_cons, not_or]
  refine ⟨fun hmem => ?_, by decide, not_mem_of_identifierName hname (by decide)⟩
  exact absurd (htarget _ hmem) (by decide)

theorem isPlain_links {tag : InheritanceTag} {parents : List String}
    (h : ∀ p ∈ parents, '\n' ∉ p.toList) :
    ∀ a ∈ Annotation.record :: parents.map (.link tag), a.IsPlain := by
  intro a ha
  rcases List.mem_cons.mp ha with rfl | ha
  · trivial
  · obtain ⟨p, hp, rfl⟩ := List.mem_map.mp ha
    exact h p hp

theorem record_injective {tag : InheritanceTag} {name name' : String}
    {parents parents' : List String}
    (hd : (record name tag parents).IsPlain tag) (he : (record name' tag parents').IsPlain tag)
    (hgloss : (record name tag parents).gloss = (record name' tag parents').gloss)
    (hcode : (record name tag parents).code = (record name' tag parents').code) :
    record name tag parents = record name' tag parents' := by
  have hname : name = name' := by
    rwa [code, code, String.append_left_inj, String.append_right_inj] at hcode
  have hlinks := commentLines_injective (isPlain_links hd.2.2) (isPlain_links he.2.2) hgloss
  rw [hname, List.map_injective_iff.mpr (fun _ _ h => ( Annotation.link.inj h).2)
    (List.cons.inj hlinks).2]

theorem property_injective {tag : InheritanceTag} {owner name type owner' name' type' : String}
    (hd : (property owner name type).IsPlain tag) (he : (property owner' name' type').IsPlain tag)
    (hgloss : (property owner name type).gloss = (property owner' name' type').gloss)
    (hcode : (property owner name type).code = (property owner' name' type').code) :
    property owner name type = property owner' name' type' := by
  have hchars : owner.toList ++ '.' :: ("prototype.".toList ++ name.toList ++ [';']) =
      owner'.toList ++ '.' :: ("prototype.".toList ++ name'.toList ++ [';']) := by
    simpa [code] using congrArg String.toList hcode
  obtain ⟨howner, hbehind⟩ := append_cons_inj_of_not_mem
    (not_mem_of_identifierName hd.1 (by decide)) (not_mem_of_identifierName he.1 (by decide))
    hchars
  rw [List.append_left_inj, List.append_right_inj, String.toList_inj] at hbehind
  have htype : type = type' := by simpa [gloss, braced] using hgloss
  rw [String.toList_inj.mp howner, hbehind, htype]

theorem method_injective {tag : InheritanceTag} {target name target' name' : String}
    {as bs : List Annotation} {params params' : List String}
    (hd : (method target name as params).IsPlain tag)
    (he : (method target' name' bs params').IsPlain tag)
    (hgloss : (method target name as params).gloss = (method target' name' bs params').gloss)
    (hcode : (method target name as params).code = (method target' name' bs params').code) :
    method target name as params = method target' name' bs params' := by
  have hchars : (target.toList ++ '.' :: name.toList) ++ ' ' :: ("= function(".toList ++
        (String.intercalate ", " params).toList ++ ")\x7b\x7d;".toList) =
      (target'.toList ++ '.' :: name'.toList) ++ ' ' :: ("= function(".toList ++
        (String.intercalate ", " params').toList ++ ")\x7b\x7d;".toList) := by
    simpa [code] using congrArg String.toList hcode
  obtain ⟨hpath, hbehind⟩ := append_cons_inj_of_not_mem (space_not_mem_path hd.1 hd.2.1)
    (space_not_mem_path he.1 he.2.1) hchars
  obtain ⟨htarget, hname⟩ := append_cons_inj_of_not_mem_right
    (not_mem_of_identifierName hd.2.1 (by decide))
    (not_mem_of_identifierName he.2.1 (by decide)) hpath
  rw [List.append_left_inj, List.append_right_inj, String.toList_inj] at hbehind
  rw [String.toList_inj.mp htarget, String.toList_inj.mp hname,
    intercalate_names_injective hd.2.2.2 he.2.2.2 hbehind,
    gloss_method_injective hd.2.2.1 he.2.2.1 hgloss]

/-- A declaration is known from its comment and its code. -/
theorem gloss_code_injective {tag : InheritanceTag} {d e : Declaration} (hd : d.IsPlain tag)
    (he : e.IsPlain tag) (hgloss : d.gloss = e.gloss) (hcode : d.code = e.code) : d = e := by
  -- The line of code tells the kinds apart, by its blanks and its dots.
  obtain ⟨hspace, hdot⟩ := mem_code hd
  rw [hcode] at hspace hdot
  have hproperty := hspace.symm.trans (mem_code he).1
  have hrecord := hdot.symm.trans (mem_code he).2
  cases d with
  | record =>
    cases e with
    | record =>
      obtain rfl := hd.2.1
      obtain rfl := he.2.1
      exact record_injective hd he hgloss hcode
    | property | method => simp at hproperty hrecord
  | property =>
    cases e with
    | property => exact property_injective hd he hgloss hcode
    | record | method => simp at hproperty hrecord
  | method =>
    cases e with
    | method => exact method_injective hd he hgloss hcode
    | record | property => simp at hproperty hrecord

theorem lines_injective {tag : InheritanceTag} {d e : Declaration} (hd : d.IsPlain tag)
    (he : e.IsPlain tag) (h : d.lines = e.lines) : d = e := by
  have hlines : d.gloss ++ [d.code] = e.gloss ++ [e.code] :=
    List.map_injective_iff.mpr (fun _ _ => String.toList_injective) h
  obtain ⟨hgloss, hcode⟩ := List.append_inj' hlines rfl
  exact gloss_code_injective hd he hgloss (List.cons.inj hcode).1

theorem mem_commentLines {as : List Annotation} (has : ∀ a ∈ as, '\n' ∉ a.line.toList)
    {s : String} (hs : s ∈ commentLines as) : s.toList ≠ [] ∧ '\n' ∉ s.toList := by
  simp only [commentLines, List.cons_append, List.mem_cons, List.mem_append, List.mem_map,
    List.not_mem_nil, or_false] at hs
  rcases hs with rfl | ⟨a, ha, rfl⟩ | rfl
  · decide
  · simpa using has a ha
  · decide

theorem mem_gloss {tag : InheritanceTag} {d : Declaration} (hd : d.IsPlain tag) {s : String}
    (hs : s ∈ d.gloss) : s.toList ≠ [] ∧ '\n' ∉ s.toList := by
  cases d with
  | record =>
    refine mem_commentLines (fun a ha => ?_) hs
    exact Annotation.newline_not_mem_line (isPlain_links hd.2.2 a ha)
  | property =>
    obtain rfl := List.mem_singleton.mp hs
    simpa [braced] using hd.2.2
  | method =>
    simp only [gloss] at hs
    split at hs
    · simp at hs
    · exact mem_commentLines (fun a ha => Annotation.newline_not_mem_line (hd.2.2.1 a ha)) hs

theorem code_ne_nil_and_newline_not_mem {tag : InheritanceTag} {d : Declaration}
    (hd : d.IsPlain tag) : d.code.toList ≠ [] ∧ '\n' ∉ d.code.toList := by
  have hname (name : String) (h : isIdentifierName name = true) : '\n' ∉ name.toList :=
    not_mem_of_identifierName h (by decide)
  cases d with
  | record name tag' parents => simpa [code] using hname name hd.1
  | property owner name type => simp [code, hname owner hd.1, hname name hd.2.1]
  | method target name annotations params =>
    have htarget : '\n' ∉ target.toList := fun hmem => absurd (hd.1 _ hmem) (by decide)
    have hparams : '\n' ∉ [',', ' '].intercalate (params.map (·.toList)) := by
      refine not_mem_intercalate (by decide) fun l hl => ?_
      obtain ⟨p, hp, rfl⟩ := List.mem_map.mp hl
      exact hname p (hd.2.2.2 p hp)
    simp [code, htarget, hname name hd.2.1, hparams]

theorem mem_lines {tag : InheritanceTag} {d : Declaration} (hd : d.IsPlain tag) {l : List Char}
    (hl : l ∈ d.lines) : l ≠ [] ∧ '\n' ∉ l := by
  obtain ⟨s, hs, rfl⟩ := List.mem_map.mp hl
  rcases List.mem_append.mp hs with hs | hs
  · exact mem_gloss hd hs
  · obtain rfl := List.mem_singleton.mp hs
    exact code_ne_nil_and_newline_not_mem hd

end Declaration

namespace Externs

/-- Plain declarations are known from the text in which they are laid out. -/
theorem layOut_injective {tag : InheritanceTag} {ds es : List Declaration}
    (hds : ∀ d ∈ ds, d.IsPlain tag) (hes : ∀ e ∈ es, e.IsPlain tag)
    (h : layOut (ds.map (·.text)) = layOut (es.map (·.text))) : ds = es := by
  have hblocks : ∀ ds : List Declaration, (∀ d ∈ ds, d.IsPlain tag) →
      ∀ block ∈ ds.map (·.lines), block ≠ [] ∧ [] ∉ block := by
    intro ds hds block hblock
    obtain ⟨d, hd, rfl⟩ := List.mem_map.mp hblock
    exact ⟨by simp [Declaration.lines], fun hl => (Declaration.mem_lines (hds d hd) hl).1 rfl⟩
  have hlines : ∀ ds : List Declaration, (∀ d ∈ ds, d.IsPlain tag) →
      ∀ l ∈ [[]].intercalate (ds.map (·.lines)), '\n' ∉ l := by
    intro ds hds l hl hmem
    refine not_mem_intercalate (fun hempty => ?_) (fun block hblock hin => ?_) hl
    · simp_all
    · obtain ⟨d, hd, rfl⟩ := List.mem_map.mp hblock
      exact (Declaration.mem_lines (hds d hd) hin).2 hmem
  have htext : unlines ([[]].intercalate (ds.map (·.lines))) =
      unlines ([[]].intercalate (es.map (·.lines))) := by
    rw [← toList_layOut, h, toList_layOut]
  have hcut : ds.map (·.lines) = es.map (·.lines) :=
    intercalate_injective (hblocks ds hds) (hblocks es hes)
      (unlines_injective (hlines ds hds) (hlines es hes) htext)
  exact eq_of_map_eq_map (fun _ _ => Declaration.lines_injective) hds hes hcut

/-- A part in front of others does not hide them. -/
theorem layOut_cons_injective {part : String} {parts parts' : List String}
    (h : layOut (part :: parts) = layOut (part :: parts')) : layOut parts = layOut parts' := by
  have hchars := congrArg String.toList h
  rw [layOut_cons, layOut_cons, List.append_right_inj] at hchars
  have hnil : (layOut []).toList = [] := rfl
  apply String.toList_injective
  cases parts with
  | nil => cases parts' <;> simp_all [separator]
  | cons p ps => cases parts' <;> simp_all [separator]

/-- Below the same header plain declarations are known from the text. -/
theorem text_injective {options : EmitOptions} {features features' : List Feature}
    (h : ∀ d ∈ declarations features options, d.IsPlain options.inheritance)
    (h' : ∀ d ∈ declarations features' options, d.IsPlain options.inheritance)
    (htext : text features options = text features' options) :
    declarations features options = declarations features' options := by
  apply layOut_injective h h'
  unfold text headerPart at htext
  dsimp only at htext
  split at htext
  · exact htext
  · exact layOut_cons_injective htext

end Externs

end MixinExterns
