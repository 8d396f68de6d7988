import Mathlib.Data.List.DropRight
import MixinExterns.Proofs.Externs.Lines

/-!
The text of a method, read again. Its last lines are the code, with the list of parameters; the
lines in front of them are the comment, with the annotations. A type may hold blanks, braces and the
text of other annotations, and is read back all the same. What is read in comment and code agrees.
-/

namespace MixinExterns

namespace Block

def lines (text : String) : List (List Char) := text.toList.splitOn '\n'

/-- The lines of the comment. Behind them is the code, which begins with the target and goes on for
the rest of its last line. -/
def commentLines (target text : String) : List (List Char) :=
  (lines text).rdrop (lines target).length

/-- The annotations in the comment, without what stands in front of them on each line. -/
def annotations (target text : String) : List (List Char) :=
  ((commentLines target text).filter (" * @".toList.isPrefixOf ·)).map (·.drop 3)

/-- The first word of an annotation. -/
def tag (line : List Char) : List Char := line.takeWhile (· ≠ ' ')

def tagged (target text word : String) : List (List Char) :=
  (annotations target text).filter (tag · = word.toList)

/-- The last word of an annotation. -/
def lastWord (line : List Char) : List Char := line.rtakeWhile (· ≠ ' ')

/-- What stands between the first brace and the one at the end. -/
def inBraces (text : List Char) : List Char :=
  ((text.dropWhile (· ≠ '\x7b')).drop 1).dropLast

/-- The type in the annotation of a parameter. Behind it is a blank and the last word. -/
def paramType (line : List Char) : List Char :=
  inBraces (line.rdropWhile (· ≠ ' ')).dropLast

/-- What stands between the last opening parenthesis and the end of the code, which is always the
same. -/
def paramList (text : String) : List Char :=
  (text.toList.rtakeWhile (· ≠ '(')).rdrop ")\x7b\x7d;".length

/-- The parameters of the code, if there are any. -/
def params (text : String) : List (List Char) :=
  ((paramList text).splitOn ',').map (·.dropWhile (· = ' '))

end Block

namespace Method

/-- Whether the method's comment has a tag with a title. -/
def IsTagged (m : Method) (title : String) : Prop :=
  ∃ doc, m.doc = some doc ∧ title ∈ doc.tags

/-- Whether the parameters are left to the method that is overridden. -/
def LeavesParams (m : Method) (options : EmitOptions) : Prop :=
  m.IsTagged "override" ∧ options.suppressOverrideParams = true ∧ ¬ m.IsTagged "param"

/-- Whether the result is annotated: with its declared type or, unless it is left to the method that
is overridden, as one that is not declared. -/
def ShowsResult (m : Method) (options : EmitOptions) : Prop :=
  (∃ type, m.returnType = some type) ∨
    options.undefinedReturn = true ∧ ¬ m.IsTagged "override"

end Method

/-- Whether an annotation is that of a parameter. -/
structure Param.IsAnnotatedBy (p : Param) (line : List Char) : Prop where
  name : Block.lastWord line = p.bareName.toList
  declared : ∀ type, p.type = some type → Block.paramType line = type.toList
  wildcard : p.type = none →
    Block.paramType line = "*".toList ∨ Block.paramType line = "...*".toList
  rest : p.type = none →
    (Block.paramType line = "...*".toList ↔ "...".toList <+: p.name.toList)

/-- Whether a text of a method shows what the options want it to show. -/
structure Method.IsShownBy (m : Method) (options : EmitOptions) (target text : String) : Prop where
  /-- The code lists all parameters. -/
  listed : m.params ≠ [] → Block.params text = m.params.map (·.bareName.toList)
  listed_nothing : m.params = [] → Block.paramList text = []
  /-- The parameters are annotated one by one as the code lists them, or not at all. -/
  annotated :
    List.Forall₂ Param.IsAnnotatedBy m.params (Block.tagged target text "@param") ∧
        (m.params ≠ [] →
          (Block.tagged target text "@param").map Block.lastWord = Block.params text) ∨
      m.params ≠ [] ∧ Block.tagged target text "@param" = []
  left : m.params ≠ [] →
    (Block.tagged target text "@param" = [] ↔ m.LeavesParams options)
  result : m.ShowsResult options → ∃ line,
    Block.tagged target text "@return" = [line] ∧
      Block.inBraces line = (m.returnType.getD "undefined").toList
  no_result : ¬ m.ShowsResult options → Block.tagged target text "@return" = []
  overriding : m.IsTagged "override" →
    Block.tagged target text "@override" = ["@override".toList]
  not_overriding : ¬ m.IsTagged "override" → Block.tagged target text "@override" = []
  order : Block.annotations target text =
    Block.tagged target text "@param" ++ Block.tagged target text "@return" ++
      Block.tagged target text "@override"
  /-- A comment holds annotations, and there is none without them. -/
  comment : Block.annotations target text ≠ [] →
    Block.commentLines target text =
      ["/**".toList] ++ (Block.annotations target text).map (" * ".toList ++ ·) ++ [" */".toList]
  no_comment : Block.annotations target text = [] → Block.commentLines target text = []

/-- What goes on for the rest of a line adds no line. -/
theorem length_splitOn_append {α : Type} [DecidableEq α] {sep : α} {b : List α} (hb : sep ∉ b)
    (a : List α) : ((a ++ b).splitOn sep).length = (a.splitOn sep).length := by
  induction a with
  | nil => simp [List.splitOn_eq_singleton hb]
  | cons x a ih =>
    rw [List.cons_append, List.splitOn_cons_eq_if_modifyHead, List.splitOn_cons_eq_if_modifyHead]
    split <;> simp [ih]

theorem rdrop_append {α : Type} (a b : List α) : (a ++ b).rdrop b.length = a := by
  simp [List.rdrop]

theorem rtakeWhile_append_cons {α : Type} [DecidableEq α] {sep : α} {b : List α} (hb : sep ∉ b)
    (a : List α) : (a ++ sep :: b).rtakeWhile (· ≠ sep) = b := by
  have hreverse : (a ++ sep :: b).reverse = b.reverse ++ sep :: a.reverse := by simp
  have hall : ∀ x ∈ b.reverse, decide (x ≠ sep) = true := by grind
  rw [List.rtakeWhile, hreverse, List.takeWhile_append_of_pos hall]
  simp

theorem rdropWhile_append_cons {α : Type} [DecidableEq α] {sep : α} {b : List α} (hb : sep ∉ b)
    (a : List α) : (a ++ sep :: b).rdropWhile (· ≠ sep) = a ++ [sep] := by
  have hreverse : (a ++ sep :: b).reverse = b.reverse ++ sep :: a.reverse := by simp
  have hall : ∀ x ∈ b.reverse, decide (x ≠ sep) = true := by grind
  rw [List.rdropWhile, hreverse, List.dropWhile_append_of_pos hall]
  simp

namespace Annotation

theorem tag_param (type name : String) :
    Block.tag (param type name).line.toList = "@param".toList := by
  simp [Block.tag, line, braced]

theorem tag_result (type : String) : Block.tag (result type).line.toList = "@return".toList := by
  simp [Block.tag, line, braced]

theorem tag_overriding : Block.tag overriding.line.toList = "@override".toList := by
  decide

theorem toList_line_param (type name : String) :
    (param type name).line.toList =
      "@param ".toList ++ (braced type).toList ++ ' ' :: name.toList := by
  simp [line, braced]

theorem lastWord_param {name : String} (h : ' ' ∉ name.toList) (type : String) :
    Block.lastWord (param type name).line.toList = name.toList := by
  rw [Block.lastWord, toList_line_param, rtakeWhile_append_cons h]

theorem inBraces_braced (type : String) {before : List Char} (h : '\x7b' ∉ before) :
    Block.inBraces (before ++ (braced type).toList) = type.toList := by
  have hall : ∀ c ∈ before, decide (c ≠ '\x7b') = true := by grind
  rw [Block.inBraces, List.dropWhile_append_of_pos hall]
  simp [braced]

theorem paramType_param {name : String} (h : ' ' ∉ name.toList) (type : String) :
    Block.paramType (param type name).line.toList = type.toList := by
  rw [Block.paramType, toList_line_param, rdropWhile_append_cons h, List.dropLast_concat,
    inBraces_braced _ (by decide)]

theorem inBraces_result (type : String) :
    Block.inBraces (result type).line.toList = type.toList := by
  have hchars : (result type).line.toList = "@return ".toList ++ (braced type).toList := by
    simp [line]
  rw [hchars, inBraces_braced _ (by decide)]

/-- An annotation is found again on its line. -/
theorem drop_line (a : Annotation) :
    " * @".toList.isPrefixOf (" * " ++ a.line).toList = true ∧
      (" * " ++ a.line).toList.drop 3 = a.line.toList := by
  refine ⟨?_, by simp⟩
  cases a <;> simp [line]

/-- Annotations that begin with the same word are all found by it, and by no other. -/
theorem filter_tag {as : List Annotation} {word : List Char}
    (h : ∀ a ∈ as, Block.tag a.line.toList = word) (word' : List Char) :
    (as.map (·.line.toList)).filter (Block.tag · = word') =
      if word = word' then as.map (·.line.toList) else [] := by
  split
  · next heq =>
    refine List.filter_eq_self.mpr fun l hl => ?_
    obtain ⟨a, ha, rfl⟩ := List.mem_map.mp hl
    simp [h a ha, heq]
  · next hne =>
    refine List.filter_eq_nil_iff.mpr fun l hl => ?_
    obtain ⟨a, ha, rfl⟩ := List.mem_map.mp hl
    simp [h a ha, hne]

end Annotation

namespace Declaration

/-- The lines between the first and the last one of a comment are found again. -/
theorem filter_commentLines (as : List Annotation) :
    ((commentLines as).map (·.toList)).filter (" * @".toList.isPrefixOf ·) =
      as.map fun a => (" * " ++ a.line).toList := by
  have hfirst : " * @".toList.isPrefixOf "/**".toList = false := by decide
  have hlast : " * @".toList.isPrefixOf " */".toList = false := by decide
  have hall : (as.map fun a => (" * " ++ a.line).toList).filter (" * @".toList.isPrefixOf ·) =
      as.map fun a => (" * " ++ a.line).toList := by
    refine List.filter_eq_self.mpr fun l hl => ?_
    obtain ⟨a, -, rfl⟩ := List.mem_map.mp hl
    exact a.drop_line.1
  simp only [commentLines, List.map_append, List.map_cons, List.map_nil, List.map_map,
    List.filter_append, List.filter_cons, List.filter_nil, hfirst, hlast, Function.comp_def]
  simpa using hall

/-- Without the blanks in front of them the names are as they were. -/
theorem map_dropWhile_listed {names : List String} (h : ∀ n ∈ names, ' ' ∉ n.toList) :
    (listed names).map (·.dropWhile (· = ' ')) = names.map (·.toList) := by
  have hblank (s : List Char) (hs : ' ' ∉ s) : s.dropWhile (· = ' ') = s := by
    cases s with
    | nil => rfl
    | cons c s =>
      have hc : c ≠ ' ' := fun hc => hs (hc ▸ .head _)
      simp [hc]
  cases names with
  | nil => rfl
  | cons name names =>
    have hnames : ∀ n ∈ names, (' ' :: n.toList).dropWhile (· = ' ') = n.toList := by
      intro n hn
      rw [List.dropWhile_cons_of_pos (by decide), hblank _ (h n (.tail _ hn))]
    rw [listed, List.map_cons, hblank _ (h name (.head _)), List.map_cons, List.map_map]
    exact congrArg _ (List.map_congr_left hnames)

end Declaration

namespace Method

/-- Whether names and types stay on their lines, and the names of parameters in the list of the
code. -/
structure IsSeparable (m : Method) : Prop where
  name : '\n' ∉ m.name.toList
  params : ∀ p ∈ m.params, ∀ c ∈ ['\n', ' ', ',', '('], c ∉ p.name.toList
  paramTypes : ∀ p ∈ m.params, ∀ type, p.type = some type → '\n' ∉ type.toList
  result : ∀ type, m.returnType = some type → '\n' ∉ type.toList

variable {m : Method} {options : EmitOptions} {target : String}

theorem IsSeparable.not_mem_bareName (h : m.IsSeparable) {p : Param} (hp : p ∈ m.params) {c : Char}
    (hc : c ∈ ['\n', ' ', ',', '(']) : c ∉ p.bareName.toList := by
  have hname := h.params p hp c hc
  unfold Param.bareName
  split
  · rw [String.toList_ofList]
    exact fun hmem => hname (List.mem_of_mem_drop hmem)
  · exact hname

theorem IsSeparable.newline_not_mem_annotatedType (h : m.IsSeparable) {p : Param}
    (hp : p ∈ m.params) : '\n' ∉ p.annotatedType.toList := by
  unfold Param.annotatedType
  cases htype : p.type with
  | some type => exact h.paramTypes p hp type htype
  | none => cases p.isRest <;> decide

theorem IsSeparable.newline_not_mem_annotatedResult (h : m.IsSeparable) {type : String}
    (htype : m.annotatedResult options = some type) : '\n' ∉ type.toList := by
  unfold annotatedResult at htype
  cases hm : m.returnType with
  | some declared =>
    rw [hm] at htype
    cases htype
    exact h.result type hm
  | none =>
    rw [hm] at htype
    dsimp only at htype
    split at htype
    · cases htype
      decide
    · cases htype

theorem IsSeparable.newline_not_mem_line (h : m.IsSeparable) {a : Annotation}
    (ha : a ∈ m.annotations options) : '\n' ∉ a.line.toList := by
  simp only [annotations, List.mem_append] at ha
  rcases ha with (ha | ha) | ha
  · split at ha
    · cases ha
    · obtain ⟨p, hp, rfl⟩ := List.mem_map.mp ha
      have hname := h.not_mem_bareName hp (c := '\n') (by decide)
      simp [braced, Annotation.line, hname, h.newline_not_mem_annotatedType hp]
  · obtain ⟨type, htype, rfl⟩ := List.mem_map.mp ha
    have hresult := h.newline_not_mem_annotatedResult (Option.mem_toList.mp htype)
    simp [braced, Annotation.line, hresult]
  · split at ha
    · obtain rfl := List.mem_singleton.mp ha
      decide
    · cases ha

theorem IsSeparable.not_mem_list (h : m.IsSeparable) {c : Char} (hc : c ∈ ['\n', '(']) :
    c ∉ (String.intercalate ", " m.paramNames).toList := by
  have hsep : c ∉ ", ".toList := by
    fin_cases hc <;> decide
  rw [String.toList_intercalate]
  refine not_mem_intercalate hsep fun l hl => ?_
  simp only [paramNames, List.map_map, List.mem_map] at hl
  obtain ⟨p, hp, rfl⟩ := hl
  exact h.not_mem_bareName hp (by grind)

/-- The comment is read line by line. -/
theorem commentLines_text (h : m.IsSeparable) :
    Block.commentLines target (m.declaration options target).text =
      (m.declaration options target).gloss.map (·.toList) := by
  have hgloss : ∀ l ∈ (m.declaration options target).gloss.map (·.toList), '\n' ∉ l := by
    intro l hl
    obtain ⟨s, hs, rfl⟩ := List.mem_map.mp hl
    simp only [declaration, Declaration.gloss] at hs
    split at hs
    · cases hs
    · exact (Declaration.mem_commentLines (fun a ha => h.newline_not_mem_line ha) hs).2
  have hbehind : '\n' ∉ ".".toList ++ m.name.toList ++ " = function(".toList ++
      (String.intercalate ", " m.paramNames).toList ++ ")\x7b\x7d;".toList := by
    have hlist := h.not_mem_list (c := '\n') (by decide)
    simp only [List.mem_append, not_or]
    exact ⟨⟨⟨⟨by decide, h.name⟩, by decide⟩, hlist⟩, by decide⟩
  have hcode : (m.declaration options target).code.toList = target.toList ++
      (".".toList ++ m.name.toList ++ " = function(".toList ++
        (String.intercalate ", " m.paramNames).toList ++ ")\x7b\x7d;".toList) := by
    simp only [declaration, Declaration.code, String.toList_append, List.append_assoc, paramNames]
  have hlength := length_splitOn_append hbehind target.toList
  rw [Block.commentLines, Block.lines, Block.lines, Declaration.toList_text,
    splitOn_unlines hgloss, hcode, ← hlength, rdrop_append]

/-- The annotations are read one by one. -/
theorem annotations_text (h : m.IsSeparable) :
    Block.annotations target (m.declaration options target).text =
      (m.annotations options).map (·.line.toList) := by
  rw [Block.annotations, commentLines_text h]
  simp only [declaration, Declaration.gloss]
  split
  · next hempty => simp [List.isEmpty_iff.mp hempty]
  · rw [Declaration.filter_commentLines, List.map_map]
    exact List.map_congr_left fun a _ => a.drop_line.2

/-- The list of parameters in the code is read as a whole. -/
theorem paramList_text (h : m.IsSeparable) :
    Block.paramList (m.declaration options target).text =
      (String.intercalate ", " m.paramNames).toList := by
  have hbehind : '(' ∉ (String.intercalate ", " m.paramNames).toList ++ ")\x7b\x7d;".toList := by
    have hlist := h.not_mem_list (c := '(') (by decide)
    simp only [List.mem_append, not_or]
    exact ⟨hlist, by decide⟩
  have hcode : (m.declaration options target).code.toList =
      (target ++ "." ++ m.name ++ " = function").toList ++
        '(' :: ((String.intercalate ", " m.paramNames).toList ++ ")\x7b\x7d;".toList) := by
    simp [declaration, Declaration.code, paramNames]
  rw [Block.paramList, Declaration.toList_text, hcode, ← List.append_assoc,
    rtakeWhile_append_cons hbehind]
  exact rdrop_append _ ")\x7b\x7d;".toList

theorem params_text (h : m.IsSeparable) (hne : m.params ≠ []) :
    Block.params (m.declaration options target).text = m.params.map (·.bareName.toList) := by
  have hcut : (Block.paramList (m.declaration options target).text).splitOn ',' =
      Declaration.listed m.paramNames := by
    rw [paramList_text h, Declaration.toList_intercalate_listed]
    refine List.splitOn_intercalate _ (fun l hl => ?_) ?_
    · obtain ⟨n, hn, hl⟩ := Declaration.mem_listed hl
      obtain ⟨p, hp, rfl⟩ := List.mem_map.mp hn
      have hcomma := h.not_mem_bareName hp (c := ',') (by decide)
      rcases hl with rfl | rfl
      · exact hcomma
      · simpa using hcomma
    · cases hparams : m.params with
      | nil => exact absurd hparams hne
      | cons p rest => simp [paramNames, hparams, Declaration.listed]
  have hnames : ∀ n ∈ m.paramNames, ' ' ∉ n.toList := by
    intro n hn
    obtain ⟨p, hp, rfl⟩ := List.mem_map.mp hn
    exact h.not_mem_bareName hp (by decide)
  rw [Block.params, hcut, Declaration.map_dropWhile_listed hnames, paramNames, List.map_map]
  rfl

def paramAnnotations (options : EmitOptions) (m : Method) : List Annotation :=
  if m.omitsParams options then []
  else m.params.map fun p => .param p.annotatedType p.bareName

def resultAnnotations (options : EmitOptions) (m : Method) : List Annotation :=
  (m.annotatedResult options).toList.map .result

def overrideAnnotations (m : Method) : List Annotation :=
  if m.isOverride then [.overriding] else []

theorem annotations_eq (options : EmitOptions) (m : Method) :
    m.annotations options =
      m.paramAnnotations options ++ m.resultAnnotations options ++ m.overrideAnnotations := rfl

theorem tag_of_mem_paramAnnotations {a : Annotation} (ha : a ∈ m.paramAnnotations options) :
    Block.tag a.line.toList = "@param".toList := by
  unfold paramAnnotations at ha
  split at ha
  · cases ha
  · obtain ⟨p, -, rfl⟩ := List.mem_map.mp ha
    exact Annotation.tag_param _ _

theorem tag_of_mem_resultAnnotations {a : Annotation} (ha : a ∈ m.resultAnnotations options) :
    Block.tag a.line.toList = "@return".toList := by
  obtain ⟨type, -, rfl⟩ := List.mem_map.mp ha
  exact Annotation.tag_result type

theorem tag_of_mem_overrideAnnotations {a : Annotation} (ha : a ∈ m.overrideAnnotations) :
    Block.tag a.line.toList = "@override".toList := by
  unfold overrideAnnotations at ha
  split at ha
  · obtain rfl := List.mem_singleton.mp ha
    exact Annotation.tag_overriding
  · cases ha

/-- The words tell the annotations of parameters, of the result and of overriding apart. -/
theorem tagged_text (h : m.IsSeparable) (word : String) :
    Block.tagged target (m.declaration options target).text word =
      (if "@param" = word then (m.paramAnnotations options).map (·.line.toList) else []) ++
        (if "@return" = word then (m.resultAnnotations options).map (·.line.toList) else []) ++
        (if "@override" = word then m.overrideAnnotations.map (·.line.toList) else []) := by
  rw [Block.tagged, annotations_text h, annotations_eq, List.map_append, List.map_append,
    List.filter_append, List.filter_append,
    Annotation.filter_tag fun _ => tag_of_mem_paramAnnotations,
    Annotation.filter_tag fun _ => tag_of_mem_resultAnnotations,
    Annotation.filter_tag fun _ => tag_of_mem_overrideAnnotations]
  simp only [String.toList_inj]

theorem tagged_param (h : m.IsSeparable) :
    Block.tagged target (m.declaration options target).text "@param" =
      (m.paramAnnotations options).map (·.line.toList) := by
  simp [tagged_text h]

theorem tagged_return (h : m.IsSeparable) :
    Block.tagged target (m.declaration options target).text "@return" =
      (m.resultAnnotations options).map (·.line.toList) := by
  simp [tagged_text h]

theorem tagged_override (h : m.IsSeparable) :
    Block.tagged target (m.declaration options target).text "@override" =
      m.overrideAnnotations.map (·.line.toList) := by
  simp [tagged_text h]

theorem hasTag_eq_true {title : String} : m.hasTag title = true ↔ m.IsTagged title := by
  simp [hasTag, IsTagged, Option.any_eq_true]

theorem omitsParams_eq_true : m.omitsParams options = true ↔ m.LeavesParams options := by
  simp [omitsParams, LeavesParams, isOverride, documentsParams, ← hasTag_eq_true, and_assoc]

theorem annotatedResult_of_shows (h : m.ShowsResult options) :
    m.annotatedResult options = some (m.returnType.getD "undefined") := by
  unfold annotatedResult
  cases hm : m.returnType with
  | some type => rfl
  | none =>
    rw [ShowsResult, hm, ← hasTag_eq_true] at h
    simpa [isOverride] using h

theorem annotatedResult_of_not_shows (h : ¬ m.ShowsResult options) :
    m.annotatedResult options = none := by
  unfold annotatedResult
  cases hm : m.returnType with
  | some type => exact absurd (.inl ⟨type, hm⟩) h
  | none =>
    rw [ShowsResult, hm, ← hasTag_eq_true] at h
    simpa [isOverride] using h

end Method

theorem Param.isAnnotatedBy_line {p : Param} (h : ' ' ∉ p.bareName.toList) :
    p.IsAnnotatedBy (.param p.annotatedType p.bareName : Annotation).line.toList := by
  have hrest : p.isRest = true ↔ "...".toList <+: p.name.toList := List.isPrefixOf_iff_prefix
  have hname := Annotation.lastWord_param h p.annotatedType
  have hread := Annotation.paramType_param h p.annotatedType
  refine ⟨hname, fun type htype => ?_, fun hnone => ?_, fun hnone => ?_⟩
  · rw [hread, annotatedType, htype, Option.getD_some]
  · rw [hread, annotatedType, hnone, Option.getD_none]
    cases p.isRest with
    | false => exact .inl rfl
    | true => exact .inr rfl
  · rw [hread, annotatedType, hnone, Option.getD_none, ← hrest]
    cases p.isRest <;> simp

/-- The text of a method shows what the options want it to show: its comment and its code agree. -/
theorem Method.isShownBy_text {m : Method} (h : m.IsSeparable) (options : EmitOptions)
    (target : String) : m.IsShownBy options target (m.declaration options target).text where
  listed := params_text h
  listed_nothing hnil := by simp [paramList_text h, paramNames, hnil]
  annotated := by
    rw [tagged_param h, paramAnnotations]
    split
    · by_cases hne : m.params = []
      · left
        simp [hne]
      · exact .inr ⟨hne, rfl⟩
    · have hblank : ∀ p ∈ m.params, ' ' ∉ p.bareName.toList :=
        fun p hp => h.not_mem_bareName hp (by decide)
      rw [List.map_map]
      refine .inl ⟨?_, fun hne => ?_⟩
      · rw [List.forall₂_map_right_iff, List.forall₂_same]
        exact fun p hp => p.isAnnotatedBy_line (hblank p hp)
      · rw [params_text h hne, List.map_map]
        exact List.map_congr_left fun p hp => Annotation.lastWord_param (hblank p hp) _
  left hne := by
    rw [tagged_param h, paramAnnotations, ← omitsParams_eq_true]
    split <;> simp_all
  result hshows := by
    refine ⟨_, ?_, Annotation.inBraces_result _⟩
    rw [tagged_return h, resultAnnotations, annotatedResult_of_shows hshows]
    rfl
  no_result hshows := by
    rw [tagged_return h, resultAnnotations, annotatedResult_of_not_shows hshows]
    rfl
  overriding htag := by
    rw [tagged_override h, overrideAnnotations, isOverride, if_pos (hasTag_eq_true.mpr htag)]
    rfl
  not_overriding htag := by
    rw [tagged_override h, overrideAnnotations, isOverride, if_neg (hasTag_eq_true.not.mpr htag)]
    rfl
  order := by
    rw [tagged_param h, tagged_return h, tagged_override h, annotations_text h, annotations_eq,
      List.map_append, List.map_append]
  comment hne := by
    rw [annotations_text h] at hne ⊢
    have hany : (m.annotations options).isEmpty = false := by simpa using hne
    rw [commentLines_text h, declaration, Declaration.gloss, hany]
    simp [Declaration.commentLines, Function.comp_def]
  no_comment hnil := by
    rw [annotations_text h] at hnil
    rw [commentLines_text h, declaration, Declaration.gloss, List.map_eq_nil_iff.mp hnil]
    rfl

/-- An overriding method with the text of another annotation in a type, and a rest parameter. -/
def documentedMethod : Method where
  name := "listen"
  params := [{ name := "node", type := some "\x7ba: @return \x7bb\x7d c\x7d" },
    { name := "...more" }]
  doc := some { tags := ["param", "override"] }

theorem Method.isShownBy_text_documented :
    documentedMethod.IsSeparable ∧
    documentedMethod.IsShownBy {} "Mixin.prototype"
      ("/**\n * @param \x7b\x7ba: @return \x7bb\x7d c\x7d\x7d node\n" ++
        " * @param \x7b...*\x7d more\n * @override\n */\n" ++
        "Mixin.prototype.listen = function(node, more)\x7b\x7d;") := by
  have hseparable : documentedMethod.IsSeparable := by
    refine ⟨by simp [documentedMethod], ?_, ?_, ?_⟩
    · simp [documentedMethod]
    · simp [documentedMethod]
    · rintro type ⟨⟩
  exact ⟨hseparable, isShownBy_text hseparable {} "Mixin.prototype"⟩

end MixinExterns
