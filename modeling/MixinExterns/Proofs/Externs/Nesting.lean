import MixinExterns.Proofs.Externs.Links
import MixinExterns.Proofs.Externs.WellFormed
import MixinExterns.Proofs.Script.Places

/-!
Mixins in nested namespaces. A low line takes the place of the last dot only, so with two or more
dots the name of a record is none of a function. The first such record is where the check of the
externs fails, at its first dot, and otherwise well-formed externs fail nowhere else.
-/

namespace MixinExterns

open Script

/-- Whether a name is made of identifiers with dots between them. -/
def IsDottedPath (name : String) : Prop :=
  ∀ segment ∈ name.toList.splitOn '.', isIdentifier (String.ofList segment) = true

instance (name : String) : Decidable (IsDottedPath name) :=
  inferInstanceAs (Decidable (∀ segment ∈ name.toList.splitOn '.', _))

namespace IsDottedPath

variable {name : String}

theorem isIdentifier_of_no_dot (h : IsDottedPath name) (hdot : '.' ∉ name.toList) :
    isIdentifier name = true := by
  have hsplit : name.toList.splitOn '.' = [name.toList] := List.splitOn_eq_singleton hdot
  simpa using h name.toList (by simp [hsplit])

/-- A path with a dot is an identifier and a path behind the dot. -/
theorem cut (h : IsDottedPath name) (hdot : '.' ∈ name.toList) :
    ∃ first rest : String, name = first ++ ("." ++ rest) ∧ isIdentifier first = true ∧
      IsDottedPath rest := by
  obtain ⟨first, rest, hname, hfirst⟩ := List.eq_append_cons_of_mem hdot
  have hsplit : name.toList.splitOn '.' = first :: rest.splitOn '.' := by
    rw [hname, List.splitOn_append_cons_self_of_not_mem hfirst]
  refine ⟨String.ofList first, String.ofList rest, String.toList_inj.mp (by simp [hname]),
    h first (by simp [hsplit]), fun segment hsegment => ?_⟩
  rw [String.toList_ofList] at hsegment
  exact h segment (hsplit ▸ .tail _ hsegment)

theorem count_cut {first rest : String} (hfirst : isIdentifier first = true) :
    (first ++ ("." ++ rest)).toList.count '.' = rest.toList.count '.' + 1 := by
  have hdot := not_mem_of_identifierName (isIdentifierName_of_identifier hfirst) (c := '.')
    (by decide)
  simp [List.count_eq_zero_of_not_mem hdot]

theorem isMixinName (h : IsDottedPath name) (hdots : name.toList.count '.' ≤ 1) :
    IsMixinName name := by
  by_cases hdot : '.' ∈ name.toList
  · obtain ⟨space, base, rfl, hspace, hbase⟩ := h.cut hdot
    rw [count_cut hspace] at hdots
    have hnone : '.' ∉ base.toList := List.count_eq_zero.mp (by omega)
    exact .inr ⟨space, base, (String.append_assoc ..).symm, isIdentifierName_of_identifier hspace,
      isIdentifierName_of_identifier (hbase.isIdentifier_of_no_dot hnone)⟩
  · exact .inl (h.isIdentifier_of_no_dot hdot)

/-- With two dots or more the first one is still there in the name of the record, between two
identifiers. -/
theorem combined_of_nested (h : IsDottedPath name) (hdots : 2 ≤ name.toList.count '.') :
    ∃ first next more : String, isIdentifier first = true ∧ isIdentifier next = true ∧
      first.toList = name.toList.takeWhile (· ≠ '.') ∧
      (QualifiedName.ofIdentifier name).combined = first ++ ("." ++ (next ++ more)) := by
  obtain ⟨first, rest, rfl, hfirst, hrest⟩ := h.cut (List.count_pos_iff.mp (by omega))
  rw [count_cut hfirst] at hdots
  have hdot : '.' ∈ rest.toList := List.count_pos_iff.mp (by omega)
  obtain ⟨next, last, rfl, hnext, -⟩ := hrest.cut hdot
  refine ⟨first, next, QualifiedName.lowered ("." ++ last), hfirst, hnext, ?_, ?_⟩
  · have hall : ∀ c ∈ first.toList, decide (c ≠ '.') = true := by
      intro c hc
      have hpart := namePart_of_mem (isIdentifierName_of_identifier hfirst) hc
      exact decide_eq_true (by rintro rfl; exact absurd hpart (by decide))
    rw [String.toList_append, List.takeWhile_append_of_pos hall]
    simp
  · rw [QualifiedName.combined_ofIdentifier, QualifiedName.lowered_append first (by simp),
      QualifiedName.lowered_append "." hdot, QualifiedName.lowered_append next (by simp)]

end IsDottedPath

/-- Whether the names and types in the declarations of a mixin can be read back, apart from the name
of its record, which may lie in a namespace inside of another one. -/
structure Feature.HasLegibleParts (options : EmitOptions) (f : Feature) : Prop where
  name : IsDottedPath f.name
  parents : ∀ parent ∈ f.parents, NoClose parent.toList
  properties : ∀ p ∈ f.properties, p.isVisible = true →
    isIdentifierName p.name = true ∧ NoClose (p.type.getD "*").toList
  methods : ∀ m ∈ f.includedMethods options ++ f.includedStatics options, m.IsReadable options
  params : ∀ m ∈ f.includedMethods options ++ f.includedStatics options,
    ∀ p ∈ m.params, isIdentifier p.bareName = true

theorem Feature.HasLegibleParts.isWellFormed {options : EmitOptions} {f : Feature}
    (h : f.HasLegibleParts options) (hdots : f.name.toList.count '.' ≤ 1) :
    f.IsWellFormed options where
  name := h.name.isMixinName hdots
  parents := h.parents
  properties := h.properties
  methods := h.methods
  params := h.params

namespace Script

variable {stubs : List Stub} {code gap more : List Char} {first next : String}

theorem spells_dotted (hcode : ∀ tail, Spells (gap ++ tail) code (stubs.flatMap (·.lexemes)))
    (hgap : Inert gap) (hfirst : isIdentifier first = true) (behind : List Char) :
    Spells ('.' :: behind) (code ++ (gap ++ ("function".toList ++ ([' '] ++ first.toList))))
      (stubs.flatMap (·.lexemes) ++ [.word "function", .word first]) := by
  have hword : Spells ('.' :: behind) (first.toList ++ []) [.word first] :=
    .cons (reads_word (isIdentifierName_of_identifier hfirst) (by rfl)) .nil
  rw [List.append_nil] at hword
  have hfunction : Spells ('.' :: behind) ("function".toList ++ ([' '] ++ first.toList))
      [.word "function", .word first] :=
    .cons (reads_word (by decide) (by rfl)) (hword.gap (inert_blank (by decide)))
  have hbefore := hcode ("function".toList ++ ([' '] ++ first.toList) ++ '.' :: behind)
  rw [← List.append_assoc] at hbefore
  exact hbefore.append (hfunction.gap hgap)

/-- The tokens of declarations, of the mark of a function and of the first part of its name stand in
front of the dot behind it. -/
theorem tokens_dotted (hcode : ∀ tail, Spells (gap ++ tail) code (stubs.flatMap (·.lexemes)))
    (hgap : Inert gap) (hfirst : isIdentifier first = true) (hnext : isIdentifier next = true)
    (more : List Char) :
    ∃ declared t u dot behind,
      tokens (code ++ gap ++
        ("function ".toList ++ first.toList ++ '.' :: (next.toList ++ more))) =
          declared ++ t :: u :: dot :: behind ∧
      declared.map (·.lexeme) = stubs.flatMap (·.lexemes) ∧
      t.lexeme = .word "function" ∧ u.lexeme = .word first ∧ dot.lexeme = .mark .dot ∧
      dot.start = (code ++ gap).length + ("function ".toList ++ first.toList).length := by
  obtain ⟨ts, dot, behind, htokens, hlexemes, hdot, hstart⟩ :=
    tokens_of_spells_reads (spells_dotted hcode hgap hfirst (next.toList ++ more))
      (reads_dot (isIdentifierName_of_identifier hnext) more) (by simp)
      (by simpa using hash_not_mem_stubs stubs)
  obtain ⟨declared, ahead, rfl, hdeclared, hahead⟩ := List.map_eq_append_iff.mp hlexemes
  obtain ⟨t, ahead, rfl, ht, hahead⟩ := List.map_eq_cons_iff.mp hahead
  obtain ⟨u, ahead, rfl, hu, hahead⟩ := List.map_eq_cons_iff.mp hahead
  obtain rfl := List.map_eq_nil_iff.mp hahead
  -- The blank behind the mark of the function is a gap in front of the name.
  have hwords : "function ".toList = "function".toList ++ [' '] := by decide
  refine ⟨declared, t, u, dot, behind, ?_, hdeclared, ht, hu, hdot, ?_⟩
  · simpa [hwords] using htokens
  · rw [hstart, hwords]
    simp only [List.length_append, Nat.add_assoc]

/-- A script of declarations with the function of a dotted name behind them, at the beginning of a
line, fails at the first dot of the name. -/
theorem parse_dotted {text : String} (hnamed : ∀ stub ∈ stubs, stub.IsNamed)
    (hwhole : ∀ stub ∈ stubs, ¬ stub.HasGap)
    (hcode : ∀ tail, Spells (gap ++ tail) code (stubs.flatMap (·.lexemes))) (hgap : Inert gap)
    (hline : (code ++ gap).getLast? = some '\n') (hfirst : isIdentifier first = true)
    (hnext : isIdentifier next = true)
    (htext : text.toList = code ++ gap ++
      ("function ".toList ++ first.toList ++ '.' :: (next.toList ++ more))) :
    parse text = .error ⟨1 + lineBreaks (code ++ gap), 9 + first.toList.length⟩ := by
  obtain ⟨declared, t, u, dot, behind, htokens, hdeclared, ht, hu, hdot, hstart⟩ :=
    tokens_dotted hcode hgap hfirst hnext more
  have herror : statementsOf (tokens text.toList) = .error dot.start := by
    rw [htext, htokens]
    exact statementsOf_dotted hnamed hwhole hdeclared ht hu hfirst hdot
  have hmark : "function ".toList.all isGraphic = true := by decide
  have hgraphic : ∀ c ∈ "function ".toList ++ first.toList, isGraphic c = true := by
    intro c hc
    rcases List.mem_append.mp hc with hc | hc
    · exact List.all_eq_true.mp hmark c hc
    · exact isGraphic_of_namePart (namePart_of_mem (isIdentifierName_of_identifier hfirst) hc)
  have hcolumn : ("function ".toList ++ first.toList).length = 9 + first.toList.length := by
    rw [List.length_append]
    rfl
  rw [parse, herror, Except.mapError, hstart, htext, place_in_line hline hgraphic (by simp),
    hcolumn]

end Script

namespace Externs

variable {features earlier later : List Feature} {options : EmitOptions} {f : Feature}

/-- What stands in the externs above the line with the function of a mixin: the externs of the
mixins before it, an empty line, and the comment of its record. -/
def above (earlier : List Feature) (f : Feature) (options : EmitOptions) : String :=
  joined (generate earlier options).value (Declaration.comment
    (.record :: f.parentTypes.map (.link options.inheritance)) ++ "\n")

theorem declarations_of_mixins (h : mixins features options = earlier ++ f :: later) :
    declarations features options = declarations earlier options ++ f.declarations options ++
      later.flatMap (·.declarations options) := by
  have hearlier : mixins earlier options = earlier := by
    refine List.filter_eq_self.mpr fun g hg => ?_
    have hmem : g ∈ mixins features options := by simp [h, hg]
    exact (List.mem_filter.mp hmem).2
  simp [declarations, h, hearlier]

theorem joined_append {b : String} (hb : b ≠ "") (a c : String) :
    joined a (b ++ c) = joined a b ++ c := by
  have hbc : b ++ c ≠ "" := by simp [hb]
  rw [joined, joined, if_neg hb, if_neg hbc]
  split
  · rfl
  · simp only [String.append_assoc]

/-- Above and behind the line with the function of a mixin stands what belongs to the other ones. -/
theorem text_of_mixins (h : mixins features options = earlier ++ f :: later) :
    ∃ behind, text features options =
      above earlier f options ++ ("function " ++ f.typeName ++ "()\x7b\x7d") ++ behind := by
  -- The members of the mixin and all of the mixins behind it stay below the line.
  obtain ⟨members, hmembers⟩ : ∃ members, f.declarations options =
      .record f.typeName options.inheritance f.parentTypes :: members := ⟨_, rfl⟩
  generalize hparts : (members ++ later.flatMap (·.declarations options)).map (·.text) = parts
  have hcomment : Declaration.comment
      (.record :: f.parentTypes.map (.link options.inheritance)) ++ "\n" ≠ "" := by simp
  have htext : text features options = joined (generate earlier options).value (layOut
      ((Declaration.record f.typeName options.inheritance f.parentTypes).text :: parts)) := by
    rw [value_generate, text, text, ← layOut_append, declarations_of_mixins h, hmembers, ← hparts]
    simp
  refine ⟨String.ofList (separator parts ++ (layOut parts).toList), ?_⟩
  have hrecord : layOut ((Declaration.record f.typeName options.inheritance
      f.parentTypes).text :: parts) = (Declaration.comment
        (.record :: f.parentTypes.map (.link options.inheritance)) ++ "\n") ++
        (("function " ++ f.typeName ++ "()\x7b\x7d") ++
          String.ofList (separator parts ++ (layOut parts).toList)) := by
    apply String.toList_inj.mp
    rw [layOut_cons, Declaration.text_comment_append]
    simp
  rw [htext, hrecord, joined_append hcomment, above]
  simp only [String.append_assoc]

theorem inert_joined {a b : String} (hb : b ≠ "") (hinert : Inert b.toList) :
    ∃ gap, Inert gap ∧ (joined a b).toList = a.toList ++ gap := by
  rw [joined, if_neg hb]
  split
  · next ha => exact ⟨b.toList, hinert, by simp [ha]⟩
  · exact ⟨'\n' :: b.toList, .blank (by decide) hinert, by simp⟩

/-- Above the line with the function of a mixin stands the code of the mixins before it. -/
theorem spells_above (hearlier : ∀ g ∈ mixins earlier options, g.IsReadable options)
    (hheader : Inert options.header.toList)
    (hparents : ∀ parent ∈ f.parents, NoClose parent.toList) :
    ∃ code gap, (above earlier f options).toList = code ++ gap ∧ Inert gap ∧
      ∀ tail, Spells (gap ++ tail) code ((stubs earlier options).flatMap (·.lexemes)) := by
  obtain ⟨code, last, htext, hlast, hcode⟩ := spells_text hearlier hheader
  have hcomment : Inert (Declaration.comment
      (.record :: f.parentTypes.map (.link options.inheritance)) ++ "\n").toList := by
    rw [String.toList_append]
    exact (inert_recordComment hparents _).append (inert_blank (by decide))
  obtain ⟨gap, hgap, habove⟩ := inert_joined (a := (generate earlier options).value)
    (by simp) hcomment
  refine ⟨code, last ++ gap, ?_, hlast.append hgap, fun tail => ?_⟩
  · rw [above, habove, value_generate, htext, List.append_assoc]
  · rw [List.append_assoc]
    exact hcode (gap ++ tail)

theorem above_ends (earlier : List Feature) (f : Feature) (options : EmitOptions) :
    (above earlier f options).toList.getLast? = some '\n' := by
  rw [above, joined, if_neg (by simp)]
  split
  all_goals
    simp only [String.toList_append, ← List.append_assoc]
    exact List.getLast?_concat ..

/-- No parameter of mixins that are well-formed but for the names of their records is without a
name. -/
theorem whole_stubs (h : ∀ f ∈ mixins features options, f.HasLegibleParts options) :
    ∀ stub ∈ stubs features options, ¬ stub.HasGap := by
  intro stub hstub hgap
  obtain ⟨f, hf, m, hm, hgap⟩ := hasGap_stubs.mp ⟨stub, hstub, hgap⟩
  refine not_leavesGap_of_named (fun name hname => ?_) hgap
  obtain ⟨p, hp, rfl⟩ := List.mem_map.mp hname
  exact ne_empty_of_identifierName (isIdentifierName_of_identifier ((h f hf).params m hm p hp))

/-- The externs of mixins in namespaces that are not nested parse. -/
theorem parse_flat (hmixins : ∀ f ∈ mixins features options, f.HasLegibleParts options)
    (hheader : Inert options.header.toList)
    (hdots : ∀ f ∈ mixins features options, f.name.toList.count '.' ≤ 1) :
    ∃ statements, parse (text features options) = .ok statements := by
  have hreadable : ∀ f ∈ mixins features options, f.IsReadable options :=
    fun f hf => ((hmixins f hf).isWellFormed (hdots f hf)).toIsReadable
  exact ⟨_, parse_text hreadable hheader fun ⟨stub, hstub, hgap⟩ =>
    whole_stubs hmixins stub hstub hgap⟩

/-- The externs do not parse beyond the first dot of the first name with two dots or more. -/
theorem parse_nested (h : mixins features options = earlier ++ f :: later)
    (hmixins : ∀ g ∈ mixins features options, g.HasLegibleParts options)
    (hheader : Inert options.header.toList)
    (hearlier : ∀ g ∈ earlier, g.name.toList.count '.' ≤ 1) (hdots : 2 ≤ f.name.toList.count '.') :
    parse (text features options) =
      .error ⟨1 + lineBreaks (above earlier f options).toList,
        9 + (f.name.toList.takeWhile (· ≠ '.')).length⟩ := by
  have hf : f.HasLegibleParts options := hmixins f (by simp [h])
  have hbefore : ∀ g ∈ mixins earlier options, g ∈ earlier ∧ g.HasLegibleParts options := by
    intro g hg
    have hmem := List.mem_of_mem_filter hg
    exact ⟨hmem, hmixins g (by simp [h, hmem])⟩
  have hreadable : ∀ g ∈ mixins earlier options, g.IsReadable options := fun g hg =>
    ((hbefore g hg).2.isWellFormed (hearlier g (hbefore g hg).1)).toIsReadable
  obtain ⟨code, gap, habove, hgap, hcode⟩ := spells_above hreadable hheader hf.parents
  obtain ⟨first, next, more, hfirst, hnext, hcut, hcombined⟩ := hf.name.combined_of_nested hdots
  obtain ⟨behind, htext⟩ := text_of_mixins h
  have hdotted : (text features options).toList = code ++ gap ++
      ("function ".toList ++ first.toList ++
        '.' :: (next.toList ++ (more.toList ++ ("()\x7b\x7d" ++ behind).toList))) := by
    rw [htext, ← habove, Feature.typeName, Feature.qualifiedName, hcombined]
    simp only [String.toList_append, List.append_assoc]
    rfl
  rw [habove, ← hcut]
  exact parse_dotted (isNamed_stubs hreadable) (whole_stubs fun g hg => (hbefore g hg).2) hcode hgap
    (habove ▸ above_ends earlier f options) hfirst hnext hdotted

/-- Well-formed externs but for the namespaces are a script if and only if no name of a mixin has
more than one dot. The first one that has more is where the check fails: on the line of the function
of this mixin, at the first dot of its name. -/
theorem check_nested (features : List Feature) (options : EmitOptions)
    (hmixins : ∀ f ∈ mixins features options, f.HasLegibleParts options)
    (hheader : Inert options.header.toList) :
    ((∃ statements, (check (generate features options).value).value = .ok statements) ↔
      ∀ f ∈ mixins features options, f.name.toList.count '.' ≤ 1) ∧
    ∀ earlier f later, mixins features options = earlier ++ f :: later →
      (∀ g ∈ earlier, g.name.toList.count '.' ≤ 1) → 2 ≤ f.name.toList.count '.' →
      (∃ behind, (generate features options).value =
        above earlier f options ++ ("function " ++ f.typeName ++ "()\x7b\x7d") ++ behind) ∧
      (check (generate features options).value).value =
        .error ⟨1 + lineBreaks (above earlier f options).toList,
          9 + (f.name.toList.takeWhile (· ≠ '.')).length⟩ := by
  rw [value_generate, check_value]
  refine ⟨⟨fun ⟨statements, hparse⟩ => ?_, parse_flat hmixins hheader⟩,
    fun earlier f later h hearlier hdots =>
      ⟨text_of_mixins h, parse_nested h hmixins hheader hearlier hdots⟩⟩
  by_contra hnested
  obtain ⟨earlier, f, later, h, hearlier, hf⟩ : ∃ earlier f later,
      mixins features options = earlier ++ f :: later ∧
      (∀ g ∈ earlier, ¬ 2 ≤ g.name.toList.count '.') ∧ 2 ≤ f.name.toList.count '.' :=
    exists_first (by simpa [Nat.lt_iff_add_one_le] using hnested)
  rw [parse_nested h hmixins hheader (fun g hg => by have := hearlier g hg; omega) hf] at hparse
  exact absurd hparse (by simp)

def row : Feature where
  name := "Ui.Row"
  kinds := ["element-mixin"]
  properties := [{ name := "size", type := some "\x7b\x7b\n  x: number\n\x7d\x7d" }]

def grid : Feature where
  name := "Ui.Deep.Grid"
  kinds := ["element-mixin"]
  parents := ["Ui.Row"]
  methods := [{ name := "at", params := [{ name := "row" }] }]

/-- The line break in the header counts as one. -/
def broken : EmitOptions := { header := "/* a\r\n */" }

theorem hasLegibleParts_row : row.HasLegibleParts broken where
  name := by decide
  parents := by decide
  properties := by decide
  methods := by decide
  params := by decide

theorem hasLegibleParts_grid : grid.HasLegibleParts broken where
  name := by decide
  parents := by decide
  properties := by decide
  methods := by decide
  params := by decide

theorem check_nested_grid :
    (check (generate [row, grid] broken).value).value = .error ⟨18, 11⟩ := by
  have hmixins : mixins [row, grid] broken = [row] ++ grid :: [] := by decide
  have hlegible : ∀ f ∈ mixins [row, grid] broken, f.HasLegibleParts broken := by
    simp [hmixins, hasLegibleParts_row, hasLegibleParts_grid]
  have hheader : Inert broken.header.toList := by
    have htext : broken.header.toList = '/' :: '*' :: (" a\r\n ".toList ++ ['*', '/']) := by decide
    rw [htext]
    exact .of_comment (by decide)
  have hlines : lineBreaks (above [row] grid broken).toList = 17 := by decide +kernel
  obtain ⟨-, hplace⟩ :=
    (check_nested _ _ hlegible hheader).2 [row] grid [] hmixins (by decide) (by decide)
  rw [hplace, hlines]
  decide

end Externs

end MixinExterns
