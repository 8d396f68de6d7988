import Mathlib.Algebra.Order.BigOperators.Group.List
import Mathlib.Algebra.Order.Ring.Nat
import Mathlib.Data.List.Forall2
import MixinExterns.Proofs.Json.Nesting

/-!
Texts of JSON values. Whether a text can be read at all is decided by how deep its brackets are
nested, if it is one of a value but for that. The text of a list is put together from those of its items,
and the text of an object from those of its keys and values.
-/

namespace MixinExterns.Json

variable {α : Type} {s : List Char} {p : Position} {c : Cursor}

/-- Whether a text is that of a value, however deep its brackets are nested. -/
def IsTextOf (text : String) (v : Value) : Prop :=
  ∃ depth c, value text.length depth (.ofString text) = .ok (v, c) ∧ c.rest.all isSpace = true

theorem IsTextOf.within {text : String} {v : Value} (h : IsTextOf text v) {bound : Nat}
    (hbound : text.length ≤ bound) (depth : Nat) : ∃ rest, rest.all isSpace = true ∧
      ReadsWithin depth v.nesting (value bound depth) text.toList v rest := by
  obtain ⟨depth', c, hread, hspaces⟩ := h
  exact ⟨c.rest, hspaces, value_within hbound hread⟩

/-- A text of a value is read as it if its brackets are not nested too deep. -/
theorem IsTextOf.readFirst {text : String} {v : Value} (h : IsTextOf text v)
    (hdepth : v.nesting ≤ maxDepth) :
    ∃ c, Json.readFirst text = .ok (v, c) ∧ c.rest.all isSpace = true := by
  obtain ⟨rest, hspaces, hwithin⟩ := h.within (Nat.le_refl _) maxDepth
  obtain ⟨q, hread⟩ := hwithin.reads hdepth [] endsNumber_nil .start
  simp only [List.append_nil] at hread
  exact ⟨_, hread, hspaces⟩

theorem IsTextOf.readFirst_tooDeep {text : String} {v : Value} (h : IsTextOf text v)
    (hdepth : maxDepth < v.nesting) : ∃ q, Json.readFirst text = .error ⟨.tooDeep, q⟩ := by
  obtain ⟨rest, -, hwithin⟩ := h.within (Nat.le_refl _) maxDepth
  obtain ⟨q, hfail⟩ := hwithin.fails hdepth [] endsNumber_nil .start
  simp only [List.append_nil] at hfail
  exact ⟨q, hfail⟩

/-- Whether a text is that of a part of a sequence, with spaces around it. -/
def IsPart (close : Char) (part : Reader α) (text : List Char) (a : α) : Prop :=
  ∃ before ch t rest, text = before ++ ch :: t ∧ before.all isSpace = true ∧
    isSpace ch = false ∧ ch ≠ close ∧ Reads part (ch :: t) a rest ∧ rest.all isSpace = true

/-- Texts with a comma between each two of them. -/
def joined : List (List Char) → List Char
  | [] => []
  | text :: texts => text ++ texts.flatMap (',' :: ·)

section

variable {close : Char} {missing ended : SyntaxFault} {part : Reader α} {text spaces : List Char}
  {a : α} {later : List Char}

/-- A part that stands behind a comma is read. -/
theorem toPart_later {before t : List Char} {ch : Char} (hbefore : before.all isSpace = true)
    (hch : isSpace ch = false) (hclose : ch ≠ close) (later : List Char) (q : Position) :
    ∃ q', toPart close missing false ⟨',' :: (before ++ ch :: t ++ later), q⟩ =
      .ok ⟨ch :: (t ++ later), q'⟩ := by
  obtain ⟨q', hskip⟩ := skip_front hbefore hch (t ++ later) (q.after ',')
  refine ⟨q', ?_⟩
  simp only [List.append_assoc, List.cons_append]
  simp [toPart, separator, Cursor.next, hskip, hclose]

variable (missing ended) in
/-- Reading goes on behind a part, which follows a comma unless it is the first. -/
theorem sequence_part (hpart : IsPart close part text a) (hcomma : ',' ≠ close)
    (hspaces : spaces.all isSpace = true) (hlater : EndsNumber later) (bound : Nat)
    (first : Bool) (p : Position) : ∃ rest q, rest.all isSpace = true ∧
      sequence close missing ended part (bound + 1) first
          ⟨spaces ++ ((if first then text else ',' :: text) ++ later), p⟩ =
        (sequence close missing ended part bound false ⟨rest ++ later, q⟩ >>= fun e =>
          pure (a :: e.1, e.2)) := by
  obtain ⟨before, ch, t, rest, rfl, hbefore, hch, hne, hread, hrest⟩ := hpart
  have hgo {lead : Char} {tail : List Char} {q q' : Position} (hlead : lead ≠ close)
      (hto : toPart close missing first ⟨lead :: tail, q⟩ = .ok ⟨ch :: (t ++ later), q'⟩)
      {c : Cursor} (hskip : c.skip = ⟨lead :: tail, q⟩) : ∃ place,
      sequence close missing ended part (bound + 1) first c =
        (sequence close missing ended part bound false ⟨rest ++ later, place⟩ >>= fun e =>
          pure (a :: e.1, e.2)) := by
    obtain ⟨place, hread⟩ := hread later hlater q'
    simp only [List.cons_append] at hread
    refine ⟨place, ?_⟩
    rw [sequence_of_skip hskip, if_neg hlead, hto]
    simp only [bind, Except.bind, hread]
  cases first with
  | true =>
    have hall : (spaces ++ before).all isSpace = true := by simp_all
    obtain ⟨q, hskip⟩ := skip_front hall hch (t ++ later) p
    obtain ⟨place, hstep⟩ := hgo hne rfl hskip
    exact ⟨rest, place, hrest, by simpa using hstep⟩
  | false =>
    obtain ⟨q, hskip⟩ := skip_front hspaces (by decide : isSpace ',' = false)
      (before ++ ch :: t ++ later) p
    obtain ⟨q', hto⟩ := toPart_later hbefore hch hne later q
    obtain ⟨place, hstep⟩ := hgo hcomma hto hskip
    exact ⟨rest, place, hrest, hstep⟩

variable (missing ended part) in
theorem sequence_end (hclose : isSpace close = false) (hspaces : spaces.all isSpace = true)
    (bound : Nat) (first : Bool) (more : List Char) (p : Position) : ∃ q,
      sequence close missing ended part (bound + 1) first ⟨spaces ++ close :: more, p⟩ =
        .ok ([], ⟨more, q⟩) := by
  obtain ⟨q, hskip⟩ := skip_front hspaces hclose more p
  exact ⟨q.after close, by rw [sequence_of_skip hskip, if_pos rfl]⟩

/-- A number ends in front of the comma or the closing character behind it. -/
theorem endsNumber_later (hends : ∀ more, EndsNumber (close :: more)) (texts : List (List Char))
    (more : List Char) : EndsNumber (texts.flatMap (',' :: ·) ++ close :: more) := by
  cases texts with
  | nil => exact hends more
  | cons text texts => exact endsNumber_cons (by decide) _

/-- The parts behind the first are read up to the closing character. -/
theorem sequence_later (hclose : isSpace close = false) (hcomma : ',' ≠ close)
    (hends : ∀ more, EndsNumber (close :: more)) {texts : List (List Char)} {as : List α}
    (hparts : List.Forall₂ (IsPart close part) texts as) {bound : Nat}
    (hbound : texts.length < bound) (hspaces : spaces.all isSpace = true)
    (more : List Char) (p : Position) : ∃ q,
      sequence close missing ended part bound false
          ⟨spaces ++ (texts.flatMap (',' :: ·) ++ close :: more), p⟩ =
        .ok (as, ⟨more, q⟩) := by
  induction hparts generalizing bound spaces p with
  | nil =>
    obtain ⟨n, rfl⟩ : ∃ n, bound = n + 1 := ⟨bound - 1, by omega⟩
    exact sequence_end missing ended part hclose hspaces n false more p
  | @cons text a texts as hpart _ ih =>
    obtain ⟨n, rfl⟩ : ∃ n, bound = n + 1 := ⟨bound - 1, by omega⟩
    obtain ⟨rest, q, hrest, hstep⟩ := sequence_part missing ended hpart hcomma hspaces
      (endsNumber_later hends texts more) n false p
    have hfewer : texts.length < n := by simpa using hbound
    obtain ⟨q', hread⟩ := ih hfewer hrest q
    refine ⟨q', ?_⟩
    simp only [List.flatMap_cons, List.append_assoc]
    simp only [Bool.false_eq_true, if_false] at hstep
    rw [hstep, hread]
    rfl

variable (missing ended) in
/-- Parts with a comma between each two of them are read up to the closing character. -/
theorem sequence_parts (hclose : isSpace close = false) (hcomma : ',' ≠ close)
    (hends : ∀ more, EndsNumber (close :: more)) {texts : List (List Char)} {as : List α}
    (hparts : List.Forall₂ (IsPart close part) texts as) {bound : Nat}
    (hbound : texts.length < bound) (more : List Char) (p : Position) : ∃ q,
      sequence close missing ended part bound true ⟨joined texts ++ close :: more, p⟩ =
        .ok (as, ⟨more, q⟩) := by
  obtain ⟨n, rfl⟩ : ∃ n, bound = n + 1 := ⟨bound - 1, by omega⟩
  cases hparts with
  | nil => exact sequence_end missing ended part hclose rfl n true more p
  | @cons text a texts as hpart hparts =>
    have hfewer : texts.length < n := by simpa using hbound
    have hspaces : ([] : List Char).all isSpace = true := rfl
    obtain ⟨rest, q, hrest, hstep⟩ := sequence_part missing ended hpart hcomma hspaces
      (endsNumber_later hends texts more) n true p
    obtain ⟨q', hread⟩ := sequence_later hclose hcomma hends hparts hfewer hrest more q
    refine ⟨q', ?_⟩
    simp only [List.nil_append, if_true] at hstep
    rw [joined, List.append_assoc, hstep, hread]
    rfl

end

/-- A value is read behind the spaces in front of it. -/
theorem value_eq_ok {bound depth : Nat} {v : Value}
    (h : value bound depth ⟨s, p⟩ = .ok (v, c)) : ∃ before ch t q, s = before ++ ch :: t ∧
      before.all isSpace = true ∧ isSpace ch = false ∧
      value bound depth ⟨ch :: t, q⟩ = .ok (v, c) := by
  rw [value_eq] at h ⊢
  cases hskip : Cursor.skip ⟨s, p⟩ with
  | mk rest q =>
    cases rest with
    | nil => simp [valueWith, hskip, Cursor.failAhead] at h
    | cons ch t =>
      obtain ⟨before, hs, hbefore, hch⟩ := skip_eq_cons hskip
      refine ⟨before, ch, t, q, hs, hbefore, hch, ?_⟩
      rw [valueWith_of_skip (skip_of_not_space hch t q), ← valueWith_of_skip hskip]
      exact h

theorem scalar_eq_string {ch : Char} {t : List Char} {key : String}
    (h : scalar ⟨ch :: t, p⟩ = .ok (.string key, c)) :
    ch = '"' ∧ string ⟨ch :: t, p⟩ = .ok (key, c) := by
  have hnumber {n : Except SyntaxError (Number × Cursor)}
      (h : (n >>= fun e => pure (.number e.1, e.2) : Except SyntaxError (Value × Cursor)) =
        .ok (.string key, c)) : False := by
    cases n <;> simp [bind, Except.bind, pure, Except.pure] at h
  have hword {v : Value} {w : Except SyntaxError Cursor} (hv : v ≠ .string key)
      (h : (w >>= fun c => pure (v, c) : Except SyntaxError (Value × Cursor)) =
        .ok (.string key, c)) : False := by
    cases w <;> simp [bind, Except.bind, pure, Except.pure, hv] at h
  unfold scalar at h
  dsimp only at h
  split at h
  · exact (hword (by simp) h).elim
  split at h
  · exact (hword (by simp) h).elim
  split at h
  · exact (hword (by simp) h).elim
  split at h
  · exact (hnumber h).elim
  split at h
  · exact (hnumber h).elim
  split at h
  · next hquote =>
    refine ⟨hquote, ?_⟩
    cases hstring : string ⟨ch :: t, p⟩ with
    | error e => simp [hstring, bind, Except.bind] at h
    | ok r =>
      obtain ⟨a, c'⟩ := r
      simpa [hstring, bind, Except.bind, pure, Except.pure] using h
  · simp [Cursor.failAhead] at h

/-- A value is a string if it begins with a quote. -/
theorem value_eq_string {bound depth : Nat} {ch : Char} {t : List Char} {key : String}
    (hch : isSpace ch = false) (h : value bound depth ⟨ch :: t, p⟩ = .ok (.string key, c)) :
    ch = '"' ∧ string ⟨ch :: t, p⟩ = .ok (key, c) := by
  rw [value_eq, valueWith_of_skip (skip_of_not_space hch t p)] at h
  split at h
  · cases depth with
    | zero => simp [listAt, Cursor.failAhead] at h
    | succ depth =>
      simp only [listAt] at h
      cases hitems : items (value bound depth) bound true (Cursor.next ⟨ch :: t, p⟩) <;>
        simp [hitems, bind, Except.bind, pure, Except.pure] at h
  split at h
  · cases depth with
    | zero => simp [objectAt, Cursor.failAhead] at h
    | succ depth =>
      simp only [objectAt] at h
      cases hmembers : members (value bound depth) bound true (Cursor.next ⟨ch :: t, p⟩) <;>
        simp [hmembers, bind, Except.bind, pure, Except.pure] at h
  · exact scalar_eq_string h

/-- No value begins with a closing bracket. -/
theorem value_ne_bracket {bound depth : Nat} {ch : Char} {t : List Char} {v : Value}
    (h : value bound depth ⟨ch :: t, p⟩ = .ok (v, c)) : ch ≠ ']' := by
  rintro rfl
  rw [value_eq, valueWith_of_skip (skip_of_not_space rfl t p)] at h
  simp [scalar, digitValue, Cursor.failAhead] at h

/-- The text of a value is that of an item of a list. -/
theorem IsTextOf.isItem {text : String} {v : Value} (h : IsTextOf text v) {bound depth : Nat}
    (hbound : text.length ≤ bound) (hdepth : v.nesting ≤ depth) :
    IsPart ']' (value bound depth) text.toList v := by
  obtain ⟨depth', c, hread, hspaces⟩ := h
  obtain ⟨before, ch, t, q, htext, hbefore, hch, hread⟩ := value_eq_ok hread
  have hwithin : ReadsWithin depth v.nesting (value bound depth) (ch :: t) v c.rest :=
    value_within hbound hread
  exact ⟨before, ch, t, c.rest, htext, hbefore, hch, value_ne_bracket hread,
    hwithin.reads hdepth, hspaces⟩

/-- The texts of a key and of a value with a colon between them are those of a member of an
object. -/
theorem IsTextOf.isMember {key value : String} {k : String} {v : Value}
    (hkey : IsTextOf key (.string k)) (hvalue : IsTextOf value v) {bound depth : Nat}
    (hbound : value.length ≤ bound) (hdepth : v.nesting ≤ depth) :
    IsPart '\x7d' (member (Json.value bound depth)) (key.toList ++ ':' :: value.toList) (k, v) := by
  obtain ⟨depth', c, hread, hspaces⟩ := hkey
  obtain ⟨before, ch, t, q, hkeyText, hbefore, hch, hread⟩ := value_eq_ok hread
  obtain ⟨rfl, hstring⟩ := value_eq_string hch hread
  obtain ⟨rest, hrest, hwithin⟩ := hvalue.within hbound depth
  have hkeyRead : Reads string ('"' :: (t ++ ':' :: value.toList)) k
      (c.rest ++ ':' :: value.toList) := by
    intro more hmore place
    have hcolon : EndsNumber (':' :: (value.toList ++ more)) := endsNumber_cons (by decide) _
    simpa using reads_string hstring _ hcolon place
  obtain ⟨place, hskip⟩ := skip_front hspaces (by decide : isSpace ':' = false) value.toList q
  refine ⟨before, '"', t ++ ':' :: value.toList, rest, by simp [hkeyText], hbefore, rfl, by decide,
    fun more hmore place => ?_, hrest⟩
  obtain ⟨place₁, hstep⟩ := member_append hkeyRead hskip (Json.value bound depth) hmore place
  obtain ⟨place₂, hvalueRead⟩ := hwithin.reads hdepth more hmore place₁
  exact ⟨place₂, by rw [hstep, hvalueRead]; rfl⟩

/-- The text of a member of an object. -/
structure MemberText where
  key : String
  value : String

namespace MemberText

def text (m : MemberText) : String := m.key ++ ":" ++ m.value

/-- Whether the texts of a key and a value are those of a member. -/
def Of (m : MemberText) (e : String × Value) : Prop :=
  IsTextOf m.key (.string e.1) ∧ IsTextOf m.value e.2

end MemberText

/-- Texts of items, as the text of a list. -/
def listText (texts : List String) : String := "[" ++ ",".intercalate texts ++ "]"

/-- Texts of members, as the text of an object. -/
def objectText (ms : List MemberText) : String :=
  "\x7b" ++ ",".intercalate (ms.map (·.text)) ++ "\x7d"

theorem toList_intercalate_comma (texts : List String) :
    (",".intercalate texts).toList = joined (texts.map (·.toList)) := by
  rw [String.toList_intercalate]
  cases texts with
  | nil => rfl
  | cons text texts =>
    rw [List.map_cons, joined]
    induction texts generalizing text with
    | nil => simp [List.intercalate]
    | cons next texts ih =>
      rw [List.map_cons, List.intercalate_cons_cons, ih]
      simp

theorem length_joined_le (texts : List (List Char)) :
    (texts.map (·.length + 1)).sum ≤ (joined texts).length + 1 := by
  cases texts with
  | nil => simp
  | cons text texts =>
    simp only [joined, List.map_cons, List.sum_cons, List.length_append, List.length_flatMap,
      List.length_cons]
    omega

/-- Between brackets there is room for all parts, and for each of them. -/
theorem bounds_of_joined (texts : List (List Char)) {n : Nat} (h : n = (joined texts).length + 2) :
    texts.length < n ∧ ∀ text ∈ texts, text.length ≤ n := by
  have hsum := length_joined_le texts
  refine ⟨?_, fun text htext => ?_⟩
  · have hlength : (texts.map (·.length + 1)).length ≤ (texts.map (·.length + 1)).sum :=
      List.length_le_sum_of_one_le _ (by simp)
    rw [List.length_map] at hlength
    omega
  · have hmem : text.length + 1 ≤ (texts.map (·.length + 1)).sum :=
      List.le_sum_of_mem (List.mem_map_of_mem htext)
    omega

theorem forall₂_map_of_mem {β γ : Type} {R : α → β → Prop} {S : γ → β → Prop} {f : α → γ}
    {as : List α} {bs : List β} (h : List.Forall₂ R as bs)
    (hmap : ∀ a ∈ as, ∀ b ∈ bs, R a b → S (f a) b) : List.Forall₂ S (as.map f) bs := by
  rw [List.forall₂_map_left_iff, List.forall₂_iff_zip]
  obtain ⟨hlength, hall⟩ := List.forall₂_iff_zip.mp h
  refine ⟨hlength, fun {a b} hmem => ?_⟩
  obtain ⟨ha, hb⟩ := List.of_mem_zip hmem
  exact hmap a ha b hb (hall hmem)

/-- Texts of items between brackets are the text of the list. -/
theorem isTextOf_list {texts : List String} {items : List Value}
    (h : List.Forall₂ IsTextOf texts items) : IsTextOf (listText texts) (.list items) := by
  have htext : (listText texts).toList = '[' :: (joined (texts.map (·.toList)) ++ [']']) := by
    simp [listText, ← toList_intercalate_comma]
  obtain ⟨hmany, hlong⟩ := bounds_of_joined (texts.map (·.toList))
    (n := (listText texts).length) (by rw [← String.length_toList, htext]; simp)
  have hparts : List.Forall₂
      (IsPart ']' (value (listText texts).length (deepest (items.map (·.nesting)))))
      (texts.map (·.toList)) items := by
    refine forall₂_map_of_mem h fun text hmem v hv hof => hof.isItem ?_ ?_
    · exact hlong _ (List.mem_map_of_mem hmem)
    · exact le_deepest (List.mem_map_of_mem hv)
  obtain ⟨q, hread⟩ := sequence_parts .expectedListCommaOrEnd .endInList (by decide) (by decide)
    (endsNumber_cons (by decide)) hparts hmany [] (Position.start.after '[')
  refine ⟨deepest (items.map (·.nesting)) + 1, ⟨[], q⟩, ?_, rfl⟩
  rw [Cursor.ofString, htext, value_eq, valueWith_of_skip (skip_of_not_space rfl _ _)]
  simp only [if_true, listAt, items_eq, Cursor.next, hread]
  rfl

/-- Texts of members between braces are the text of the object. -/
theorem isTextOf_object {ms : List MemberText} {members : List (String × Value)}
    (h : List.Forall₂ MemberText.Of ms members) : IsTextOf (objectText ms) (.object members) := by
  have htext : (objectText ms).toList =
      '\x7b' :: (joined (ms.map (·.text.toList)) ++ ['\x7d']) := by
    have hjoined := toList_intercalate_comma (ms.map (·.text))
    rw [List.map_map] at hjoined
    simp only [objectText, String.toList_append, hjoined]
    rfl
  obtain ⟨hmany, hlong⟩ := bounds_of_joined (ms.map (·.text.toList))
    (n := (objectText ms).length) (by rw [← String.length_toList, htext]; simp)
  have hparts : List.Forall₂
      (IsPart '\x7d' (member (value (objectText ms).length
        (deepest (members.map (·.2.nesting))))))
      (ms.map (·.text.toList)) members := by
    refine forall₂_map_of_mem h fun m hmem e he hof => ?_
    have hlength := hlong _ (List.mem_map_of_mem hmem)
    have hvalue : m.value.length ≤ (objectText ms).length := by
      simp only [MemberText.text, String.length_toList, String.length_append] at hlength
      omega
    have hdepth : e.2.nesting ≤ deepest (members.map (·.2.nesting)) :=
      le_deepest (List.mem_map_of_mem (f := (·.2.nesting)) he)
    have hpart := hof.1.isMember hof.2 hvalue hdepth
    simpa [MemberText.text] using hpart
  obtain ⟨q, hread⟩ := sequence_parts .expectedObjectCommaOrEnd .endInObject (by decide)
    (by decide) (endsNumber_cons (by decide)) hparts hmany [] (Position.start.after '\x7b')
  refine ⟨deepest (members.map (·.2.nesting)) + 1, ⟨[], q⟩, ?_, rfl⟩
  rw [Cursor.ofString, htext, value_eq, valueWith_of_skip (skip_of_not_space rfl _ _)]
  simp only [show ('\x7b' = '[') = False by decide, if_false, if_true, objectAt, members_eq,
    Cursor.next, hread]
  rfl

end MixinExterns.Json
