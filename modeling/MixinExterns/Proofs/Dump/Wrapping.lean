import MixinExterns.Proofs.Dump.Stages
import MixinExterns.Proofs.Json.Texts
import MixinExterns.Proofs.Results

/-!
Dumps that are a list of features, and dumps that are an object with the list under `features`. Such
an object is read as the list that it holds, whatever other members it has. Its braces count among
the brackets of the text, though, so the list in it may be nested one level less than the list alone.
-/

namespace MixinExterns.Dump

open Json (Value IsTextOf MemberText)

/-- What a list of entries comes to if it can be read: its features, unless one of them is unfit. -/
def listed (items : List Value) : Except Fault (List Feature) :=
  (features items).value.elim (.error .shape) .ok

/-- Whether all that is wrong with a dump is that its brackets are nested too deep. -/
def TooDeep (result : Except Fault (List Feature)) : Prop :=
  ∃ e : Json.SyntaxError, result = .error (.malformed e) ∧ e.fault = .tooDeep

/-- The text of an object that has nothing but the list of features. -/
def wrapped (text : String) : String := "\x7b\"features\":" ++ text ++ "\x7d"

/-- The text of an object that has the list of features among other members. -/
def wrappedAmong (before after : List MemberText) (text : String) : String :=
  Json.objectText (before ++ ⟨"\"features\"", text⟩ :: after)

/-- Whether members may stand beside the features: they have other keys, and brackets in them are
not nested deeper than those of the features may be. -/
def AreBeside (ms : List MemberText) : Prop :=
  ∃ members, List.Forall₂ MemberText.Of ms members ∧
    ∀ e ∈ members, e.1 ≠ "features" ∧ e.2.nesting ≤ 126

theorem decode_of_isTextOf {text : String} {v : Value} (h : IsTextOf text v)
    (hdepth : v.nesting ≤ 127) :
    (decode text).value = (document v).value.elim (.error .shape) .ok := by
  obtain ⟨c, hread, hspaces⟩ := h.readFirst hdepth
  rw [decode_of_readFirst hread]
  cases (document v).value with
  | none => rfl
  | some fs => simp [hspaces]

theorem tooDeep_of_isTextOf {text : String} {v : Value} (h : IsTextOf text v)
    (hdepth : 127 < v.nesting) : TooDeep (decode text).value := by
  obtain ⟨p, hread⟩ := h.readFirst_tooDeep hdepth
  exact ⟨⟨.tooDeep, p⟩, by simp [decode, hread], rfl⟩

/-- A list comes to features, or else it is not what a dump should be. -/
theorem listed_cases (items : List Value) :
    (∃ fs, listed items = .ok fs) ∨ ∃ fault, listed items = .error fault ∧
      fault.message = "data did not match any variant of untagged enum AnalysisShape" := by
  unfold listed
  cases (features items).value with
  | none => exact .inr ⟨.shape, rfl, rfl⟩
  | some fs => exact .inl ⟨fs, rfl⟩

section

variable {before after : List (String × Value)} {items : List Value}

/-- An object is the list under its one key `features`. -/
theorem value_document_among (hbefore : ∀ e ∈ before, e.1 ≠ "features")
    (hafter : ∀ e ∈ after, e.1 ≠ "features") :
    (document (.object (before ++ ("features", .list items) :: after))).value =
      (features items).value := by
  have hnone {members : List (String × Value)} (h : ∀ e ∈ members, e.1 ≠ "features") :
      occurrences "features" members = [] := by
    simp only [occurrences, List.map_eq_nil_iff, List.filter_eq_nil_iff, decide_eq_true_eq]
    exact h
  have hone : occurrences "features" (before ++ ("features", .list items) :: after) =
      [.list items] := by
    have happend : occurrences "features" (before ++ ("features", .list items) :: after) =
        occurrences "features" before ++ .list items :: occurrences "features" after := by
      simp [occurrences]
    rw [happend, hnone hbefore, hnone hafter, List.nil_append]
  simp [document, hone, featureList]

/-- The braces around members are one more level than the deepest of them. -/
theorem nesting_among_le_iff {n : Nat} (hbefore : ∀ e ∈ before, e.2.nesting ≤ n)
    (hafter : ∀ e ∈ after, e.2.nesting ≤ n) :
    (Value.object (before ++ ("features", .list items) :: after)).nesting ≤ n + 1 ↔
      (Value.list items).nesting ≤ n := by
  rw [Json.nesting_object, Nat.add_le_add_iff_right, Json.deepest_le_iff]
  simp only [List.map_append, List.map_cons, List.forall_mem_append, List.forall_mem_cons,
    List.forall_mem_map]
  exact ⟨fun h => h.2.1, fun h => ⟨hbefore, h, hafter⟩⟩

end

theorem isTextOf_features : IsTextOf "\"features\"" (.string "features") :=
  ⟨0, ⟨[], ⟨1, 10⟩⟩, toOption_eq_some_iff.mp (by decide +kernel), rfl⟩

theorem wrapped_eq (text : String) : wrapped text = wrappedAmong [] [] text := by
  have hopen : "\x7b" ++ ("\"features\"" ++ ":") = "\x7b\"features\":" := by decide
  simp only [wrapped, wrappedAmong, Json.objectText, MemberText.text, List.nil_append,
    List.map_cons, List.map_nil, String.intercalate_singleton]
  rw [← hopen]
  simp only [String.append_assoc]

/-- A wrapped list comes to what the list comes to, if its brackets leave room for the braces. -/
theorem decode_wrappedAmong {text : String} {items : List Value}
    (h : IsTextOf text (.list items)) {before after : List MemberText}
    (hbefore : AreBeside before) (hafter : AreBeside after) :
    ((Value.list items).nesting ≤ 126 →
      (decode (wrappedAmong before after text)).value = listed items) ∧
    (126 < (Value.list items).nesting →
      TooDeep (decode (wrappedAmong before after text)).value) := by
  obtain ⟨members, hmembers, hbefore⟩ := hbefore
  obtain ⟨members', hmembers', hafter⟩ := hafter
  have htext : IsTextOf (wrappedAmong before after text)
      (.object (members ++ ("features", .list items) :: members')) :=
    Json.isTextOf_object (List.rel_append hmembers (.cons ⟨isTextOf_features, h⟩ hmembers'))
  have hnesting : (Value.object (members ++ ("features", .list items) :: members')).nesting ≤
      127 ↔ (Value.list items).nesting ≤ 126 :=
    nesting_among_le_iff (fun e he => (hbefore e he).2) fun e he => (hafter e he).2
  constructor
  · intro hdepth
    rw [decode_of_isTextOf htext (hnesting.mpr hdepth),
      value_document_among (fun e he => (hbefore e he).1) fun e he => (hafter e he).1]
    rfl
  · intro hdepth
    exact tooDeep_of_isTextOf htext (not_le.mp fun hle => absurd (hnesting.mp hle) (by omega))

/-- Wrapping a list of features changes nothing but how deep its brackets may be nested. A list with
brackets up to 126 deep comes to the same alone and wrapped, that is to its features or to the
message that it is not what a dump should be. With brackets 127 deep it does so alone, but wrapped it
is nested too deep, and with brackets deeper than that it is both alone and wrapped. Other members of
the object, up to 126 deep themselves, make no difference. -/
theorem decode_wrapped {text : String} {items : List Value} (h : IsTextOf text (.list items))
    {before after : List MemberText} (hbefore : AreBeside before) (hafter : AreBeside after) :
    ((Value.list items).nesting ≤ 126 → (decode text).value = listed items ∧
      (decode (wrapped text)).value = listed items ∧
      (decode (wrappedAmong before after text)).value = listed items) ∧
    ((Value.list items).nesting = 127 → (decode text).value = listed items ∧
      TooDeep (decode (wrapped text)).value ∧
      TooDeep (decode (wrappedAmong before after text)).value) ∧
    (128 ≤ (Value.list items).nesting → TooDeep (decode text).value ∧
      TooDeep (decode (wrapped text)).value ∧
      TooDeep (decode (wrappedAmong before after text)).value) ∧
    ((∃ fs, listed items = .ok fs) ∨ ∃ fault, listed items = .error fault ∧
      fault.message = "data did not match any variant of untagged enum AnalysisShape") := by
  have hnothing : AreBeside [] := ⟨[], .nil, by simp⟩
  obtain ⟨hread, hdeep⟩ := decode_wrappedAmong h hnothing hnothing
  obtain ⟨hreadAmong, hdeepAmong⟩ := decode_wrappedAmong h hbefore hafter
  rw [← wrapped_eq] at hread hdeep
  have halone (hdepth : (Value.list items).nesting ≤ 127) :
      (decode text).value = listed items := decode_of_isTextOf h hdepth
  refine ⟨fun hdepth => ?_, fun hdepth => ?_, fun hdepth => ?_, listed_cases items⟩
  · exact ⟨halone (by omega), hread hdepth, hreadAmong hdepth⟩
  · exact ⟨halone (by omega), hdeep (by omega), hdeepAmong (by omega)⟩
  · exact ⟨tooDeep_of_isTextOf h (by omega), hdeep (by omega), hdeepAmong (by omega)⟩

/-- Lists in one another: the items of the outermost of `n + 1`. -/
def nestedItems : Nat → List Value
  | 0 => []
  | n + 1 => [.list (nestedItems n)]

def nestedText : Nat → String
  | 0 => Json.listText []
  | n + 1 => Json.listText [nestedText n]

/-- The items of a dump of one feature, which has nested lists under a key that no feature has. -/
def strayItems (n : Nat) : List Value := [.object [("x", .list (nestedItems n))]]

def strayText (n : Nat) : String := Json.listText [Json.objectText [⟨"\"x\"", nestedText n⟩]]

theorem isTextOf_nested (n : Nat) : IsTextOf (nestedText n) (.list (nestedItems n)) := by
  induction n with
  | zero => exact Json.isTextOf_list .nil
  | succ n ih => exact Json.isTextOf_list (.cons ih .nil)

theorem nesting_nested (n : Nat) : (Value.list (nestedItems n)).nesting = n + 1 := by
  induction n with
  | zero => rfl
  | succ n ih => simp [nestedItems, Json.nesting_list, ih]

theorem memberText_nested (n : Nat) :
    MemberText.Of ⟨"\"x\"", nestedText n⟩ ("x", .list (nestedItems n)) := by
  have hkey : IsTextOf "\"x\"" (.string "x") :=
    ⟨0, ⟨[], ⟨1, 3⟩⟩, toOption_eq_some_iff.mp (by decide +kernel), rfl⟩
  exact ⟨hkey, isTextOf_nested n⟩

theorem isTextOf_stray (n : Nat) : IsTextOf (strayText n) (.list (strayItems n)) :=
  Json.isTextOf_list (.cons (Json.isTextOf_object (.cons (memberText_nested n) .nil)) .nil)

theorem nesting_stray (n : Nat) : (Value.list (strayItems n)).nesting = n + 3 := by
  simp [strayItems, Json.nesting_list, Json.nesting_object, ← nesting_nested n]

theorem decode_wrapped_stray :
    AreBeside [⟨"\"x\"", nestedText 125⟩] ∧
    (decode (strayText 123)).value = .ok [{}] ∧
    (decode (wrapped (strayText 123))).value = .ok [{}] ∧
    (decode (wrappedAmong [] [⟨"\"x\"", nestedText 125⟩] (strayText 123))).value = .ok [{}] ∧
    (decode (strayText 124)).value = .ok [{}] ∧
    TooDeep (decode (wrapped (strayText 124))).value ∧
    TooDeep (decode (strayText 125)).value := by
  have hbefore : AreBeside [] := ⟨[], .nil, by simp⟩
  have hafter : AreBeside [⟨"\"x\"", nestedText 125⟩] := by
    refine ⟨_, .cons (memberText_nested 125) .nil, fun e he => ?_⟩
    obtain rfl := List.mem_singleton.mp he
    exact ⟨by decide, (nesting_nested 125).le⟩
  have hlisted (n : Nat) : listed (strayItems n) = .ok [{}] := rfl
  obtain ⟨hroom, -, -, -⟩ := decode_wrapped (isTextOf_stray 123) hbefore hafter
  obtain ⟨-, hboundary, -, -⟩ := decode_wrapped (isTextOf_stray 124) hbefore hafter
  obtain ⟨-, -, hdeep, -⟩ := decode_wrapped (isTextOf_stray 125) hbefore hafter
  obtain ⟨halone, hwrapped, hamong⟩ := hroom (nesting_stray 123).le
  obtain ⟨halone', hwrapped', -⟩ := hboundary (nesting_stray 124)
  rw [hlisted] at halone hwrapped hamong halone'
  exact ⟨hafter, halone, hwrapped, hamong, halone', hwrapped', (hdeep (nesting_stray 125).ge).1⟩

end MixinExterns.Dump
