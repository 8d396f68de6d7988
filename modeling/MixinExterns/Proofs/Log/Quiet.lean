import MixinExterns.Externs.Generate
import MixinExterns.Feature.Decode
import MixinExterns.Script.Check

/-!
What is reported on the way to a result is no error: decoding leaves out what does not fit,
generating leaves out what is not to be written, and a failed check is for the run to report.
-/

namespace MixinExterns

open Json (Value)

variable {α β : Type}

/-- Whether none of some events is an error. -/
def AreQuiet (events : List Event) : Prop := ∀ e ∈ events, e.level ≠ .error

theorem areQuiet_append {es es' : List Event} (h : AreQuiet es) (h' : AreQuiet es') :
    AreQuiet (es ++ es') := by
  intro e he
  rcases List.mem_append.mp he with he | he
  · exact h e he
  · exact h' e he

theorem areQuiet_flatMap {items : List α} {f : α → List Event}
    (h : ∀ a ∈ items, AreQuiet (f a)) : AreQuiet (items.flatMap f) := by
  intro e he
  obtain ⟨a, ha, he⟩ := List.mem_flatMap.mp he
  exact h a ha e he

namespace Logged

/-- Whether nothing that is reported on the way is an error. -/
def IsQuiet (x : Logged α) : Prop := AreQuiet x.events

theorem isQuiet_pure (a : α) : (pure a : Logged α).IsQuiet := nofun

theorem isQuiet_note {e : Event} (h : e.level ≠ .error) : (note e).IsQuiet := by
  intro e' he'
  obtain rfl := List.mem_singleton.mp he'
  exact h

theorem IsQuiet.bind {x : Logged α} {f : α → Logged β} (hx : x.IsQuiet)
    (hf : ∀ a, (f a).IsQuiet) : (x >>= f).IsQuiet :=
  areQuiet_append hx (hf x.value)

theorem IsQuiet.map {x : Logged α} (hx : x.IsQuiet) (f : α → β) : (f <$> x).IsQuiet :=
  hx.bind fun a => isQuiet_pure (f a)

theorem isQuiet_foldlM {f : β → α → Logged β} (h : ∀ b a, (f b a).IsQuiet) (items : List α)
    (b : β) : (items.foldlM f b).IsQuiet := by
  induction items generalizing b with
  | nil => exact isQuiet_pure b
  | cons a items ih =>
    rw [List.foldlM_cons]
    exact (h b a).bind ih

end Logged

open Logged

namespace Dump

theorem isQuiet_build [Inhabited α] (v : Visit) {set : α → String → Value → Logged α}
    (h : ∀ r key w, (set r key w).IsQuiet) : (v.build set).IsQuiet :=
  (isQuiet_foldlM (fun r (e : String × Value) => h r e.1 e.2) _ _).bind fun _ => isQuiet_pure _

theorem isQuiet_entries {decode : Value → Logged (Except Mismatch α)}
    (h : ∀ v, (decode v).IsQuiet) (v : Value) : (entries decode v).IsQuiet := by
  have hgo : ∀ items, (entries.go decode items).IsQuiet := by
    intro items
    induction items with
    | nil => exact isQuiet_pure _
    | cons item items ih =>
      apply (h item).bind
      intro result
      cases result with
      | ok a => exact ih.map _
      | error cause => exact (isQuiet_note (by simp [Event.level])).bind fun _ => ih
  cases v with
  | list items => exact hgo items
  | _ => exact isQuiet_pure _

theorem isQuiet_record? {decode : Value → Logged (Except Mismatch α)}
    (h : ∀ v, (decode v).IsQuiet) (v : Value) : (record? decode v).IsQuiet :=
  (h v).bind fun _ => isQuiet_pure _

theorem isQuiet_tag (v : Value) : (tag v).IsQuiet :=
  isQuiet_build _ fun _ _ _ => isQuiet_pure _

theorem isQuiet_docComment (v : Value) : (docComment v).IsQuiet := by
  apply isQuiet_build
  intro r key w
  split
  · exact (isQuiet_entries isQuiet_tag w).bind fun _ => isQuiet_pure _
  · exact isQuiet_pure _

theorem isQuiet_returned (v : Value) : (returned v).IsQuiet := by
  apply isQuiet_build
  intro r key w
  split <;> exact isQuiet_pure _

theorem isQuiet_param (v : Value) : (param v).IsQuiet := by
  apply isQuiet_build
  intro r key w
  split <;> exact isQuiet_pure _

theorem isQuiet_method (v : Value) : (method v).IsQuiet := by
  apply isQuiet_build
  intro r key w
  split
  case h_2 => exact (isQuiet_entries isQuiet_param w).bind fun _ => isQuiet_pure _
  case h_3 => exact (isQuiet_record? isQuiet_returned w).bind fun _ => isQuiet_pure _
  case h_6 => exact (isQuiet_record? isQuiet_docComment w).bind fun _ => isQuiet_pure _
  all_goals exact isQuiet_pure _

theorem isQuiet_property (v : Value) : (property v).IsQuiet := by
  apply isQuiet_build
  intro r key w
  split <;> exact isQuiet_pure _

theorem isQuiet_sourceRange (v : Value) : (sourceRange v).IsQuiet := by
  apply isQuiet_build
  intro r key w
  split <;> exact isQuiet_pure _

theorem isQuiet_feature (v : Value) : (feature v).IsQuiet := by
  apply isQuiet_build
  intro r key w
  split
  case h_3 => exact (isQuiet_record? isQuiet_sourceRange w).bind fun _ => isQuiet_pure _
  case h_5 => exact (isQuiet_entries isQuiet_property w).bind fun _ => isQuiet_pure _
  case h_6 => exact (isQuiet_entries isQuiet_method w).bind fun _ => isQuiet_pure _
  case h_7 => exact (isQuiet_entries isQuiet_method w).bind fun _ => isQuiet_pure _
  all_goals exact isQuiet_pure _

theorem isQuiet_features (items : List Value) : (features items).IsQuiet := by
  induction items with
  | nil => exact isQuiet_pure _
  | cons item items ih =>
    apply (isQuiet_feature item).bind
    intro result
    cases result with
    | error cause => exact isQuiet_pure _
    | ok f => exact ih.map _

theorem isQuiet_featureList (v : Value) : (featureList v).IsQuiet := by
  cases v with
  | list items => exact isQuiet_features items
  | _ => exact isQuiet_pure _

theorem isQuiet_document (v : Value) : (document v).IsQuiet := by
  cases v with
  | object members =>
    unfold document
    dsimp only
    split
    · exact isQuiet_pure _
    · exact isQuiet_featureList _
    · exact (isQuiet_featureList _).bind fun _ => isQuiet_pure _
  | _ => exact isQuiet_featureList _

theorem isQuiet_decode (text : String) : (decode text).IsQuiet := by
  unfold decode
  split
  · exact isQuiet_pure _
  · apply (isQuiet_document _).bind
    intro result
    split
    · exact isQuiet_pure _
    · split <;> exact isQuiet_pure _

end Dump

theorem areQuiet_property (p : Property) : AreQuiet p.events := by
  unfold Property.events
  split <;> simp [AreQuiet, Event.level]

theorem areQuiet_method (options : EmitOptions) (m : Method) : AreQuiet (m.events options) := by
  unfold Method.events
  split
  · simp [AreQuiet, Event.level]
  · split <;> simp [AreQuiet, Event.level]

theorem areQuiet_feature (options : EmitOptions) (f : Feature) : AreQuiet (f.events options) := by
  have hmethods (ms : List Method) : AreQuiet (ms.flatMap (·.events options)) :=
    areQuiet_flatMap fun m _ => areQuiet_method options m
  have hmembers : AreQuiet (f.memberEvents options) := by
    refine areQuiet_append (areQuiet_append ?_ (hmethods _)) ?_
    · exact areQuiet_flatMap fun p _ => areQuiet_property p
    · split
      · exact hmethods _
      · simp [AreQuiet]
  unfold Feature.events
  split
  · unfold Feature.selectionEvents
    split <;> simp [AreQuiet, Event.level]
  · split
    · simp [AreQuiet, Event.level]
    · simp [AreQuiet, Event.level]
    · intro e he
      rcases List.mem_cons.mp he with rfl | he
      · simp [Event.level]
      · exact hmembers e he

theorem isQuiet_generate (features : List Feature) (options : EmitOptions) :
    (generate features options).IsQuiet := by
  refine areQuiet_append (areQuiet_flatMap fun f _ => areQuiet_feature options f) ?_
  simp [AreQuiet, Event.level]

theorem isQuiet_check (text : String) : (Script.check text).IsQuiet := by
  unfold Script.check
  split
  · exact isQuiet_pure _
  · exact (isQuiet_note (by simp [Event.level])).bind fun _ => isQuiet_pure _

end MixinExterns
