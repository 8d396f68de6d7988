import Mathlib.Algebra.GroupWithZero.Nat
import Mathlib.Data.List.SplitBy
import MixinExterns.Proofs.Externs.Layout

/-!
What the log says about the externs. Of each feature that is tagged as a mixin there is one decision,
in the order of the features, and behind it one event for each member that is left out. So the
members of an emitted mixin are those that it declares and those that the log names, and the last
event counts the mixins and the declarations that are written.
-/

namespace MixinExterns

namespace Event

/-- Whether an event tells what becomes of a mixin. -/
def isDecision : Event → Bool
  | testMixin .. | namelessMixin .. | foreignMixin .. | emittedMixin .. => true
  | _ => false

def isEmission : Event → Bool
  | emittedMixin .. => true
  | _ => false

def isSkippedProperty : Event → Bool
  | skippedProperty .. => true
  | _ => false

/-- Whether an event tells that a method is left out, as one that is inherited or for itself. -/
def isSkippedMethod : Event → Bool
  | skippedMethod .. | skippedInheritedMethod .. => true
  | _ => false

def isMemberEvent (e : Event) : Bool := e.isSkippedProperty || e.isSkippedMethod

/-- The log, cut in front of each event that is not about a member. What stands in a part behind its
first event belongs to that one. -/
def sections (log : List Event) : List (List Event) := log.splitBy fun _ e => e.isMemberEvent

/-- Parts of a log that each begin with an event of another kind, with events about members behind
it, are its sections. -/
theorem sections_flatten {parts : List (List Event)}
    (h : ∀ part ∈ parts, ∃ e members, part = e :: members ∧ e.isMemberEvent = false ∧
      ∀ m ∈ members, m.isMemberEvent = true) : sections parts.flatten = parts := by
  refine List.splitBy_flatten (fun hempty => ?_) (fun part hpart => ?_) ?_
  · obtain ⟨e, members, hpart, -⟩ := h [] hempty
    simp at hpart
  · obtain ⟨e, members, rfl, -, hmembers⟩ := h part hpart
    exact (List.pairwise_cons.mpr
      ⟨hmembers, List.pairwise_of_forall_mem_list fun _ _ m hm => hmembers m hm⟩).isChain
  · refine (List.pairwise_of_forall_mem_list fun a ha b hb => ?_).isChain
    obtain ⟨_, _, rfl, -⟩ := h a ha
    obtain ⟨e, members, rfl, he, -⟩ := h b hb
    exact ⟨by simp, by simp, he⟩

theorem isMemberEvent_of_isDecision {e : Event} (h : e.isDecision = true) :
    e.isMemberEvent = false := by
  cases e <;> simp_all [isDecision, isMemberEvent, isSkippedProperty, isSkippedMethod]

end Event

namespace Declaration

def isProperty : Declaration → Bool
  | property .. => true
  | _ => false

def isMethod : Declaration → Bool
  | method .. => true
  | _ => false

end Declaration

namespace Feature

/-- What is reported to become of a feature that is tagged as a mixin. -/
def decision (options : EmitOptions) (f : Feature) : Event :=
  if f.isTest then .testMixin f.name
  else
    match f.verdict options with
    | .nameless => .namelessMixin f.name
    | .foreign => .foreignMixin f.name options.policy
    | .emitted => .emittedMixin f.name f.typeName

/-- The declarations that are written for a feature. -/
def blocks (options : EmitOptions) (f : Feature) : List Declaration :=
  if f.isEmitted options then f.declarations options else []

/-- The methods that are looked at: those of the instances, and those of the mixin itself if they
are to be written. -/
def lookedAtMethods (options : EmitOptions) (f : Feature) : List Method :=
  f.methods ++ if options.staticMethods then f.staticMethods else []

/-- The number of members that are not left out. -/
def visibleMembers (options : EmitOptions) (f : Feature) : Nat :=
  (f.properties.filter (·.isVisible)).length +
    ((f.lookedAtMethods options).filter (·.isIncluded options)).length

end Feature

/-- Whether a part of a log accounts for a mixin: it begins with the decision on it, behind which
stand events about members only, and there none if the mixin is left out. Of an emitted mixin each
property and each method is a declaration or an event. -/
structure Feature.IsAccountedFor (options : EmitOptions) (f : Feature) (log : List Event) :
    Prop where
  decision : ∃ members, log = f.decision options :: members ∧
    ∀ e ∈ members, e.isMemberEvent = true ∧ e.level = .trace
  level : (f.decision options).level = .debug
  leftOut : (f.decision options).isEmission = false →
    log = [f.decision options] ∧ f.blocks options = []
  properties : (f.decision options).isEmission = true → f.properties.length =
    (f.blocks options).countP (·.isProperty) + log.countP (·.isSkippedProperty)
  methods : (f.decision options).isEmission = true → (f.lookedAtMethods options).length =
    (f.blocks options).countP (·.isMethod) + log.countP (·.isSkippedMethod)
  blocks : (f.decision options).isEmission = true → (f.blocks options).length =
    1 + f.visibleMembers options

section

variable {α : Type} {events : α → List Event} {counted : Event → Bool}

theorem countP_flatMap_eq_zero (h : ∀ a, (events a).countP counted = 0) (items : List α) :
    (items.flatMap events).countP counted = 0 := by
  simp [List.countP_flatMap, Function.comp_def, h]

/-- Items of which nothing is made may be dropped first. -/
theorem flatMap_filter_of_nil {β : Type} {p : α → Bool} {make : α → List β}
    (h : ∀ a, p a = false → make a = []) (items : List α) :
    (items.filter p).flatMap make = items.flatMap make := by
  induction items with
  | nil => rfl
  | cons a items ih =>
    cases ha : p a with
    | true => rw [List.filter_cons_of_pos ha, List.flatMap_cons, List.flatMap_cons, ih]
    | false =>
      rw [List.filter_cons_of_neg (by simp [ha]), List.flatMap_cons, h a ha, List.nil_append, ih]

/-- Items of which each is shown or leaves one event are as many as those shown and the events. -/
theorem length_eq_shown_add_events {shown : α → Bool}
    (h : ∀ a, (events a).countP counted = if shown a then 0 else 1) (items : List α) :
    items.length = (items.filter shown).length + (items.flatMap events).countP counted := by
  induction items with
  | nil => rfl
  | cons a items ih =>
    rw [List.flatMap_cons, List.countP_append, h, List.filter_cons, List.length_cons, ih]
    cases shown a with
    | true => simp only [if_true, List.length_cons]; omega
    | false => simp only [Bool.false_eq_true, if_false]; omega

end

theorem Property.countP_events (p : Property) :
    p.events.countP (·.isSkippedProperty) = (if p.isVisible then 0 else 1) ∧
      p.events.countP (·.isSkippedMethod) = 0 := by
  unfold Property.events
  split <;> exact ⟨rfl, rfl⟩

section

variable {options : EmitOptions}

/-- A method that cannot be declared at all is not included either. -/
theorem Method.countP_events (options : EmitOptions) (m : Method) :
    (m.events options).countP (·.isSkippedMethod) = (if m.isIncluded options then 0 else 1) ∧
      (m.events options).countP (·.isSkippedProperty) = 0 := by
  unfold Method.events
  cases hvisible : m.isVisible with
  | false => simp [Method.isIncluded, hvisible, Event.isSkippedMethod, Event.isSkippedProperty]
  | true =>
    cases m.isIncluded options <;> exact ⟨rfl, rfl⟩

theorem Property.isMemberEvent_of_mem {p : Property} {e : Event} (h : e ∈ p.events) :
    e.isMemberEvent = true ∧ e.level = .trace := by
  unfold Property.events at h
  split at h
  · simp at h
  · obtain rfl := List.mem_singleton.mp h
    exact ⟨rfl, rfl⟩

theorem Method.isMemberEvent_of_mem {m : Method} {e : Event} (h : e ∈ m.events options) :
    e.isMemberEvent = true ∧ e.level = .trace := by
  unfold Method.events at h
  split at h
  · obtain rfl := List.mem_singleton.mp h
    exact ⟨rfl, rfl⟩
  · split at h
    · simp at h
    · obtain rfl := List.mem_singleton.mp h
      exact ⟨rfl, rfl⟩

namespace Feature

theorem memberEvents_eq (f : Feature) : f.memberEvents options =
    f.properties.flatMap (·.events) ++ (f.lookedAtMethods options).flatMap (·.events options) := by
  unfold memberEvents lookedAtMethods
  split <;> simp

theorem isMemberEvent_of_mem {f : Feature} {e : Event} (h : e ∈ f.memberEvents options) :
    e.isMemberEvent = true ∧ e.level = .trace := by
  rw [memberEvents_eq, List.mem_append, List.mem_flatMap, List.mem_flatMap] at h
  rcases h with ⟨p, -, h⟩ | ⟨m, -, h⟩
  · exact Property.isMemberEvent_of_mem h
  · exact Method.isMemberEvent_of_mem h

theorem length_properties (f : Feature) : f.properties.length =
    (f.properties.filter (·.isVisible)).length +
      (f.memberEvents options).countP (·.isSkippedProperty) := by
  have hproperties := length_eq_shown_add_events (fun p => (Property.countP_events p).1) f.properties
  have hmethods := countP_flatMap_eq_zero
    (fun m => (Method.countP_events options m).2) (f.lookedAtMethods options)
  rw [memberEvents_eq, List.countP_append, hmethods]
  exact hproperties

theorem length_methods (f : Feature) : (f.lookedAtMethods options).length =
    ((f.lookedAtMethods options).filter (·.isIncluded options)).length +
      (f.memberEvents options).countP (·.isSkippedMethod) := by
  have hmethods := length_eq_shown_add_events
    (fun m => (Method.countP_events options m).1) (f.lookedAtMethods options)
  have hproperties := countP_flatMap_eq_zero (fun p => (Property.countP_events p).2) f.properties
  rw [memberEvents_eq, List.countP_append, hproperties, Nat.zero_add]
  exact hmethods

theorem filter_lookedAtMethods (f : Feature) :
    (f.lookedAtMethods options).filter (·.isIncluded options) =
      f.includedMethods options ++ f.includedStatics options := by
  unfold lookedAtMethods includedMethods includedStatics
  split <;> simp

theorem countP_declarations (options : EmitOptions) (f : Feature) :
    (f.declarations options).countP (·.isProperty) =
        (f.properties.filter (·.isVisible)).length ∧
      (f.declarations options).countP (·.isMethod) =
        ((f.lookedAtMethods options).filter (·.isIncluded options)).length ∧
      (f.declarations options).length = 1 + f.visibleMembers options := by
  have hproperty (p : Property) : (p.declaration f.typeName).isProperty = true ∧
      (p.declaration f.typeName).isMethod = false := ⟨rfl, rfl⟩
  have hmethod (target : String) (m : Method) : (m.declaration options target).isMethod = true ∧
      (m.declaration options target).isProperty = false := ⟨rfl, rfl⟩
  have hrecord : (Declaration.record f.typeName options.inheritance f.parentTypes).isProperty =
      false ∧ (Declaration.record f.typeName options.inheritance f.parentTypes).isMethod = false :=
    ⟨rfl, rfl⟩
  rw [declarations_included, visibleMembers, filter_lookedAtMethods]
  refine ⟨?_, ?_, ?_⟩
  · simp [List.countP_map, Function.comp_def, hproperty, hmethod, hrecord, List.countP_true]
  · simp [List.countP_map, Function.comp_def, hproperty, hmethod, hrecord, List.countP_true]
  · simp only [List.length_append, List.length_cons, List.length_map]
    omega

theorem isEmission_decision (f : Feature) : (f.decision options).isEmission =
    (!f.isTest && decide (f.verdict options = .emitted)) := by
  unfold decision
  cases f.isTest with
  | true => rfl
  | false => cases f.verdict options <;> rfl

theorem isDecision_decision (f : Feature) : (f.decision options).isDecision = true := by
  unfold decision
  split
  · rfl
  · cases f.verdict options <;> rfl

theorem level_decision (f : Feature) : (f.decision options).level = .debug := by
  unfold decision
  split
  · rfl
  · cases f.verdict options <;> rfl

/-- A feature that is not tagged as a mixin leaves no event. -/
theorem events_of_not_isMixin {f : Feature} (h : f.isMixin = false) : f.events options = [] := by
  simp [events, isSelected, selectionEvents, h]

/-- Of a mixin the log tells the decision, and behind that on an emitted one which members are left
out. -/
theorem events_of_isMixin (options : EmitOptions) {f : Feature} (h : f.isMixin = true) :
    f.events options = f.decision options ::
      if (f.decision options).isEmission then f.memberEvents options else [] := by
  rw [isEmission_decision]
  unfold events decision
  cases htest : f.isTest with
  | true => simp [isSelected, selectionEvents, h, htest]
  | false => cases hverdict : f.verdict options <;> simp [isSelected, h, htest]

theorem isEmitted_of_isMixin {f : Feature} (h : f.isMixin = true) :
    f.isEmitted options = (f.decision options).isEmission := by
  rw [isEmission_decision, isEmitted, isSelected, h, Bool.true_and]

theorem isAccountedFor (options : EmitOptions) {f : Feature} (h : f.isMixin = true) :
    f.IsAccountedFor options (f.events options) := by
  have hevents := events_of_isMixin options h
  have hblocks : f.blocks options =
      if (f.decision options).isEmission then f.declarations options else [] := by
    rw [blocks, isEmitted_of_isMixin h]
  obtain ⟨hproperties, hmethods, hlength⟩ := f.countP_declarations options
  have hdecision : (f.decision options).isSkippedProperty = false ∧
      (f.decision options).isSkippedMethod = false := by
    unfold decision
    split
    · exact ⟨rfl, rfl⟩
    · cases f.verdict options <;> exact ⟨rfl, rfl⟩
  constructor
  case decision =>
    refine ⟨_, hevents, fun e he => ?_⟩
    split at he
    · exact isMemberEvent_of_mem he
    · simp at he
  case level => exact f.level_decision
  case leftOut =>
    intro hout
    rw [hevents, hblocks, hout]
    exact ⟨rfl, rfl⟩
  case properties =>
    intro hemitted
    rw [hevents, hblocks, hemitted, if_pos rfl, if_pos rfl, hproperties,
      List.countP_cons_of_neg (by simp [hdecision.1])]
    exact f.length_properties
  case methods =>
    intro hemitted
    rw [hevents, hblocks, hemitted, if_pos rfl, if_pos rfl, hmethods,
      List.countP_cons_of_neg (by simp [hdecision.2])]
    exact f.length_methods
  case blocks =>
    intro hemitted
    rw [hblocks, hemitted, if_pos rfl, hlength]

end Feature

namespace Externs

theorem events_tagged (features : List Feature) : features.flatMap (·.events options) =
    (features.filter (·.isMixin)).flatMap (·.events options) :=
  (flatMap_filter_of_nil (fun _ hf => Feature.events_of_not_isMixin hf) features).symm

/-- In what is reported of a mixin the decision stands out among the events about members. -/
theorem filter_isDecision_events {f : Feature} (h : f.isMixin = true) :
    (f.events options).filter (·.isDecision) = [f.decision options] := by
  obtain ⟨members, hevents, hmembers⟩ := (Feature.isAccountedFor options h).decision
  have hnone : members.filter (·.isDecision) = [] := by
    refine List.filter_eq_nil_iff.mpr fun e he => ?_
    intro hdecision
    have hmember := (hmembers e he).1
    simp [Event.isMemberEvent_of_isDecision hdecision] at hmember
  rw [hevents, List.filter_cons_of_pos f.isDecision_decision, hnone]

theorem filter_isDecision_log (features : List Feature) :
    (generate features options).events.filter (·.isDecision) =
      (features.filter (·.isMixin)).map (·.decision options) := by
  have hlast : (generate features options).events.filter (·.isDecision) =
      (features.flatMap (·.events options)).filter (·.isDecision) := by
    simp [generate, events, Event.isDecision]
  rw [hlast, events_tagged, List.filter_flatMap, List.map_eq_flatMap]
  exact List.flatMap_congr fun f hf => filter_isDecision_events (List.mem_filter.mp hf).2

theorem mixins_eq (features : List Feature) : mixins features options =
    (features.filter (·.isMixin)).filter fun f => (f.decision options).isEmission := by
  rw [List.filter_filter]
  refine List.filter_congr fun f _ => ?_
  cases hf : f.isMixin with
  | true => rw [Feature.isEmitted_of_isMixin hf, Bool.and_true]
  | false => simp [Feature.isEmitted, Feature.isSelected, hf]

theorem declarations_blocks (features : List Feature) : declarations features options =
    (features.filter (·.isMixin)).flatMap (·.blocks options) := by
  have htagged : ∀ f : Feature, f.isMixin = false → f.blocks options = [] := by
    intro f hf
    simp [Feature.blocks, Feature.isEmitted, Feature.isSelected, hf]
  have hemitted : ∀ f : Feature, f.isEmitted options = false → f.blocks options = [] := by
    intro f hf
    simp [Feature.blocks, hf]
  rw [flatMap_filter_of_nil htagged, ← flatMap_filter_of_nil hemitted]
  refine List.flatMap_congr fun f hf => ?_
  rw [Feature.blocks, if_pos (List.mem_filter.mp hf).2]

/-- As many mixins are emitted as the decisions in the log say. -/
theorem countP_isEmission (features : List Feature) :
    (generate features options).events.countP (·.isEmission) =
      (mixins features options).length := by
  have hdecision : ∀ e : Event, (e.isEmission && e.isDecision) = e.isEmission := by
    intro e
    cases e <;> rfl
  calc
    (generate features options).events.countP (·.isEmission)
      = ((generate features options).events.filter (·.isDecision)).countP (·.isEmission) := by
        simp [List.countP_filter, hdecision]
    _ = ((features.filter (·.isMixin)).map (·.decision options)).countP (·.isEmission) := by
        rw [filter_isDecision_log]
    _ = (mixins features options).length := by
        rw [List.countP_map, List.countP_eq_length_filter, mixins_eq]
        rfl

theorem length_declarations (features : List Feature) : (declarations features options).length =
    (mixins features options).length +
      ((mixins features options).map (·.visibleMembers options)).sum := by
  unfold declarations
  induction mixins features options with
  | nil => rfl
  | cons f emitted ih =>
    simp only [List.flatMap_cons, List.length_append, List.length_cons, List.map_cons,
      List.sum_cons, (f.countP_declarations options).2.2, ih]
    omega

/-- The sections of the log are what is reported of one tagged feature after the other, and the
event at the end. -/
theorem sections_events (features : List Feature) :
    Event.sections (generate features options).events =
      (features.filter (·.isMixin)).map (·.events options) ++
        [[.generated (mixins features options).length (declarations features options).length]] := by
  have hlog : (generate features options).events =
      ((features.filter fun f => f.isMixin).map (fun f => f.events options) ++
        [[Event.generated (mixins features options).length
          (declarations features options).length]]).flatten := by
    rw [List.flatten_append, ← List.flatMap_def, ← events_tagged]
    simp [generate, events]
  rw [hlog]
  refine Event.sections_flatten fun part hpart => ?_
  rcases List.mem_append.mp hpart with hpart | hpart
  · obtain ⟨f, hf, rfl⟩ := List.mem_map.mp hpart
    obtain ⟨members, hevents, hmembers⟩ :=
      (Feature.isAccountedFor options (List.mem_filter.mp hf).2).decision
    exact ⟨_, members, hevents, Event.isMemberEvent_of_isDecision f.isDecision_decision,
      fun e he => (hmembers e he).1⟩
  · obtain rfl := List.mem_singleton.mp hpart
    exact ⟨_, [], rfl, rfl, by simp⟩

/-- The log accounts for all mixins and their members. It has one decision for each feature that is
tagged as a mixin, in order, and none for others. The events about members behind a decision belong
to that mixin, and together with what is written for it they account for it. At the end of the log
stands how many mixins are emitted and how many declarations are written: one for each emitted mixin
and one for each of its visible members. -/
theorem log_accounts (features : List Feature) (options : EmitOptions) :
    (generate features options).events.filter (·.isDecision) =
      (features.filter (·.isMixin)).map (·.decision options) ∧
    Event.sections (generate features options).events =
      (features.filter (·.isMixin)).map (·.events options) ++
        [[.generated ((generate features options).events.countP (·.isEmission))
          ((features.filter (·.isMixin)).flatMap (·.blocks options)).length]] ∧
    (∀ f ∈ features.filter (·.isMixin), f.IsAccountedFor options (f.events options)) ∧
    (generate features options).value = layOut (headerPart options.header ++
      ((features.filter (·.isMixin)).flatMap (·.blocks options)).map (·.text)) ∧
    ((features.filter (·.isMixin)).flatMap (·.blocks options)).length =
      (generate features options).events.countP (·.isEmission) +
        ((mixins features options).map (·.visibleMembers options)).sum := by
  refine ⟨filter_isDecision_log features, ?_,
    fun f hf => Feature.isAccountedFor options (List.mem_filter.mp hf).2, ?_, ?_⟩
  · rw [sections_events, countP_isEmission, declarations_blocks]
  · rw [← declarations_blocks, generate, text]
  · rw [← declarations_blocks, length_declarations, countP_isEmission]

/-- One of the features is emitted, one is a test, one has no name behind its last dot, and one is no
mixin. -/
def assorted : List Feature :=
  [{ name := "Ui.Panel", kinds := ["element-mixin"],
     properties := [{ name := "open" }, { name := "height", privacy := .ownerOnly }],
     methods := [{ name := "toggle" }, { name := "_measure", privacy := .ownerOnly }] },
   { name := "Ui.Fake", kinds := ["element-mixin"], methods := [{ name := "_a" }],
     sourceRange := some { file := some "test/fake.js" } },
   { name := "Ui.", kinds := ["element-mixin"] },
   { name := "Ui.Element", kinds := ["element"] }]

theorem log_accounts_assorted :
    Event.sections (generate assorted {}).events =
      [[.emittedMixin "Ui.Panel" "Ui_Panel", .skippedProperty "height" .ownerOnly false,
        .skippedMethod "_measure" .ownerOnly], [.testMixin "Ui.Fake"], [.namelessMixin "Ui."],
       [.generated 1 3]] := by
  obtain ⟨-, hsections, -⟩ := log_accounts assorted {}
  rw [hsections]
  decide

end Externs

end

end MixinExterns
