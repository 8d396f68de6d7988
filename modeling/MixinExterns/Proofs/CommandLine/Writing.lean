import Mathlib.Data.List.Nodup
import Mathlib.Data.List.Perm.Basic
import MixinExterns.Proofs.CommandLine.Verbosity

/-!
Arguments as they may be written. A switch has a name and perhaps a letter; an option has its value
behind it in one of five ways; letters may be clustered; the root stands anywhere, or at the end
behind a lone `--`. However the settings are written, and in whatever order, they parse to the
arguments that they make up.
-/

namespace MixinExterns

namespace CommandLine

/-- One thing that arguments say. -/
inductive Setting where
  | switch (s : Switch)
  | choice (c : Choice) (value : String)
  | root (value : String)
  deriving DecidableEq, Repr

/-- What is set by a setting. Nothing may be set twice. -/
inductive Subject where
  | switch (s : Switch)
  | choice (c : Choice)
  | root
  deriving DecidableEq, Repr

def Subject.all : List Subject :=
  Switch.all.map .switch ++ Choice.all.map .choice ++ [.root]

namespace Setting

def subject : Setting → Subject
  | switch s => .switch s
  | choice c _ => .choice c
  | root _ => .root

/-- Whether the value, if it is a path, is one. -/
def IsValid : Setting → Prop
  | switch _ => True
  | choice c value => c.isPath = true → value ≠ ""
  | root value => value ≠ ""

/-- The arguments with one more setting. -/
def apply (a : Arguments) : Setting → Arguments
  | switch s => a.turnOn s
  | choice c value => a.choose value c
  | root value => { a with root := value }

end Setting

/-- The ways to write settings by letters behind one hyphen, and what follows in an argument of its
own. -/
inductive Letters : List Setting → List Char → List String → Prop where
  | switch {s : Switch} {letter : Char} (hs : s.letter? = some letter) :
      Letters [.switch s] [letter] []
  /-- The value stands in the next argument. -/
  | apart {c : Choice} {letter : Char} (hc : c.letter? = some letter) {value : String}
      (hvalue : value.toList.head? ≠ some '-') : Letters [.choice c value] [letter] [value]
  /-- The value stands right behind the letter. -/
  | joined {c : Choice} {letter : Char} (hc : c.letter? = some letter) {value : String}
      (hvalue : value.toList.head? ≠ some '=') :
      Letters [.choice c value] (letter :: value.toList) []
  /-- The value stands behind an equals sign. -/
  | equated {c : Choice} {letter : Char} (hc : c.letter? = some letter) (value : String) :
      Letters [.choice c value] (letter :: '=' :: value.toList) []
  /-- The letter of a switch stands in front of others. -/
  | cluster {s : Switch} {letter : Char} (hs : s.letter? = some letter) {settings : List Setting}
      {letters : List Char} {next : List String} (h : Letters settings letters next) :
      Letters (.switch s :: settings) (letter :: letters) next

/-- The ways to write settings that belong together. -/
inductive Spelling : List Setting → List String → Prop where
  | name (s : Switch) : Spelling [.switch s] ["--" ++ s.longName]
  | apart (c : Choice) {value : String} (hvalue : value.toList.head? ≠ some '-') :
      Spelling [.choice c value] ["--" ++ c.longName, value]
  | equated (c : Choice) (value : String) :
      Spelling [.choice c value] ["--" ++ c.longName ++ "=" ++ value]
  | letters {settings : List Setting} {letters : List Char} {next : List String}
      (h : Letters settings letters next) :
      Spelling settings (String.ofList ('-' :: letters) :: next)
  | root {value : String} (hvalue : value.toList.head? ≠ some '-') :
      Spelling [.root value] [value]

/-- The ways to write settings one after the other. -/
inductive Spelled : List Setting → List String → Prop where
  | nil : Spelled [] []
  | cons {settings later : List Setting} {words rest : List String} (h : Spelling settings words)
      (hlater : Spelled later rest) : Spelled (settings ++ later) (words ++ rest)

/-- The ways to write all settings. -/
inductive Written : List Setting → List String → Prop where
  | spelled {settings : List Setting} {words : List String} (h : Spelled settings words) :
      Written settings words
  /-- At the end the root may stand behind a lone `--`, and begin in any way. -/
  | dashes {settings : List Setting} {words : List String} (h : Spelled settings words)
      (value : String) : Written (settings ++ [.root value]) (words ++ ["--", value])

end CommandLine

open CommandLine (Setting Subject)

namespace Arguments

/-- What the arguments say of a subject, if anything. -/
def setting? (a : Arguments) : Subject → Option Setting
  | .switch s => if a.has s then some (.switch s) else none
  | .choice c => (a.value? c).map (.choice c)
  | .root => some (.root a.root)

/-- All that the arguments say. -/
def settings (a : Arguments) : List Setting :=
  Subject.all.filterMap a.setting?

/-- Whether settings make up the arguments, each of them given once and in any order. The root may
be left out if it is the default. -/
def SaidBy (a : Arguments) (settings : List Setting) : Prop :=
  settings.Perm a.settings ∨ (.root "." :: settings).Perm a.settings

theorem subject_of_setting? {a : Arguments} {u : Subject} {x : Setting}
    (h : a.setting? u = some x) : x.subject = u := by
  unfold setting? at h
  split at h
  · split at h
    · cases h
      rfl
    · cases h
  · obtain ⟨value, -, rfl⟩ := Option.map_eq_some_iff.mp h
    rfl
  · cases h
    rfl

theorem mem_settings {a : Arguments} {x : Setting} :
    x ∈ a.settings ↔ a.setting? x.subject = some x := by
  have hall (u : Subject) : u ∈ Subject.all := by
    rcases u with s | c | _
    · cases s <;> decide
    · cases c <;> decide
    · decide
  rw [settings, List.mem_filterMap]
  constructor
  · rintro ⟨u, -, hu⟩
    rwa [subject_of_setting? hu]
  · intro h
    exact ⟨x.subject, hall _, h⟩

theorem nodup_settings (a : Arguments) : (a.settings.map Setting.subject).Nodup := by
  have hsubject (u : Subject) :
      (a.setting? u).map Setting.subject = Option.guard (fun u => (a.setting? u).isSome) u := by
    cases hu : a.setting? u with
    | none => simp [Option.guard, hu]
    | some x => simp [Option.guard, hu, subject_of_setting? hu]
  rw [settings, List.map_filterMap, funext hsubject, List.filterMap_eq_filter]
  exact List.Nodup.filter _ (by decide)

theorem setting?_switch_eq_none {a : Arguments} {s : Switch} :
    a.setting? (.switch s) = none ↔ a.has s = false := by
  simp [setting?]

theorem setting?_choice_eq_none {a : Arguments} {c : Choice} :
    a.setting? (.choice c) = none ↔ a.value? c = none := by
  simp [setting?]

theorem setting?_default {u : Subject} (h : u ≠ .root) :
    ({} : Arguments).setting? u = none := by
  rcases u with s | c | _
  · cases s <;> rfl
  · cases c <;> rfl
  · exact absurd rfl h

theorem eq_of_setting? {a b : Arguments} (h : ∀ u, a.setting? u = b.setting? u) : a = b := by
  have hhas (s : Switch) : a.has s = b.has s := by
    have hs := h (.switch s)
    simp only [setting?] at hs
    split at hs <;> split at hs <;> simp_all
  have hvalue (c : Choice) : a.value? c = b.value? c :=
    Option.map_injective (fun _ _ hx => (Setting.choice.inj hx).2) (h (.choice c))
  have hroot : a.root = b.root := Setting.root.inj (Option.some.inj (h .root))
  cases a
  cases b
  rw [Arguments.mk.injEq]
  exact ⟨hroot, hvalue .analysis, hvalue .config, hvalue .output, hvalue .onlyNamespace,
    hhas .skipInheritedMethods, hhas .noStaticMethods, hhas .noUndefinedReturn,
    hhas .keepOverrideParams, hhas .implements, hhas .check, hhas .verbose, hhas .quiet⟩

theorem setting?_apply (a : Arguments) (x : Setting) (u : Subject) :
    (x.apply a).setting? u = if x.subject = u then some x else a.setting? u := by
  rcases x with s | ⟨c, value⟩ | value
  · cases s <;> rcases u with s' | c' | _ <;> first | rfl | cases s' <;> rfl
  · cases c <;> rcases u with s' | c' | _ <;> first | rfl | cases c' <;> rfl
  · rcases u with s' | c' | _ <;> rfl

variable {settings : List Setting} {a : Arguments}

theorem setting?_foldl_of_not_mem {u : Subject} (h : u ∉ settings.map Setting.subject) :
    (settings.foldl Setting.apply a).setting? u = a.setting? u := by
  induction settings generalizing a with
  | nil => rfl
  | cons x rest ih =>
    rw [List.map_cons, List.mem_cons, not_or] at h
    rw [List.foldl_cons, ih h.2, setting?_apply, if_neg (Ne.symm h.1)]

theorem setting?_foldl_of_mem (hnodup : (settings.map Setting.subject).Nodup) {x : Setting}
    (hx : x ∈ settings) : (settings.foldl Setting.apply a).setting? x.subject = some x := by
  induction settings generalizing a with
  | nil => cases hx
  | cons y rest ih =>
    rw [List.map_cons, List.nodup_cons] at hnodup
    rw [List.foldl_cons]
    rcases List.mem_cons.mp hx with rfl | hx
    · rw [setting?_foldl_of_not_mem hnodup.1, setting?_apply, if_pos rfl]
    · exact ih hnodup.2 hx

theorem SaidBy.mem (h : a.SaidBy settings) {x : Setting} (hx : x ∈ settings) : x ∈ a.settings := by
  rcases h with h | h
  · exact h.mem_iff.mp hx
  · exact h.mem_iff.mp (List.mem_cons_of_mem _ hx)

theorem SaidBy.nodup (h : a.SaidBy settings) : (settings.map Setting.subject).Nodup := by
  rcases h with h | h
  · exact (h.map _).nodup_iff.mpr a.nodup_settings
  · exact ((h.map _).nodup_iff.mpr a.nodup_settings).of_cons

/-- The settings of arguments, applied to the defaults, give the arguments. -/
theorem SaidBy.foldl_apply (h : a.SaidBy settings) : settings.foldl Setting.apply {} = a := by
  apply eq_of_setting?
  intro u
  by_cases hu : u ∈ settings.map Setting.subject
  · obtain ⟨x, hx, rfl⟩ := List.mem_map.mp hu
    rw [setting?_foldl_of_mem h.nodup hx, mem_settings.mp (h.mem hx)]
  · rw [setting?_foldl_of_not_mem hu]
    cases ha : a.setting? u with
    | none =>
      have hroot : u ≠ .root := by
        rintro rfl
        cases ha
      exact setting?_default hroot
    | some x =>
      obtain rfl := subject_of_setting? ha
      have hx : x ∉ settings := fun hx => hu (List.mem_map_of_mem hx)
      rcases h with h | h
      · exact absurd (h.mem_iff.mpr (mem_settings.mpr ha)) hx
      · rcases List.mem_cons.mp (h.mem_iff.mpr (mem_settings.mpr ha)) with rfl | hx'
        · rfl
        · exact absurd hx' hx

end Arguments

namespace CommandLine

theorem ofLetter?_of_switch {s : Switch} {letter : Char} (h : s.letter? = some letter) :
    ofLetter? letter = some (.switch s) ∧ letter ≠ '-' := by
  cases s <;> cases h <;> decide

theorem ofLetter?_of_choice {c : Choice} {letter : Char} (h : c.letter? = some letter) :
    ofLetter? letter = some (.choice c) ∧ letter ≠ '-' := by
  cases c <;> cases h <;> decide

theorem isPath_of_letter? {c : Choice} {letter : Char} (h : c.letter? = some letter) :
    c.isPath = true := by
  cases c <;> first | rfl | cases h

theorem Letters.exists_cons {settings : List Setting} {letters : List Char} {next : List String}
    (h : Letters settings letters next) :
    ∃ letter rest, letters = letter :: rest ∧ letter ≠ '-' := by
  cases h with
  | switch hs | cluster hs => exact ⟨_, _, rfl, (ofLetter?_of_switch hs).2⟩
  | apart hc | joined hc | equated hc => exact ⟨_, _, rfl, (ofLetter?_of_choice hc).2⟩

namespace Progress

variable {p q : Progress}

theorem takeLong_switch (p : Progress) (s : Switch) :
    p.takeLong s.longName.toList = p.turnOn s := by
  cases s <;> rfl

theorem takeLong_choice (p : Progress) (c : Choice) :
    p.takeLong c.longName.toList = p.take c none := by
  cases c <;> rfl

theorem takeLong_choice_equated (p : Progress) (c : Choice) (value : List Char) :
    p.takeLong (c.longName.toList ++ '=' :: value) = p.take c (some (String.ofList value)) := by
  cases c <;> rfl

/-- Where parsing is when it has taken settings and nothing is pending. -/
def after (settings : List Setting) : Progress where
  arguments := settings.foldl Setting.apply {}
  hasRoot := settings.any (·.subject = .root)

/-- Parsing has taken the settings and nothing else. The last one may still be pending. -/
def Said (p : Progress) (settings : List Setting) : Prop :=
  p.settle = .ok (after settings)

/-- To take what `op` takes says the settings, if they are new. -/
def Says (op : Progress → Except ArgumentFault Progress) (settings : List Setting) : Prop :=
  ∀ ⦃p earlier⦄, Said p earlier → ((earlier ++ settings).map Setting.subject).Nodup →
    (∀ x ∈ settings, x.IsValid) → ∃ r, op p = .ok r ∧ Said r (earlier ++ settings)

variable {settings earlier : List Setting} {op op' : Progress → Except ArgumentFault Progress}

theorem after_concat (earlier : List Setting) (x : Setting) :
    after (earlier ++ [x]) =
      { after earlier with
        arguments := x.apply (after earlier).arguments
        hasRoot := (after earlier).hasRoot || x.subject = .root } := by
  simp [after]

theorem setting?_after {u : Subject} (h : u ∉ earlier.map Setting.subject) (hroot : u ≠ .root) :
    (after earlier).arguments.setting? u = none :=
  (Arguments.setting?_foldl_of_not_mem h).trans (Arguments.setting?_default hroot)

theorem has_after {s : Switch} (h : .switch s ∉ earlier.map Setting.subject) :
    (after earlier).arguments.has s = false :=
  Arguments.setting?_switch_eq_none.mp (setting?_after h (by simp))

theorem value?_after {c : Choice} (h : .choice c ∉ earlier.map Setting.subject) :
    (after earlier).arguments.value? c = none :=
  Arguments.setting?_choice_eq_none.mp (setting?_after h (by simp))

theorem hasRoot_after (h : .root ∉ earlier.map Setting.subject) :
    (after earlier).hasRoot = false := by
  simpa [after] using h

theorem said_after (settings : List Setting) : Said (after settings) settings :=
  settle_of_nothing rfl

theorem Said.onlyRoot (h : Said p earlier) : p.onlyRoot = false :=
  (places_of_settle h).2.2.symm

theorem says_nothing : Says .ok [] := by
  intro p earlier h _ _
  exact ⟨p, rfl, by rwa [List.append_nil]⟩

theorem Says.bind {f g : Progress → Except ArgumentFault Progress} {later : List Setting}
    (hf : Says f settings) (hg : Says g later) :
    Says (fun p => f p >>= g) (settings ++ later) := by
  intro p earlier h hnodup hvalid
  rw [← List.append_assoc] at hnodup ⊢
  have hnodup' : ((earlier ++ settings).map Setting.subject).Nodup := by
    rw [List.map_append] at hnodup
    exact hnodup.of_append_left
  obtain ⟨q, hq, hsaid⟩ := hf h hnodup' fun x hx => hvalid x (List.mem_append_left _ hx)
  obtain ⟨r, hr, hsaid⟩ := hg hsaid hnodup fun x hx => hvalid x (List.mem_append_right _ hx)
  exact ⟨r, bind_eq_ok_iff.mpr ⟨q, hq, hr⟩, hsaid⟩

theorem Says.congr (h : Says op settings)
    (hop : (∀ x ∈ settings, x.IsValid) → ∀ p, p.onlyRoot = false → op' p = op p) :
    Says op' settings := by
  intro p earlier hp hnodup hvalid
  rw [hop hvalid p hp.onlyRoot]
  exact h hp hnodup hvalid

theorem says_one {x : Setting}
    (h : ∀ ⦃p earlier⦄, Said p earlier → x.subject ∉ earlier.map Setting.subject → x.IsValid →
      ∃ r, op p = .ok r ∧ Said r (earlier ++ [x])) : Says op [x] := by
  intro p earlier hp hnodup hvalid
  rw [List.map_append] at hnodup
  exact h hp (fun hx => hnodup.disjoint hx (List.mem_singleton_self _))
    (hvalid x (List.mem_singleton_self x))

theorem says_turnOn (s : Switch) : Says (·.turnOn s) [.switch s] := by
  apply says_one
  intro p earlier hp hnew _
  refine ⟨after (earlier ++ [.switch s]), ?_, said_after _⟩
  refine bind_eq_ok_iff.mpr ⟨after earlier, hp, ?_⟩
  rw [if_neg (by simp [has_after hnew]), after_concat]
  simp [Setting.apply, Setting.subject, pure, Except.pure]

/-- A value that is looked at. -/
theorem choose_after {c : Choice} {value : String}
    (hnew : .choice c ∉ earlier.map Setting.subject) (hvalid : (Setting.choice c value).IsValid)
    (pending : Pending) :
    { after earlier with pending }.choose c value = .ok (after (earlier ++ [.choice c value])) := by
  refine choose_eq_ok.mpr ⟨value?_after hnew, ?_, ?_⟩
  · simpa [Setting.IsValid] using hvalid
  · rw [after_concat]
    simp [Setting.apply, Setting.subject, after]

theorem says_take (c : Choice) (value : String) :
    Says (·.take c (some value)) [.choice c value] := by
  apply says_one
  intro p earlier hp hnew hvalid
  refine ⟨after (earlier ++ [.choice c value]), ?_, said_after _⟩
  exact bind_eq_ok_iff.mpr ⟨after earlier, hp, choose_after hnew hvalid .nothing⟩

/-- The value of the option stands in the next argument. It stays pending. -/
theorem says_take_step (c : Choice) {value : String} (hvalue : value.toList.head? ≠ some '-') :
    Says (fun p => p.take c none >>= (·.step value)) [.choice c value] := by
  apply says_one
  intro p earlier hp hnew hvalid
  refine ⟨{ after earlier with pending := .chosen c value }, ?_, choose_after hnew hvalid _⟩
  refine bind_eq_ok_iff.mpr ⟨{ after earlier with pending := .awaited c }, ?_, ?_⟩
  · exact bind_eq_ok_iff.mpr ⟨after earlier, hp, rfl⟩
  · rw [step_of_plain rfl (by grind)]
    rfl

/-- A root that is not the value of an option stays pending, too. -/
theorem takePlain_root {value : String} (h : p.settle = .ok q) (hroot : q.hasRoot = false)
    (hvalue : value ≠ "") :
    ∃ r, p.takePlain value = .ok r ∧ r.settle =
      .ok { q with arguments := { q.arguments with root := value }, hasRoot := true } := by
  obtain ⟨hnothing, hroot', -⟩ := places_of_settle h
  have hawaited (c : Choice) : p.pending ≠ .awaited c := by
    intro hc
    simp [settle, hc] at h
  refine ⟨{ q with pending := .root value, hasRoot := true }, ?_, ?_⟩
  · rw [takePlain_of_not_awaited hawaited, ← hroot', if_neg (by simp [hroot]), h]
    rfl
  · simp [settle, hvalue, hnothing]

theorem says_root {value : String} (hvalue : value.toList.head? ≠ some '-') :
    Says (·.step value) [.root value] := by
  apply says_one
  intro p earlier hp hnew hvalid
  obtain ⟨r, hr, hsaid⟩ := takePlain_root hp (hasRoot_after hnew) hvalid
  refine ⟨r, ?_, ?_⟩
  · rw [step_of_plain hp.onlyRoot (by grind)]
    exact hr
  · rw [Said, hsaid, after_concat]
    simp [Setting.apply, Setting.subject]

theorem says_letters {letters : List Char} {next : List String}
    (h : Letters settings letters next) :
    Says (fun p => p.takeLetters letters >>= next.foldlM step) settings := by
  induction h with
  | switch hs =>
    refine ((says_turnOn _).bind says_nothing).congr fun _ p _ => ?_
    simp only [takeLetters, (ofLetter?_of_switch hs).1, List.foldlM_nil]
    exact bind_pure _
  | apart hc hvalue =>
    refine (says_take_step _ hvalue).congr fun _ p _ => ?_
    simp [takeLetters, (ofLetter?_of_choice hc).1]
  | @joined c letter hc value hvalue =>
    refine (says_take c value).congr fun hvalid p _ => ?_
    have hne : value ≠ "" := hvalid _ (List.mem_singleton_self _) (isPath_of_letter? hc)
    obtain ⟨first, rest, hchars⟩ :=
      List.exists_cons_of_ne_nil (String.toList_eq_nil_iff.not.mpr hne)
    obtain rfl : value = String.ofList (first :: rest) := by rw [← hchars, String.ofList_toList]
    have hfirst : first ≠ '=' := by simpa using hvalue
    simp [takeLetters, (ofLetter?_of_choice hc).1, hfirst]
  | equated hc value =>
    refine (says_take _ value).congr fun _ p _ => ?_
    simp [takeLetters, (ofLetter?_of_choice hc).1]
  | cluster hs h ih =>
    refine ((says_turnOn _).bind ih).congr fun _ p _ => ?_
    simp [takeLetters, (ofLetter?_of_switch hs).1]

/-- A word behind two hyphens is taken as a name. -/
theorem step_dashed {text : String} (hp : p.onlyRoot = false) (htext : text ≠ "") :
    p.step ("--" ++ text) = p.takeLong text.toList :=
  step_of_long hp String.toList_append (String.toList_eq_nil_iff.not.mpr htext)

theorem says_spelling {words : List String} (h : Spelling settings words) :
    Says (words.foldlM step) settings := by
  cases h with
  | name s =>
    refine (says_turnOn s).congr fun _ p hp => ?_
    have hname : s.longName ≠ "" := by cases s <;> decide
    simp [step_dashed hp hname, takeLong_switch]
  | apart c hvalue =>
    refine (says_take_step c hvalue).congr fun _ p hp => ?_
    have hname : c.longName ≠ "" := by cases c <;> decide
    simp [step_dashed hp hname, takeLong_choice]
  | equated c value =>
    refine (says_take c value).congr fun _ p hp => ?_
    have hname : c.longName ++ "=" ++ value ≠ "" := by cases c <;> simp [Choice.longName]
    have hchars : (c.longName ++ "=" ++ value).toList =
        c.longName.toList ++ '=' :: value.toList := by simp
    have hword : "--" ++ c.longName ++ "=" ++ value = "--" ++ (c.longName ++ "=" ++ value) := by
      simp only [String.append_assoc]
    simp only [List.foldlM_cons, List.foldlM_nil, bind_pure, hword, step_dashed hp hname, hchars,
      takeLong_choice_equated, String.ofList_toList]
  | letters h =>
    obtain ⟨letter, rest, rfl, hletter⟩ := h.exists_cons
    refine (says_letters h).congr fun _ p hp => ?_
    rw [List.foldlM_cons, step_of_letters hp String.toList_ofList hletter]
  | root hvalue =>
    refine (says_root hvalue).congr fun _ p _ => ?_
    simp

theorem says_spelled {words : List String} (h : Spelled settings words) :
    Says (words.foldlM step) settings := by
  induction h with
  | nil => exact says_nothing
  | cons h hlater ih =>
    refine ((says_spelling h).bind ih).congr fun _ p _ => ?_
    rw [List.foldlM_append]

/-- From the start all settings are taken, and nothing else. -/
theorem foldlM_of_written {words : List String} (h : Written settings words)
    (hnodup : (settings.map Setting.subject).Nodup) (hvalid : ∀ x ∈ settings, x.IsValid) :
    ∃ p q, words.foldlM step {} = .ok p ∧ p.settle = .ok q ∧
      q.arguments = settings.foldl Setting.apply {} := by
  cases h with
  | spelled h =>
    obtain ⟨p, hp, hsaid⟩ := says_spelled h (said_after []) hnodup hvalid
    exact ⟨p, _, hp, hsaid, rfl⟩
  | @dashes settings words h value =>
    rw [List.map_append] at hnodup
    obtain ⟨p, hp, hsaid⟩ := says_spelled h (said_after []) hnodup.of_append_left
      fun x hx => hvalid x (List.mem_append_left _ hx)
    have hnew : .root ∉ settings.map Setting.subject :=
      fun hx => hnodup.disjoint hx (List.mem_singleton_self _)
    have hvalue : value ≠ "" := hvalid (.root value) (by simp)
    obtain ⟨r, hr, hsettle⟩ := takePlain_root (settle_dashes hsaid) (hasRoot_after hnew) hvalue
    have hlast : ["--", value].foldlM step p = .ok r := by
      simp only [List.foldlM_cons, List.foldlM_nil, bind_pure]
      refine bind_eq_ok_iff.mpr ⟨_, step_dashes hsaid.onlyRoot, ?_⟩
      rw [step_of_onlyRoot rfl]
      exact hr
    refine ⟨r, _, ?_, hsettle, by simp [after, Setting.apply]⟩
    rw [List.foldlM_append]
    exact bind_eq_ok_iff.mpr ⟨p, hp, hlast⟩

end Progress

/-- However the settings of arguments are written, and in whatever order, they parse to the
arguments. The two switches for the verbosity exclude each other, and no path is empty. -/
theorem parse_of_written {a : Arguments} {settings : List Setting} {words : List String}
    (hwritten : Written settings words) (hsaid : a.SaidBy settings)
    (hboth : ¬ (a.verbose = true ∧ a.quiet = true)) (hroot : a.root ≠ "")
    (hpaths : ∀ c : Choice, c.isPath = true → a.value? c ≠ some "") :
    parse words = .ok a := by
  have hvalid : ∀ x ∈ settings, x.IsValid := by
    intro x hx
    have hx := Arguments.mem_settings.mp (hsaid.mem hx)
    rcases x with s | ⟨c, value⟩ | value
    · trivial
    · rintro hpath rfl
      exact hpaths c hpath (by simpa [Arguments.setting?, Setting.subject] using hx)
    · obtain rfl : a.root = value := by simpa [Arguments.setting?, Setting.subject] using hx
      exact hroot
  obtain ⟨p, q, hp, hq, harguments⟩ := Progress.foldlM_of_written hwritten hsaid.nodup hvalid
  rw [hsaid.foldl_apply] at harguments
  refine bind_eq_ok_iff.mpr ⟨p, hp, bind_eq_ok_iff.mpr ⟨q, hq, ?_⟩⟩
  rw [harguments, if_neg (by simpa using hboth)]
  rfl

theorem parse_of_written_clustered :
    parse ["--only-namespace", "", "-vax=y", "--check", "-c=-q", "--", "-r"] =
      .ok { root := "-r", analysis := some "x=y", config := some "-q", onlyNamespace := some "",
            check := true, verbose := true } := by
  have hcluster : Letters [.switch .verbose, .choice .analysis "x=y"] "vax=y".toList [] :=
    .cluster rfl (.joined rfl (by decide))
  have hwritten : Written
      [.choice .onlyNamespace "", .switch .verbose, .choice .analysis "x=y", .switch .check,
        .choice .config "-q", .root "-r"]
      ["--only-namespace", "", "-vax=y", "--check", "-c=-q", "--", "-r"] :=
    .dashes (.cons (.apart .onlyNamespace (by decide)) (.cons (.letters hcluster)
      (.cons (.name .check) (.cons (.letters (.equated rfl "-q")) .nil)))) "-r"
  refine parse_of_written hwritten (.inl ?_) (by decide) (by decide) ?_
  · decide
  · intro c
    cases c <;> decide

end CommandLine

end MixinExterns
