import MixinExterns.CommandLine.Parse
import MixinExterns.Proofs.Results

/-!
Arguments without their switches for the verbosity. They parse if the arguments do, and say the
same but for the verbosity: parsing without the switches lags behind parsing with them, as a switch
makes it look at what was pending, but it always catches up.
-/

namespace MixinExterns

def Switch.isVerbosity : Switch → Bool
  | .verbose | .quiet => true
  | _ => false

namespace Arguments

/-- The arguments as they are without the switches for the verbosity. -/
def withoutVerbosity (a : Arguments) : Arguments := { a with verbose := false, quiet := false }

@[simp]
theorem value?_withoutVerbosity (a : Arguments) (c : Choice) :
    a.withoutVerbosity.value? c = a.value? c := by
  cases c <;> rfl

theorem choose_withoutVerbosity (a : Arguments) (value : String) (c : Choice) :
    a.withoutVerbosity.choose value c = (a.choose value c).withoutVerbosity := by
  cases c <;> rfl

theorem has_withoutVerbosity (a : Arguments) {s : Switch} (h : s.isVerbosity = false) :
    a.withoutVerbosity.has s = a.has s := by
  cases s <;> first | rfl | cases h

theorem turnOn_withoutVerbosity (a : Arguments) {s : Switch} (h : s.isVerbosity = false) :
    a.withoutVerbosity.turnOn s = (a.turnOn s).withoutVerbosity := by
  cases s <;> first | rfl | cases h

theorem withoutVerbosity_turnOn (a : Arguments) {s : Switch} (h : s.isVerbosity = true) :
    (a.turnOn s).withoutVerbosity = a.withoutVerbosity := by
  cases s <;> first | rfl | cases h

end Arguments

namespace CommandLine

def isVerbosityLetter (letter : Char) : Bool := letter = 'v' || letter = 'q'

/-- What an argument says besides the verbosity, if it says anything else. Of letters behind one
hyphen only the first ones can be meant: behind any other letter stands its value, or nothing. -/
def besidesVerbosity? (argument : String) : Option String :=
  match argument.toList with
  | '-' :: '-' :: name =>
    if name = "verbose".toList || name = "quiet".toList then none else some argument
  | '-' :: letter :: rest =>
    match (letter :: rest).dropWhile isVerbosityLetter with
    | [] => none
    | letters => some (String.ofList ('-' :: letters))
  | _ => some argument

/-- What the arguments say besides the verbosity. Behind a lone `--` there are no switches. -/
def withoutVerbosity : List String → List String
  | [] => []
  | argument :: rest =>
    if argument = "--" then argument :: rest
    else (besidesVerbosity? argument).toList ++ withoutVerbosity rest

namespace Progress

def withoutVerbosity (p : Progress) : Progress :=
  { p with arguments := p.arguments.withoutVerbosity }

variable {p q r : Progress}

theorem settle_of_nothing (h : p.pending = .nothing) : p.settle = .ok p := by
  simp [settle, h]

theorem choose_eq_ok {c : Choice} {value : String} :
    p.choose c value = .ok r ↔
      p.arguments.value? c = none ∧ ¬ (c.isPath && value.isEmpty) ∧
      { p with arguments := p.arguments.choose value c, pending := .nothing } = r := by
  unfold choose
  split
  · next h => simp [Option.isSome_iff_ne_none.mp h]
  · next h =>
    have hnone := Option.not_isSome_iff_eq_none.mp h
    split
    · next hvalue => simp [hvalue]
    · next hvalue => simp [hnone, hvalue]

/-- Settling leaves nothing pending, and the places of the arguments as they are. -/
theorem places_of_settle (h : p.settle = .ok r) :
    r.pending = .nothing ∧ r.hasRoot = p.hasRoot ∧ r.onlyRoot = p.onlyRoot := by
  unfold settle at h
  split at h
  · next hp =>
    cases h
    exact ⟨hp, rfl, rfl⟩
  · cases h
  · obtain ⟨-, -, rfl⟩ := choose_eq_ok.mp h
    exact ⟨rfl, rfl, rfl⟩
  · split at h
    · cases h
    · cases h
      exact ⟨rfl, rfl, rfl⟩

-- Choosing and settling look at the values and the root, and at nothing else. So they commute with
-- a change `g` of the arguments that leaves those alone, and do not depend on a lone `--`.
section

variable {g : Arguments → Arguments} (onlyRoot' : Bool → Bool)

theorem choose_change (hvalue : ∀ a c, (g a).value? c = a.value? c)
    (hchoose : ∀ a value c, (g a).choose value c = g (a.choose value c)) {c : Choice}
    {value : String} (h : p.choose c value = .ok r) :
    { p with arguments := g p.arguments, onlyRoot := onlyRoot' p.onlyRoot : Progress }.choose
        c value =
      .ok { r with arguments := g r.arguments, onlyRoot := onlyRoot' r.onlyRoot } := by
  obtain ⟨hnone, hempty, rfl⟩ := choose_eq_ok.mp h
  exact choose_eq_ok.mpr ⟨(hvalue _ c).trans hnone, hempty, by simp only [hchoose]⟩

theorem settle_change (hvalue : ∀ a c, (g a).value? c = a.value? c)
    (hchoose : ∀ a value c, (g a).choose value c = g (a.choose value c))
    (hroot : ∀ a value, { g a with root := value } = g { a with root := value })
    (h : p.settle = .ok r) :
    { p with arguments := g p.arguments, onlyRoot := onlyRoot' p.onlyRoot : Progress }.settle =
      .ok { r with arguments := g r.arguments, onlyRoot := onlyRoot' r.onlyRoot } := by
  unfold settle at h ⊢
  cases hp : p.pending with
  | nothing => simp_all
  | awaited c => simp [hp] at h
  | chosen c value =>
    rw [hp] at h
    simpa only [hp] using choose_change onlyRoot' hvalue hchoose h
  | root value =>
    simp only [hp] at h ⊢
    split at h
    · cases h
    · next hempty =>
      cases h
      rw [if_neg hempty, hroot]

end

theorem choose_withoutVerbosity {c : Choice} {value : String} (h : p.choose c value = .ok r) :
    p.withoutVerbosity.choose c value = .ok r.withoutVerbosity :=
  choose_change id Arguments.value?_withoutVerbosity Arguments.choose_withoutVerbosity h

theorem settle_withoutVerbosity (h : p.settle = .ok r) :
    p.withoutVerbosity.settle = .ok r.withoutVerbosity :=
  settle_change id Arguments.value?_withoutVerbosity Arguments.choose_withoutVerbosity
    (fun _ _ => rfl) h

theorem settle_dashes (h : p.settle = .ok r) :
    { p with onlyRoot := true : Progress }.settle = .ok { r with onlyRoot := true } :=
  settle_change (fun _ => true) (fun _ _ => rfl) (fun _ _ _ => rfl) (fun _ _ => rfl) h

/-- Parsing has come to `q` where with the verbosity it has come to `p`: it is there, too, or will
be as soon as it looks at what is pending. -/
def Lags (q p : Progress) : Prop := q = p.withoutVerbosity ∨ q.settle = .ok p.withoutVerbosity

theorem Lags.settle (h : Lags q p) (hp : p.settle = .ok r) : q.settle = .ok r.withoutVerbosity := by
  rcases h with rfl | hq
  · exact settle_withoutVerbosity hp
  · have hnothing : p.pending = .nothing := (places_of_settle hq).1
    rw [settle_of_nothing hnothing] at hp
    cases hp
    exact hq

theorem Lags.places (h : Lags q p) : q.hasRoot = p.hasRoot ∧ q.onlyRoot = p.onlyRoot := by
  rcases h with rfl | hq
  · exact ⟨rfl, rfl⟩
  · obtain ⟨-, hroot, honly⟩ := places_of_settle hq
    exact ⟨hroot.symm, honly.symm⟩

/-- What `op` does to parsing with the verbosity, `op'` does without it. Neither passes the lone `--`
behind which there are no switches. -/
def Simulates (op' op : Progress → Except ArgumentFault Progress) : Prop :=
  ∀ ⦃p q r⦄, Lags q p → op p = .ok r →
    r.onlyRoot = p.onlyRoot ∧ ∃ s, op' q = .ok s ∧ Lags s r

theorem simulates_ok : Simulates .ok .ok := by
  intro p q r hlags h
  cases h
  exact ⟨rfl, q, rfl, hlags⟩

theorem simulates_error (op' : Progress → Except ArgumentFault Progress) (fault : ArgumentFault) :
    Simulates op' fun _ => .error fault := by
  intro p q r hlags h
  cases h

theorem Simulates.bind {f f' g g' : Progress → Except ArgumentFault Progress}
    (hf : Simulates f' f) (hg : Simulates g' g) :
    Simulates (fun p => f' p >>= g') fun p => f p >>= g := by
  intro p q r hlags h
  obtain ⟨p₁, hp₁, h⟩ := bind_eq_ok_iff.mp h
  obtain ⟨honly₁, q₁, hq₁, hlags₁⟩ := hf hlags hp₁
  obtain ⟨honly, s, hs, hlags'⟩ := hg hlags₁ h
  exact ⟨honly.trans honly₁, s, bind_eq_ok_iff.mpr ⟨q₁, hq₁, hs⟩, hlags'⟩

/-- To settle first is to catch up. -/
theorem simulates_settled {body : Progress → Except ArgumentFault Progress}
    (h : ∀ p r, body p = .ok r →
      r.onlyRoot = p.onlyRoot ∧ body p.withoutVerbosity = .ok r.withoutVerbosity) :
    Simulates (fun p => p.settle >>= body) fun p => p.settle >>= body := by
  intro p q r hlags hr
  obtain ⟨settled, hsettled, hbody⟩ := bind_eq_ok_iff.mp hr
  obtain ⟨honly, hbody'⟩ := h settled r hbody
  exact ⟨honly.trans (places_of_settle hsettled).2.2, r.withoutVerbosity,
    bind_eq_ok_iff.mpr ⟨_, hlags.settle hsettled, hbody'⟩, .inl rfl⟩

theorem simulates_turnOn {s : Switch} (hs : s.isVerbosity = false) :
    Simulates (·.turnOn s) (·.turnOn s) := by
  apply simulates_settled
  intro p r h
  simp only [withoutVerbosity, Arguments.has_withoutVerbosity _ hs,
    Arguments.turnOn_withoutVerbosity _ hs] at h ⊢
  split at h
  · cases h
  · next hhas =>
    cases h
    exact ⟨rfl, if_neg hhas⟩

/-- A switch for the verbosity is passed over. What was pending before it stays pending. -/
theorem simulates_verbosity {s : Switch} (hs : s.isVerbosity = true) :
    Simulates .ok (·.turnOn s) := by
  intro p q r hlags h
  obtain ⟨settled, hsettled, h⟩ := bind_eq_ok_iff.mp h
  split at h
  · cases h
  · cases h
    refine ⟨(places_of_settle hsettled).2.2, q, rfl, .inr ?_⟩
    rw [hlags.settle hsettled, withoutVerbosity, withoutVerbosity,
      Arguments.withoutVerbosity_turnOn _ hs]

theorem simulates_take (c : Choice) (attached : Option String) :
    Simulates (·.take c attached) (·.take c attached) := by
  apply simulates_settled
  intro p r h
  cases attached with
  | none =>
    cases h
    exact ⟨rfl, rfl⟩
  | some value =>
    refine ⟨?_, choose_withoutVerbosity h⟩
    obtain ⟨-, -, rfl⟩ := choose_eq_ok.mp h
    rfl

theorem simulates_stop (op' : Progress → Except ArgumentFault Progress) (fault : ArgumentFault) :
    Simulates op' (·.stop fault) := by
  intro p q r hlags h
  obtain ⟨_, -, h⟩ := bind_eq_ok_iff.mp h
  cases h

/-- Without an option that waits for its value, a plain argument is the root. -/
theorem takePlain_of_not_awaited (h : ∀ c, p.pending ≠ .awaited c) (text : String) :
    p.takePlain text =
      if p.hasRoot then .error .unknownArgument
      else p.settle.map fun p => { p with pending := .root text, hasRoot := true } := by
  unfold takePlain
  split
  · next c hc => exact absurd hc (h c)
  · cases p.settle <;> rfl

theorem Lags.not_awaited (h : Lags q p) (hp : ∀ c, p.pending ≠ .awaited c) (c : Choice) :
    q.pending ≠ .awaited c := by
  intro hc
  rcases h with rfl | hq
  · exact hp c hc
  · simp [Progress.settle, hc] at hq

theorem simulates_takePlain (text : String) :
    Simulates (·.takePlain text) (·.takePlain text) := by
  intro p q r hlags h
  by_cases hawaited : ∃ c, p.pending = .awaited c
  · obtain ⟨c, hc⟩ := hawaited
    -- It does not lag: settling would have failed.
    obtain rfl : q = p.withoutVerbosity :=
      hlags.resolve_right fun hq => by simpa [withoutVerbosity, hc] using (places_of_settle hq).1
    simp only [takePlain, withoutVerbosity, hc] at h ⊢
    split at h
    · cases h
    · next honly =>
      cases h
      exact ⟨rfl, _, if_neg honly, .inl rfl⟩
  · have hp := not_exists.mp hawaited
    dsimp only at h ⊢
    rw [takePlain_of_not_awaited hp] at h
    rw [takePlain_of_not_awaited (hlags.not_awaited hp), hlags.places.1]
    split at h
    · cases h
    · next hroot =>
      obtain ⟨settled, hsettled, rfl⟩ := map_eq_ok_iff.mp h
      rw [if_neg hroot]
      exact ⟨(places_of_settle hsettled).2.2, _,
        map_eq_ok_iff.mpr ⟨_, hlags.settle hsettled, rfl⟩, .inl rfl⟩

theorem letter?_of_ofLetter? {letter : Char} {s : Switch}
    (h : ofLetter? letter = some (.switch s)) : s.letter? = some letter := by
  unfold ofLetter? at h
  split at h
  · cases h
  · split at h
    · cases h
    · split at h
      · next hfind =>
        cases h
        simpa using List.find?_some hfind
      · simp at h

theorem longName_of_ofLongName? {name : String} {s : Switch}
    (h : ofLongName? name = some (.switch s)) : s.longName = name := by
  unfold ofLongName? at h
  split at h
  · cases h
  · split at h
    · cases h
    · split at h
      · next hfind =>
        cases h
        simpa using List.find?_some hfind
      · simp at h

theorem isVerbosityLetter_of_ofLetter? {letter : Char} {s : Switch}
    (h : ofLetter? letter = some (.switch s)) : isVerbosityLetter letter = true := by
  have hletter := letter?_of_ofLetter? h
  cases s <;> simp [Switch.letter?] at hletter <;> subst hletter <;> rfl

theorem ofLetter?_of_isVerbosityLetter {letter : Char} (h : isVerbosityLetter letter = true) :
    ∃ s : Switch, s.isVerbosity = true ∧ ofLetter? letter = some (.switch s) := by
  rcases Bool.or_eq_true_iff.mp h with h | h
  · exact ⟨.verbose, rfl, by rw [of_decide_eq_true h]; rfl⟩
  · exact ⟨.quiet, rfl, by rw [of_decide_eq_true h]; rfl⟩

theorem simulates_takeLetters (letters : List Char) :
    Simulates (·.takeLetters (letters.dropWhile isVerbosityLetter)) (·.takeLetters letters) := by
  induction letters with
  | nil => exact simulates_ok
  | cons letter rest ih =>
    cases hletter : isVerbosityLetter letter with
    | true =>
      obtain ⟨s, hs, hof⟩ := ofLetter?_of_isVerbosityLetter hletter
      simp only [List.dropWhile_cons, hletter, if_true, takeLetters, hof]
      exact (simulates_verbosity hs).bind ih
    | false =>
      simp only [List.dropWhile_cons, hletter, Bool.false_eq_true, if_false]
      unfold takeLetters
      cases hof : ofLetter? letter with
      | none => exact simulates_error _ _
      | some meaning =>
        cases meaning with
        | switch s => simp [isVerbosityLetter_of_ofLetter? hof] at hletter
        | help => exact simulates_stop _ _
        | version => exact simulates_stop _ _
        | choice c =>
          dsimp only
          split <;> exact simulates_take _ _

theorem simulates_verbosityWord {s : Switch} (hs : s.isVerbosity = true) :
    Simulates .ok (·.takeLong s.longName.toList) := by
  cases s with
  | verbose => exact simulates_verbosity hs
  | quiet => exact simulates_verbosity hs
  | _ => cases hs

theorem simulates_takeLong {text : List Char}
    (h : ∀ s : Switch, s.isVerbosity = true → text ≠ s.longName.toList) :
    Simulates (·.takeLong text) (·.takeLong text) := by
  unfold takeLong
  dsimp only
  cases hof : ofLongName? (String.ofList (text.takeWhile (· ≠ '='))) with
  | none => exact simulates_error _ _
  | some meaning =>
    cases hdrop : text.drop (text.takeWhile (· ≠ '=')).length with
    | cons _ value =>
      cases meaning with
      | choice c => exact simulates_take _ _
      | _ => exact simulates_error _ _
    | nil =>
      cases meaning with
      | choice c => exact simulates_take _ _
      | help => exact simulates_stop _ _
      | version => exact simulates_stop _ _
      | switch s =>
        -- Nothing is attached, so all of the text is the name of the switch.
        have hname : text.takeWhile (· ≠ '=') = text :=
          (List.takeWhile_prefix _).eq_of_length_le (List.drop_eq_nil_iff.mp hdrop)
        apply simulates_turnOn
        cases hs : s.isVerbosity with
        | false => rfl
        | true =>
          have htext : text = s.longName.toList := by
            rw [longName_of_ofLongName? hof, hname, String.toList_ofList]
          exact absurd htext (h s hs)

theorem step_of_onlyRoot (h : p.onlyRoot = true) (argument : String) :
    p.step argument = p.takePlain argument := by
  simp [step, h]

theorem step_of_long (h : p.onlyRoot = false) {argument : String} {text : List Char}
    (hchars : argument.toList = '-' :: '-' :: text) (htext : text ≠ []) :
    p.step argument = p.takeLong text := by
  simp [step, h, hchars]

theorem step_of_letters (h : p.onlyRoot = false) {argument : String} {letter : Char}
    {rest : List Char} (hchars : argument.toList = '-' :: letter :: rest) (hletter : letter ≠ '-') :
    p.step argument = p.takeLetters (letter :: rest) := by
  simp [step, h, hchars, hletter]

theorem step_of_plain (h : p.onlyRoot = false) {argument : String}
    (hchars : ∀ letter rest, argument.toList ≠ '-' :: letter :: rest) :
    p.step argument = p.takePlain argument := by
  unfold step
  rw [if_neg (by simp [h])]
  split
  · next hc => exact absurd hc (hchars _ _)
  · next hc => exact absurd hc (hchars _ _)
  · next hc => exact absurd hc (hchars _ _)
  · rfl

/-- What is left of an argument, if anything is, does what the argument does. -/
theorem lags_step {argument : String} (hne : argument ≠ "--") (hlags : Lags q p)
    (hp : p.onlyRoot = false) (h : p.step argument = .ok r) :
    r.onlyRoot = false ∧
      ∃ s, (besidesVerbosity? argument).toList.foldlM step q = .ok s ∧ Lags s r := by
  have hq : q.onlyRoot = false := hlags.places.2.trans hp
  unfold besidesVerbosity?
  split
  · next name hchars =>
    have hname : name ≠ [] := by
      rintro rfl
      exact hne (String.toList_inj.mp hchars)
    rw [step_of_long hp hchars hname] at h
    split
    · next hword =>
      obtain ⟨s, hs, rfl⟩ : ∃ s : Switch, s.isVerbosity = true ∧ name = s.longName.toList := by
        rcases Bool.or_eq_true_iff.mp hword with hword | hword
        · exact ⟨.verbose, rfl, of_decide_eq_true hword⟩
        · exact ⟨.quiet, rfl, of_decide_eq_true hword⟩
      rw [← hp]
      exact simulates_verbosityWord hs hlags h
    · next hword =>
      have hother : ∀ s : Switch, s.isVerbosity = true → name ≠ s.longName.toList := by
        rintro s hs rfl
        cases s <;> first | exact hword rfl | cases hs
      simp only [Option.toList_some, List.foldlM_cons, List.foldlM_nil, bind_pure,
        step_of_long hq hchars hname]
      rw [← hp]
      exact simulates_takeLong hother hlags h
  · next letter rest hletter hchars =>
    rw [step_of_letters hp hchars hletter] at h
    obtain ⟨honly, s, hs, hlags'⟩ := simulates_takeLetters (letter :: rest) hlags h
    refine ⟨honly.trans hp, s, ?_, hlags'⟩
    dsimp only at hs
    cases hleft : (letter :: rest).dropWhile isVerbosityLetter with
    | nil =>
      rw [hleft] at hs
      exact hs
    | cons first others =>
      rw [hleft] at hs
      have hfirst : first ≠ '-' := by
        rintro rfl
        cases hs
      simp only [Option.toList_some, List.foldlM_cons, List.foldlM_nil, bind_pure]
      rw [step_of_letters hq String.toList_ofList hfirst]
      exact hs
  · next hplain =>
    rw [step_of_plain hp hplain] at h
    simp only [Option.toList_some, List.foldlM_cons, List.foldlM_nil, bind_pure,
      step_of_plain hq hplain]
    rw [← hp]
    exact simulates_takePlain argument hlags h

/-- Behind the lone `--` there is nothing to leave out. -/
theorem lags_foldlM_onlyRoot {arguments : List String} (hlags : Lags q p) (hp : p.onlyRoot = true)
    (h : arguments.foldlM step p = .ok r) : ∃ s, arguments.foldlM step q = .ok s ∧ Lags s r := by
  induction arguments generalizing p q with
  | nil =>
    cases h
    exact ⟨q, rfl, hlags⟩
  | cons argument rest ih =>
    rw [List.foldlM_cons] at h
    obtain ⟨p', hp', h⟩ := bind_eq_ok_iff.mp h
    rw [step_of_onlyRoot hp] at hp'
    obtain ⟨honly, q', hq', hlags'⟩ := simulates_takePlain argument hlags hp'
    obtain ⟨s, hs, hlags''⟩ := ih hlags' (honly.trans hp) h
    refine ⟨s, ?_, hlags''⟩
    rw [List.foldlM_cons, step_of_onlyRoot (hlags.places.2.trans hp)]
    exact bind_eq_ok_iff.mpr ⟨q', hq', hs⟩

theorem step_dashes (h : p.onlyRoot = false) : p.step "--" = .ok { p with onlyRoot := true } := by
  simp [step, h]

theorem Lags.dashes (h : Lags q p) :
    Lags { q with onlyRoot := true } { p with onlyRoot := true } := by
  rcases h with rfl | hq
  · exact .inl rfl
  · exact .inr (settle_dashes hq)

theorem lags_foldlM {arguments : List String} (hlags : Lags q p) (hp : p.onlyRoot = false)
    (h : arguments.foldlM step p = .ok r) :
    ∃ s, (CommandLine.withoutVerbosity arguments).foldlM step q = .ok s ∧ Lags s r := by
  induction arguments generalizing p q with
  | nil =>
    cases h
    exact ⟨q, rfl, hlags⟩
  | cons argument rest ih =>
    rw [List.foldlM_cons] at h
    obtain ⟨p', hp', h⟩ := bind_eq_ok_iff.mp h
    unfold CommandLine.withoutVerbosity
    split
    · next hdashes =>
      subst hdashes
      rw [step_dashes hp] at hp'
      cases hp'
      rw [List.foldlM_cons, step_dashes (hlags.places.2.trans hp)]
      exact lags_foldlM_onlyRoot hlags.dashes rfl h
    · next hne =>
      obtain ⟨honly, q', hq', hlags'⟩ := lags_step hne hlags hp hp'
      obtain ⟨s, hs, hlags''⟩ := ih hlags' honly h
      refine ⟨s, ?_, hlags''⟩
      rw [List.foldlM_append]
      exact bind_eq_ok_iff.mpr ⟨q', hq', hs⟩

end Progress

/-- Without the switches for the verbosity the arguments say what they say with them, but for the
verbosity. -/
theorem parse_withoutVerbosity {arguments : List String} {a : Arguments}
    (h : parse arguments = .ok a) :
    parse (withoutVerbosity arguments) = .ok a.withoutVerbosity := by
  obtain ⟨p, hp, h⟩ := bind_eq_ok_iff.mp h
  obtain ⟨settled, hsettled, h⟩ := bind_eq_ok_iff.mp h
  obtain ⟨q, hq, hlags⟩ := Progress.lags_foldlM (.inl rfl) rfl hp
  refine bind_eq_ok_iff.mpr ⟨q, hq, bind_eq_ok_iff.mpr ⟨_, hlags.settle hsettled, ?_⟩⟩
  split at h
  · cases h
  · cases h
    rfl

/-- What parses and is the same without the switches for the verbosity says the same, but for the
verbosity. -/
theorem withoutVerbosity_eq_of_parse {arguments arguments' : List String} {a a' : Arguments}
    (h : parse arguments = .ok a) (h' : parse arguments' = .ok a')
    (hsame : withoutVerbosity arguments' = withoutVerbosity arguments) :
    a'.withoutVerbosity = a.withoutVerbosity := by
  have hok := parse_withoutVerbosity h'
  rw [hsame, parse_withoutVerbosity h] at hok
  exact (Except.ok.inj hok).symm

theorem not_quiet_of_parse {arguments : List String} {a : Arguments}
    (h : parse arguments = .ok a) (hverbose : a.verbose = true) : a.quiet = false := by
  obtain ⟨p, -, h⟩ := bind_eq_ok_iff.mp h
  obtain ⟨settled, -, h⟩ := bind_eq_ok_iff.mp h
  split at h
  · cases h
  · next hboth =>
    cases h
    simpa [hverbose] using hboth

/-- The switches for the verbosity, as arguments of their own. -/
def verbosityWords : List String := ["-v", "--verbose", "-q", "--quiet"]

/-- To add or remove a switch for the verbosity changes nothing of the rest. -/
theorem withoutVerbosity_insert (before after : List String) {word : String}
    (hword : word ∈ verbosityWords) (hbefore : "--" ∉ before) :
    withoutVerbosity (before ++ word :: after) = withoutVerbosity (before ++ after) := by
  induction before with
  | nil =>
    have hne : word ≠ "--" := by
      rintro rfl
      simp [verbosityWords] at hword
    have hnothing : besidesVerbosity? word = none := by
      simp only [verbosityWords, List.mem_cons, List.not_mem_nil, or_false] at hword
      rcases hword with rfl | rfl | rfl | rfl <;> rfl
    simp [withoutVerbosity, hne, hnothing]
  | cons argument before ih =>
    rw [List.mem_cons, not_or] at hbefore
    simp [withoutVerbosity, Ne.symm hbefore.1, ih hbefore.2]

end CommandLine

end MixinExterns
