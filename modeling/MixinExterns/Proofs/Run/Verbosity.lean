import MixinExterns.Proofs.CommandLine.Verbosity
import MixinExterns.Run

/-!
The verbosity of a run decides which events are logged, and nothing else: neither the environment
nor a switch for the verbosity changes what a run leaves behind or which events there are. So of the
lines that the most verbose log holds the others hold those of some levels.
-/

namespace MixinExterns

namespace Log

/-- Whether a log line is one of a level: it begins with the word for it. -/
def hasLevel (level : Level) (line : String) : Bool :=
  (level.word ++ " ").toList.isPrefixOf line.toList

theorem hasLevel_line (level : Level) (e : Event) :
    hasLevel level (line e) = decide (e.level = level) := by
  have hword (l : Level) (rest : String) :
      (level.word ++ " ").toList.isPrefixOf (l.word ++ " " ++ rest).toList =
        decide (l = level) := by
    simp only [String.toList_append]
    cases level <;> cases l <;> rfl
  unfold hasLevel line
  rw [String.append_assoc, hword]

/-- All events are those of this program, so of a level up all are shown. -/
theorem shows_ofLevel (level : Level) (e : Event) :
    (Filter.ofLevel level).shows e = passes (some level) e.level := by
  have htarget : "polymer_externs".toList.isPrefixOf e.target.toList = true := by
    unfold Event.target
    split <;> decide
  have hfits : Directive.fits { target := some "polymer_externs", threshold := some level } e := by
    simp only [Directive.fits, Option.all_some, htarget, List.all_nil, Bool.and_self]
  simp only [Filter.shows, Filter.ofLevel, List.find?_cons, hfits]

/-- The log with a filter that shows, of what another one shows, what can be told from the line. -/
theorem map_line_filter {shown shown' : Event → Bool} {select : String → Bool}
    (h : ∀ e, shown' e = (shown e && select (line e))) (events : List Event) :
    (events.filter shown').map line = ((events.filter shown).map line).filter select := by
  rw [List.filter_map, List.filter_filter, funext h]
  simp only [Function.comp_apply, Bool.and_comm]

theorem shows_error (e : Event) :
    (Filter.ofLevel .error).shows e =
      ((Filter.ofLevel .debug).shows e && hasLevel .error (line e)) := by
  rw [shows_ofLevel, shows_ofLevel, hasLevel_line]
  cases e.level <;> rfl

theorem shows_info (e : Event) :
    (Filter.ofLevel .info).shows e =
      ((Filter.ofLevel .debug).shows e &&
        (hasLevel .error (line e) || hasLevel .warn (line e) || hasLevel .info (line e))) := by
  rw [shows_ofLevel, shows_ofLevel, hasLevel_line, hasLevel_line, hasLevel_line]
  cases e.level <;> rfl

end Log

/-- What a run leaves behind: its status, its standard output and the tree. -/
def outcome (arguments : List String) (environment : Option String) (t : FileTree) :
    Nat × String × FileTree :=
  let (report, after) := (run arguments environment : StateM FileTree Report).run t
  (report.status, report.stdout, after)

/-- The lines that a run logs. -/
def logged (arguments : List String) (environment : Option String) (t : FileTree) : List String :=
  ((run arguments environment : StateM FileTree Report).run t).1.log

theorem produce_withoutVerbosity (a : Arguments) :
    (produce a.withoutVerbosity : Job (StateM FileTree) String) = produce a := rfl

/-- Arguments that are the same but for the verbosity come to the same, and report the same events.
The verbosity and the environment choose the filter. -/
theorem run_eq_of_withoutVerbosity (b : Arguments) (t : FileTree) :
    ∃ status stdout events after, ∀ arguments a environment,
      CommandLine.parse arguments = .ok a → a.withoutVerbosity = b →
      (run arguments environment : StateM FileTree Report).run t =
        (⟨status, stdout, events, Log.Filter.choose a.verbose a.quiet environment⟩, after) := by
  cases hran : ((produce b : Job (StateM FileTree) String).run.run []).run t with
  | mk made after =>
    obtain ⟨result, events⟩ := made
    cases result with
    | ok stdout =>
      refine ⟨0, stdout, events, after, fun arguments a environment hparse ha => ?_⟩
      rw [← ha, produce_withoutVerbosity] at hran
      simp only [run, hparse]
      rw [StateT.run_bind, hran]
      rfl
    | error fault =>
      refine ⟨1, "", events ++ [.failed fault.message], after,
        fun arguments a environment hparse ha => ?_⟩
      rw [← ha, produce_withoutVerbosity] at hran
      simp only [run, hparse]
      rw [StateT.run_bind, hran]
      rfl

theorem outcome_of_withoutVerbosity {arguments arguments' : List String} {a a' : Arguments}
    (hparse : CommandLine.parse arguments = .ok a) (hparse' : CommandLine.parse arguments' = .ok a')
    (hsame : CommandLine.withoutVerbosity arguments' = CommandLine.withoutVerbosity arguments)
    (environment environment' : Option String) (t : FileTree) :
    outcome arguments' environment' t = outcome arguments environment t := by
  have ha := CommandLine.withoutVerbosity_eq_of_parse hparse hparse' hsame
  obtain ⟨_, _, _, _, hrun⟩ := run_eq_of_withoutVerbosity a.withoutVerbosity t
  simp only [outcome, hrun arguments a _ hparse rfl, hrun arguments' a' _ hparse' ha]

/-- The verbosity never changes what a run leaves behind, and only selects lines of its log.
Whatever the environment gives, the outcome is the same. So it is with one switch for the verbosity
more or less, wherever it stands among the options, and with all arguments that parse and say the
same besides the verbosity. If the environment gives nothing, the quiet log is made up of the error
lines of the verbose one, and the log without a switch of its error, warning and information lines,
in the same order. -/
theorem run_verbosity (arguments : List String) (environment : Option String) (t : FileTree) :
    (∀ environment', outcome arguments environment' t = outcome arguments environment t) ∧
    (∀ before after word a a', before ++ after = arguments → "--" ∉ before →
      word ∈ CommandLine.verbosityWords → CommandLine.parse arguments = .ok a →
      CommandLine.parse (before ++ word :: after) = .ok a' → ∀ environment',
        outcome (before ++ word :: after) environment' t = outcome arguments environment t) ∧
    ∀ arguments' a a', CommandLine.parse arguments = .ok a →
      CommandLine.parse arguments' = .ok a' →
      CommandLine.withoutVerbosity arguments' = CommandLine.withoutVerbosity arguments →
      (∀ environment', outcome arguments' environment' t = outcome arguments environment t) ∧
      (a.verbose = true →
        (a'.quiet = true →
          logged arguments' none t = (logged arguments none t).filter (Log.hasLevel .error)) ∧
        (a'.verbose = false → a'.quiet = false →
          logged arguments' none t = (logged arguments none t).filter fun line =>
            Log.hasLevel .error line || Log.hasLevel .warn line || Log.hasLevel .info line)) := by
  refine ⟨fun environment' => ?_, fun before after word a a' harguments hbefore hword => ?_, ?_⟩
  · cases hparse : CommandLine.parse arguments with
    | error fault => simp only [outcome, run, hparse]; rfl
    | ok a => exact outcome_of_withoutVerbosity hparse hparse rfl environment environment' t
  · intro hparse hparse' environment'
    have hsame := CommandLine.withoutVerbosity_insert before after hword hbefore
    rw [harguments] at hsame
    exact outcome_of_withoutVerbosity hparse hparse' hsame environment environment' t
  · intro arguments' a a' hparse hparse' hsame
    have ha := CommandLine.withoutVerbosity_eq_of_parse hparse hparse' hsame
    obtain ⟨_, _, events, _, hrun⟩ := run_eq_of_withoutVerbosity a.withoutVerbosity t
    refine ⟨fun environment' =>
      outcome_of_withoutVerbosity hparse hparse' hsame environment environment' t,
      fun hverbose => ⟨fun hquiet => ?_, fun hverbose' hquiet => ?_⟩⟩
    · have hverbose' : a'.verbose = false := by
        cases hv : a'.verbose with
        | false => rfl
        | true => simp [CommandLine.not_quiet_of_parse hparse' hv] at hquiet
      simp only [logged, hrun arguments a _ hparse rfl, hrun arguments' a' _ hparse' ha, hverbose,
        hverbose', hquiet, Report.log, Log.Filter.choose, if_true, Bool.false_eq_true, if_false]
      exact Log.map_line_filter Log.shows_error events
    · simp only [logged, hrun arguments a _ hparse rfl, hrun arguments' a' _ hparse' ha, hverbose,
        hverbose', hquiet, Report.log, Log.Filter.choose, if_true, Bool.false_eq_true, if_false]
      exact Log.map_line_filter Log.shows_info events

theorem run_verbosity_bare :
    CommandLine.parse ["-v"] = .ok { verbose := true } ∧
    CommandLine.parse ["-q"] = .ok { quiet := true } ∧
    CommandLine.withoutVerbosity ["-q"] = CommandLine.withoutVerbosity ["-v"] ∧
    outcome ["-q"] (some "off") {} = outcome ["-v"] none {} ∧
    outcome ["-q"] (some "off") {} = outcome [] none {} ∧
    logged ["-q"] none {} = (logged ["-v"] none {}).filter (Log.hasLevel .error) ∧
    logged ["-v"] none {} =
      ["DEBUG no config file, using defaults",
       "DEBUG reading feature dump path=./analysis.json",
       "ERROR I/O error on ./analysis.json: No such file or directory (os error 2)"] := by
  have hsame : CommandLine.withoutVerbosity ["-q"] = CommandLine.withoutVerbosity ["-v"] := rfl
  obtain ⟨-, hadded, -⟩ := run_verbosity [] none {}
  obtain ⟨-, -, hsaid⟩ := run_verbosity ["-v"] none {}
  obtain ⟨houtcome, hlog⟩ := hsaid ["-q"] _ _ rfl rfl hsame
  have hquiet := hadded [] [] "-q" _ _ rfl nofun (by decide) rfl rfl
  exact ⟨rfl, rfl, hsame, houtcome (some "off"), hquiet (some "off"), (hlog rfl).1 rfl, by decide⟩

end MixinExterns
