/-!
The arguments of the program: switches, options with a value and the root of the package.
-/

namespace MixinExterns

/-- What is given by its mere presence. -/
inductive Switch where
  | skipInheritedMethods
  | noStaticMethods
  | noUndefinedReturn
  | keepOverrideParams
  | implements
  | check
  | verbose
  | quiet
  deriving DecidableEq, Repr

/-- What is given with a value. -/
inductive Choice where
  | analysis
  | config
  | output
  | onlyNamespace
  deriving DecidableEq, Repr

structure Arguments where
  root : String := "."
  analysis : Option String := none
  config : Option String := none
  output : Option String := none
  onlyNamespace : Option String := none
  skipInheritedMethods : Bool := false
  noStaticMethods : Bool := false
  noUndefinedReturn : Bool := false
  keepOverrideParams : Bool := false
  implements : Bool := false
  check : Bool := false
  verbose : Bool := false
  quiet : Bool := false
  deriving DecidableEq, Repr, Inhabited

namespace Arguments

def has (a : Arguments) : Switch → Bool
  | .skipInheritedMethods => a.skipInheritedMethods
  | .noStaticMethods => a.noStaticMethods
  | .noUndefinedReturn => a.noUndefinedReturn
  | .keepOverrideParams => a.keepOverrideParams
  | .implements => a.implements
  | .check => a.check
  | .verbose => a.verbose
  | .quiet => a.quiet

def turnOn (a : Arguments) : Switch → Arguments
  | .skipInheritedMethods => { a with skipInheritedMethods := true }
  | .noStaticMethods => { a with noStaticMethods := true }
  | .noUndefinedReturn => { a with noUndefinedReturn := true }
  | .keepOverrideParams => { a with keepOverrideParams := true }
  | .implements => { a with implements := true }
  | .check => { a with check := true }
  | .verbose => { a with verbose := true }
  | .quiet => { a with quiet := true }

def value? (a : Arguments) : Choice → Option String
  | .analysis => a.analysis
  | .config => a.config
  | .output => a.output
  | .onlyNamespace => a.onlyNamespace

def choose (a : Arguments) (value : String) : Choice → Arguments
  | .analysis => { a with analysis := some value }
  | .config => { a with config := some value }
  | .output => { a with output := some value }
  | .onlyNamespace => { a with onlyNamespace := some value }

end Arguments

/-- The name of a switch behind two hyphens. -/
def Switch.longName : Switch → String
  | .skipInheritedMethods => "skip-inherited-methods"
  | .noStaticMethods => "no-static-methods"
  | .noUndefinedReturn => "no-undefined-return"
  | .keepOverrideParams => "keep-override-params"
  | .implements => "implements"
  | .check => "check"
  | .verbose => "verbose"
  | .quiet => "quiet"

/-- The letter of a switch behind one hyphen. -/
def Switch.letter? : Switch → Option Char
  | .verbose => some 'v'
  | .quiet => some 'q'
  | _ => none

def Switch.all : List Switch :=
  [.skipInheritedMethods, .noStaticMethods, .noUndefinedReturn, .keepOverrideParams, .implements,
   .check, .verbose, .quiet]

/-- The name of an option behind two hyphens. -/
def Choice.longName : Choice → String
  | .analysis => "analysis"
  | .config => "config"
  | .output => "output"
  | .onlyNamespace => "only-namespace"

/-- The letter of an option behind one hyphen. -/
def Choice.letter? : Choice → Option Char
  | .analysis => some 'a'
  | .config => some 'c'
  | .output => some 'o'
  | .onlyNamespace => none

/-- Whether the value of an option is a path. A path is not empty. -/
def Choice.isPath : Choice → Bool
  | .onlyNamespace => false
  | _ => true

def Choice.all : List Choice := [.analysis, .config, .output, .onlyNamespace]

end MixinExterns
