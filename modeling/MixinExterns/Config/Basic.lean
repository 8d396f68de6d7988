import MixinExterns.Externs.Options
import MixinExterns.Toml.Value

/-!
The settings of a run: where the dump is, where the externs go, whether they are checked, how they
are written, and what a config file says that no setting claims.
-/

namespace MixinExterns

/-- The dump of a package unless another is given. -/
def defaultDump : String := "analysis.json"

/-- The settings of a run. -/
structure Config where
  /-- The dump, relative to the root of the package. -/
  analysis : String := defaultDump
  /-- Where the externs are written, unless to the standard output. -/
  output : Option String := none
  /-- Whether the externs are parsed before they are written. -/
  check : Bool := false
  emit : EmitOptions := {}
  /-- The entries of a config file that are no settings. -/
  unknown : Table Toml.Value := []
  deriving Inhabited

end MixinExterns
