import MixinExterns.CommandLine.Arguments
import MixinExterns.Config.Basic

/-!
Arguments over the settings of a config file: what is given on the command line overrides the file,
and what is not given leaves it as it is.
-/

namespace MixinExterns

def Arguments.apply (a : Arguments) (c : Config) : Config where
  analysis := a.analysis.getD c.analysis
  output := a.output <|> c.output
  check := c.check || a.check
  emit :=
    { c.emit with
      policy := a.onlyNamespace.elim c.emit.policy .only
      inheritance := if a.implements then .implementing else c.emit.inheritance
      skipInheritedMethods := c.emit.skipInheritedMethods || a.skipInheritedMethods
      staticMethods := c.emit.staticMethods && !a.noStaticMethods
      undefinedReturn := c.emit.undefinedReturn && !a.noUndefinedReturn
      suppressOverrideParams := c.emit.suppressOverrideParams && !a.keepOverrideParams }
  unknown := c.unknown

end MixinExterns
