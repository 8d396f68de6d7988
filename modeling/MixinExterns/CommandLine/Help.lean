/-!
What the program says of itself.
-/

namespace MixinExterns

def versionText : String := "polymer-externs 0.1.0\n"

def helpText : String :=
  String.join <| List.map (· ++ "\n")
    ["Generate Closure externs for the Polymer mixins of a package",
     "",
     "Usage: polymer-externs [OPTIONS] [ROOT]",
     "",
     "Arguments:",
     "  [ROOT]  Package root containing the analyzer's feature dump [default: .]",
     "",
     "Options:",
     "  -a, --analysis <FILE>         Feature dump, relative to the package root " ++
       "[default: analysis.json]",
     "  -c, --config <FILE>           Config file " ++
       "[default: polymer-externs.toml in the package root, if present]",
     "  -o, --output <FILE>           Write the externs here instead of stdout",
     "      --only-namespace <NS>     Only emit mixins of this namespace",
     "      --skip-inherited-methods  Leave out inherited methods",
     "      --no-static-methods       Leave out static methods",
     "      --no-undefined-return     Do not annotate unknown returns as `undefined`",
     "      --keep-override-params    Keep generated params on overrides that document none",
     "      --implements              Link parent mixins with `@implements` instead of `@extends`",
     "      --check                   Parse the externs before writing them",
     "  -v, --verbose                 Debug logging",
     "  -q, --quiet                   Errors only",
     "  -h, --help                    Print help",
     "  -V, --version                 Print version"]

end MixinExterns
