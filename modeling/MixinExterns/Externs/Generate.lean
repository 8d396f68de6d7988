import MixinExterns.Externs.Declaration
import MixinExterns.Externs.Selection
import MixinExterns.Text.Blank

/-!
The text of the externs: the header and the declarations of all emitted mixins, each ended by a
line feed and parted from the next by an empty line. Of every mixin and every member that is left
out the reason is reported.
-/

namespace MixinExterns

/-- What becomes of a selected mixin. -/
inductive Verdict where
  /-- The last part of its name is empty. -/
  | nameless
  /-- The policy does not admit its namespace. -/
  | foreign
  | emitted
  deriving DecidableEq, Repr

namespace Feature

/-- What becomes of the feature, if it is selected. -/
def verdict (options : EmitOptions) (f : Feature) : Verdict :=
  if f.qualifiedName.base.isEmpty then .nameless
  else if !options.policy.admits f.qualifiedName.space then .foreign
  else .emitted

def isEmitted (options : EmitOptions) (f : Feature) : Bool :=
  f.isSelected && f.verdict options = .emitted

end Feature

def Property.events (p : Property) : List Event :=
  if p.isVisible then [] else [.skippedProperty p.name p.privacy p.isInherited]

def Method.events (options : EmitOptions) (m : Method) : List Event :=
  if !m.isVisible then [.skippedMethod m.name m.privacy]
  else if m.isIncluded options then []
  else [.skippedInheritedMethod m.name]

namespace Feature

def memberEvents (options : EmitOptions) (f : Feature) : List Event :=
  f.properties.flatMap (·.events) ++ f.methods.flatMap (·.events options) ++
    (if options.staticMethods then f.staticMethods.flatMap (·.events options) else [])

def events (options : EmitOptions) (f : Feature) : List Event :=
  if !f.isSelected then f.selectionEvents
  else
    match f.verdict options with
    | .nameless => [.namelessMixin f.name]
    | .foreign => [.foreignMixin f.name options.policy]
    | .emitted => .emittedMixin f.name f.typeName :: f.memberEvents options

end Feature

namespace Externs

/-- The mixins that are written, in order. -/
def mixins (features : List Feature) (options : EmitOptions) : List Feature :=
  features.filter (·.isEmitted options)

/-- All declarations, in order. -/
def declarations (features : List Feature) (options : EmitOptions) : List Declaration :=
  (mixins features options).flatMap (·.declarations options)

/-- Ends each part by a line feed and puts an empty line between two of them. -/
def layOut (parts : List String) : String :=
  String.intercalate "\n" (parts.map (· ++ "\n"))

/-- The header as it is written; none if it is blank. -/
def headerPart (header : String) : List String :=
  let header := Text.trimEnd header
  if header.isEmpty then [] else [header]

def text (features : List Feature) (options : EmitOptions) : String :=
  layOut (headerPart options.header ++ (declarations features options).map (·.text))

def events (features : List Feature) (options : EmitOptions) : List Event :=
  features.flatMap (·.events options) ++
    [.generated (mixins features options).length (declarations features options).length]

end Externs

/-- The externs of a list of features. -/
def generate (features : List Feature) (options : EmitOptions) : Logged String :=
  ⟨Externs.text features options, Externs.events features options⟩

end MixinExterns
