import MixinExterns.Externs.Name
import MixinExterns.Externs.Options
import MixinExterns.Feature.Basic

/-!
The declarations of the externs: a record for each mixin, and behind it its properties and
methods, each with a comment of annotations and a stub of code.
-/

namespace MixinExterns

/-- One line of a documentation comment. -/
inductive Annotation where
  | record
  | link (tag : InheritanceTag) (parent : String)
  | param (type name : String)
  | result (type : String)
  | overriding
  deriving DecidableEq, Repr

def braced (type : String) : String := "\x7b" ++ type ++ "\x7d"

def Annotation.line : Annotation → String
  | record => "@record"
  | link tag parent => "@" ++ tag.word ++ " " ++ braced parent
  | param type name => "@param " ++ braced type ++ " " ++ name
  | result type => "@return " ++ braced type
  | overriding => "@override"

/-- A declaration. -/
inductive Declaration where
  /-- The record type of a mixin, linked to its parents. -/
  | record (name : String) (tag : InheritanceTag) (parents : List String)
  /-- A property of the instances of `owner`. -/
  | property (owner name type : String)
  /-- A method of `target`. -/
  | method (target name : String) (annotations : List Annotation) (params : List String)
  deriving DecidableEq, Repr

namespace Declaration

def comment (annotations : List Annotation) : String :=
  "/**\n" ++ String.join (annotations.map fun a => " * " ++ a.line ++ "\n") ++ " */"

/-- The text of a declaration. A method without annotations has no comment. -/
def text : Declaration → String
  | record name tag parents =>
    comment (.record :: parents.map (.link tag)) ++ "\nfunction " ++ name ++ "()\x7b\x7d"
  | property owner name type =>
    "/** @type " ++ braced type ++ " */\n" ++ owner ++ ".prototype." ++ name ++ ";"
  | method target name annotations params =>
    (if annotations.isEmpty then "" else comment annotations ++ "\n") ++
      target ++ "." ++ name ++ " = function(" ++ String.intercalate ", " params ++
      ")\x7b\x7d;"

end Declaration

/-- Whether a property is declared: it has a name, is not private and not inherited. -/
def Property.isVisible (p : Property) : Bool :=
  !p.name.isEmpty && !p.privacy.isPrivate && !p.isInherited

def Property.declaration (typeName : String) (p : Property) : Declaration :=
  .property typeName p.name (p.type.getD "*")

/-- The type in the annotation of a parameter. Without a declared one it is a wildcard, and for a
rest parameter one that takes any number of arguments. -/
def Param.annotatedType (p : Param) : String :=
  p.type.getD (if p.isRest then "...*" else "*")

namespace Method

/-- Whether a method may be declared at all: it has a name and is not private. -/
def isVisible (m : Method) : Bool := !m.name.isEmpty && !m.privacy.isPrivate

def isIncluded (options : EmitOptions) (m : Method) : Bool :=
  m.isVisible && !(options.skipInheritedMethods && m.isInherited)

/-- Whether the parameters of a method are left to the method that it overrides. -/
def omitsParams (options : EmitOptions) (m : Method) : Bool :=
  m.isOverride && options.suppressOverrideParams && !m.documentsParams

/-- The annotated type of the result, if there is to be one. -/
def annotatedResult (options : EmitOptions) (m : Method) : Option String :=
  match m.returnType with
  | some type => some type
  | none => if options.undefinedReturn && !m.isOverride then some "undefined" else none

def annotations (options : EmitOptions) (m : Method) : List Annotation :=
  (if m.omitsParams options then []
    else m.params.map fun p => .param p.annotatedType p.bareName) ++
  (m.annotatedResult options).toList.map .result ++
  (if m.isOverride then [.overriding] else [])

/-- The declaration of a method of `target`. -/
def declaration (options : EmitOptions) (target : String) (m : Method) : Declaration :=
  .method target m.name (m.annotations options) (m.params.map (·.bareName))

end Method

namespace Feature

def qualifiedName (f : Feature) : QualifiedName := .ofIdentifier f.name

def typeName (f : Feature) : String := f.qualifiedName.combined

def parentTypes (f : Feature) : List String :=
  (f.parents.filter fun p => !p.isEmpty).map fun p => (QualifiedName.ofIdentifier p).combined

def declarations (options : EmitOptions) (f : Feature) : List Declaration :=
  .record f.typeName options.inheritance f.parentTypes ::
    (f.properties.filter (·.isVisible)).map (·.declaration f.typeName) ++
    (f.methods.filter (·.isIncluded options)).map
      (·.declaration options (f.typeName ++ ".prototype")) ++
    (if options.staticMethods then
      (f.staticMethods.filter (·.isIncluded options)).map (·.declaration options f.typeName)
    else [])

end Feature

end MixinExterns
