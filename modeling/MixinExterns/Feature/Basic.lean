/-!
The features of a package: named constructs with their kinds, the file that declares them, their
parents and their members. Everything that a record may leave out has a default.
-/

namespace MixinExterns

inductive Privacy where
  | everyone
  | heirs
  | ownerOnly
  deriving DecidableEq, Repr, Inhabited

def Privacy.word : Privacy → String
  | everyone => "public"
  | heirs => "protected"
  | ownerOnly => "private"

/-- The visibility that a word stands for; any other word means everyone. -/
def Privacy.ofWord (word : String) : Privacy :=
  if word = "private" then ownerOnly
  else if word = "protected" then heirs
  else everyone

/-- Whether only the owner may use the member. -/
def Privacy.isPrivate (p : Privacy) : Bool := p = ownerOnly

structure SourceRange where
  file : Option String := none
  deriving DecidableEq, Repr, Inhabited

structure Property where
  name : String := ""
  type : Option String := none
  privacy : Privacy := .everyone
  inheritedFrom : Option String := none
  deriving DecidableEq, Repr, Inhabited

def Property.isInherited (p : Property) : Bool := p.inheritedFrom.isSome

/-- A parameter of a method. The name of a rest parameter begins with three dots. -/
structure Param where
  name : String := ""
  type : Option String := none
  description : Option String := none
  deriving DecidableEq, Repr, Inhabited

def Param.isRest (p : Param) : Bool := ['.', '.', '.'].isPrefixOf p.name.toList

/-- The name of a parameter without the dots of a rest parameter. -/
def Param.bareName (p : Param) : String :=
  if p.isRest then String.ofList (p.name.toList.drop 3) else p.name

structure Return where
  type : Option String := none
  deriving DecidableEq, Repr, Inhabited

/-- A documentation comment, as the titles of its block tags. -/
structure DocComment where
  tags : List String := []
  deriving DecidableEq, Repr, Inhabited

/-- A method of a mixin's instances, or of the mixin itself. -/
structure Method where
  name : String := ""
  params : List Param := []
  returned : Option Return := none
  privacy : Privacy := .everyone
  inheritedFrom : Option String := none
  doc : Option DocComment := none
  deriving DecidableEq, Repr, Inhabited

namespace Method

def hasTag (m : Method) (title : String) : Bool := m.doc.any (·.tags.contains title)

/-- Whether the method is marked as overriding another. -/
def isOverride (m : Method) : Bool := m.hasTag "override"

/-- Whether the method's own comment documents a parameter. -/
def documentsParams (m : Method) : Bool := m.hasTag "param"

def isInherited (m : Method) : Bool := m.inheritedFrom.isSome

def returnType (m : Method) : Option String := m.returned.bind (·.type)

end Method

/-- A feature of a package. `kinds` is in increasing order without repetition; `parents` holds
the identifiers of the parent mixins, empty where one is not given. -/
structure Feature where
  name : String := ""
  kinds : List String := []
  sourceRange : Option SourceRange := none
  parents : List String := []
  properties : List Property := []
  methods : List Method := []
  staticMethods : List Method := []
  deriving DecidableEq, Repr, Inhabited

namespace Feature

/-- Whether the feature is tagged as an element mixin. -/
def isMixin (f : Feature) : Bool := f.kinds.contains "element-mixin"

def sourceFile (f : Feature) : Option String := f.sourceRange.bind (·.file)

end Feature

end MixinExterns
