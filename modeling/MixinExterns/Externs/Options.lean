import MixinExterns.Mismatch

/-!
The settings of the generated externs.
-/

namespace MixinExterns

/-- Which mixins are emitted: all, or those of exactly one namespace. -/
inductive NamespacePolicy where
  | any
  | only (space : String)
  deriving DecidableEq, Repr, Inhabited

namespace NamespacePolicy

def ofOption : Option String → NamespacePolicy
  | some space => only space
  | none => any

def space? : NamespacePolicy → Option String
  | only space => some space
  | any => none

def admits (policy : NamespacePolicy) (space : Option String) : Bool :=
  match policy with
  | any => true
  | only wanted => space = some wanted

def describe : NamespacePolicy → String
  | any => "Any"
  | only space => "Only(" ++ Text.quoted space ++ ")"

end NamespacePolicy

/-- The tag that links a record to its parents. -/
inductive InheritanceTag where
  | extending
  | implementing
  deriving DecidableEq, Repr, Inhabited

def InheritanceTag.word : InheritanceTag → String
  | extending => "extends"
  | implementing => "implements"

def InheritanceTag.words : List String := ["extends", "implements"]

def InheritanceTag.ofWord (word : String) : Except Mismatch InheritanceTag :=
  if word = "extends" then .ok extending
  else if word = "implements" then .ok implementing
  else .error (.unknownVariant word words)

/-- The text above the declarations unless another is given. -/
def defaultHeader : String :=
  String.intercalate "\n"
    ["/**",
     " * @fileoverview Generated typings for Polymer mixins",
     " * @externs",
     " *",
     " * This file is generated. Do not edit it by hand; regenerate it from the",
     " * package analysis instead.",
     " */",
     "/* eslint-disable */"]

/-- How the externs are written. -/
structure EmitOptions where
  policy : NamespacePolicy := .any
  /-- Leave out the parameters of an overriding method that documents none itself. -/
  suppressOverrideParams : Bool := true
  skipInheritedMethods : Bool := false
  /-- Write the methods of the mixin itself. -/
  staticMethods : Bool := true
  /-- Say of a method without a declared result that it returns nothing. -/
  undefinedReturn : Bool := true
  inheritance : InheritanceTag := .extending
  /-- The text above the declarations. -/
  header : String := defaultHeader
  deriving DecidableEq, Repr, Inhabited

end MixinExterns
