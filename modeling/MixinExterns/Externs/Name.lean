/-!
Dotted identifiers. Only the last dot counts: what stands before it is the namespace. The record
type of an identifier joins the two parts by a low line.
-/

namespace MixinExterns

/-- An identifier split at its last dot. -/
structure QualifiedName where
  space : Option String
  base : String
  deriving DecidableEq, Repr

namespace QualifiedName

/-- The parts before and after the last dot. -/
def splitAtLastDot : List Char → Option (List Char × List Char)
  | [] => none
  | c :: rest =>
    match splitAtLastDot rest with
    | some (before, after) => some (c :: before, after)
    | none => if c = '.' then some ([], rest) else none

def ofIdentifier (identifier : String) : QualifiedName :=
  match splitAtLastDot identifier.toList with
  | some (before, after) => ⟨some (String.ofList before), String.ofList after⟩
  | none => ⟨none, identifier⟩

def combined (n : QualifiedName) : String :=
  match n.space with
  | some space => space ++ "_" ++ n.base
  | none => n.base

theorem splitAtLastDot_eq_none {s : List Char} : splitAtLastDot s = none ↔ '.' ∉ s := by
  induction s with
  | nil => simp [splitAtLastDot]
  | cons c rest ih =>
    cases h : splitAtLastDot rest with
    | some r => simp_all [splitAtLastDot]
    | none =>
      have := ih.1 h
      by_cases hc : c = '.'
      · simp [splitAtLastDot, h, hc]
      · simp [splitAtLastDot, h, hc, this, Ne.symm hc]

theorem eq_append_of_splitAtLastDot {s before after : List Char}
    (h : splitAtLastDot s = some (before, after)) : s = before ++ '.' :: after ∧ '.' ∉ after := by
  induction s generalizing before with
  | nil => simp [splitAtLastDot] at h
  | cons c rest ih =>
    unfold splitAtLastDot at h
    split at h
    · next b a hr =>
      simp only [Option.some.injEq, Prod.mk.injEq] at h
      obtain ⟨rfl, rfl⟩ := h
      have := ih hr
      exact ⟨by rw [this.1]; rfl, this.2⟩
    · next hr =>
      split at h
      · next hc =>
        simp only [Option.some.injEq, Prod.mk.injEq] at h
        obtain ⟨rfl, rfl⟩ := h
        exact ⟨by simp [hc], splitAtLastDot_eq_none.1 hr⟩
      · simp at h

/-- An identifier is split at a dot that no other one follows. -/
theorem splitAtLastDot_append (before : List Char) {after : List Char} (h : '.' ∉ after) :
    splitAtLastDot (before ++ '.' :: after) = some (before, after) := by
  induction before with
  | nil => simp [splitAtLastDot, splitAtLastDot_eq_none.mpr h]
  | cons c before ih => simp [splitAtLastDot, ih]

theorem ofIdentifier_joined (space : String) {base : String} (h : '.' ∉ base.toList) :
    ofIdentifier (space ++ "." ++ base) = ⟨some space, base⟩ := by
  have hsplit := splitAtLastDot_append space.toList h
  simp [ofIdentifier, hsplit]

/-- What lies in a namespace has its name, a dot, and a part without dots. -/
theorem space_ofIdentifier_eq_some {identifier space : String} :
    (ofIdentifier identifier).space = some space ↔
      ∃ base, '.' ∉ base.toList ∧ identifier = space ++ "." ++ base := by
  constructor
  · intro h
    unfold ofIdentifier at h
    split at h
    · next before after hsplit =>
      obtain ⟨hchars, hdot⟩ := eq_append_of_splitAtLastDot hsplit
      obtain rfl := Option.some.inj h
      exact ⟨String.ofList after, by simpa using hdot, String.toList_inj.mp (by simp [hchars])⟩
    · simp at h
  · rintro ⟨base, hdot, rfl⟩
    rw [ofIdentifier_joined space hdot]

end QualifiedName

end MixinExterns
