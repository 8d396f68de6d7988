import MixinExterns.Config.Decode
import MixinExterns.Proofs.Results
import MixinExterns.Proofs.Tables

/-!
What a config file that decodes says. Each setting is decoded from the entry under its own key
alone, and the entries under all other keys are kept.
-/

namespace MixinExterns.Config

open Toml (Value)

variable {α : Type}

/-- A setting is decoded from the entry under its key, whatever else the table holds. -/
theorem setting_congr {t t' : Table Value} {key : String} (h : t.get? key = t'.get? key)
    (decode : Value → Except Mismatch α) (default : α) :
    setting t key decode default = setting t' key decode default := by
  simp only [setting, h]

theorem emitOfTable_eq_ok {t : Table Value} {emit : EmitOptions} :
    emitOfTable t = .ok emit ↔
      setting t "header" string defaultHeader = .ok emit.header ∧
      setting t "inheritance" tagOf .extending = .ok emit.inheritance ∧
      setting t "namespace" policyOf .any = .ok emit.policy ∧
      setting t "skip-inherited-methods" bool false = .ok emit.skipInheritedMethods ∧
      setting t "static-methods" bool true = .ok emit.staticMethods ∧
      setting t "suppress-override-params" bool true = .ok emit.suppressOverrideParams ∧
      setting t "undefined-return" bool true = .ok emit.undefinedReturn := by
  obtain ⟨policy, suppress, skip, statics, undefinedReturn, inheritance, header⟩ := emit
  simp only [emitOfTable, bind_eq_ok_iff, pure, Except.pure, Except.ok.injEq,
    EmitOptions.mk.injEq]
  constructor
  · rintro ⟨_, h₁, _, h₂, _, h₃, _, h₄, _, h₅, _, h₆, _, h₇, rfl, rfl, rfl, rfl, rfl, rfl, rfl⟩
    exact ⟨h₁, h₂, h₃, h₄, h₅, h₆, h₇⟩
  · rintro ⟨h₁, h₂, h₃, h₄, h₅, h₆, h₇⟩
    exact ⟨_, h₁, _, h₂, _, h₃, _, h₄, _, h₅, _, h₆, _, h₇, rfl, rfl, rfl, rfl, rfl, rfl, rfl⟩

theorem ofTable_eq_ok {t : Table Value} {c : Config} :
    ofTable t = .ok c ↔
      setting t "analysis" path defaultDump = .ok c.analysis ∧
      setting t "check" bool false = .ok c.check ∧
      setting t "output" (fun v => some <$> path v) none = .ok c.output ∧
      emitOfTable t = .ok c.emit ∧ c.unknown = t.without keys := by
  obtain ⟨analysis, output, check, emit, unknown⟩ := c
  simp only [ofTable, bind_eq_ok_iff, pure, Except.pure, Except.ok.injEq, Config.mk.injEq]
  constructor
  · rintro ⟨_, h₁, _, h₂, _, h₃, _, h₄, rfl, rfl, rfl, rfl, rfl⟩
    exact ⟨h₁, h₂, h₃, h₄, rfl⟩
  · rintro ⟨h₁, h₂, h₃, h₄, rfl⟩
    exact ⟨_, h₁, _, h₂, _, h₃, _, h₄, rfl, rfl, rfl, rfl, rfl⟩

end MixinExterns.Config
