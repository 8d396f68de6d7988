import Mathlib.Data.Option.Basic
import MixinExterns.Proofs.Tables
import MixinExterns.Toml.Reader

/-!
The entries of a TOML document are in key order. Whatever a line adds, it sets one entry of the
table of the document, and so the keys stay in order from line to line.
-/

namespace MixinExterns.Toml

open Table (increasing_iff increasing_put)

variable {entries entries' : Table Node} {path : List String}

theorem eq_put_of_setEntry {v : Value} (h : setEntry entries path v = some entries') :
    ∃ key node, entries' = entries.put key node := by
  unfold setEntry at h
  split at h
  · cases h
  · split at h
    · cases h
    · exact ⟨_, _, (Option.some.inj h).symm⟩
  · split at h
    · obtain ⟨inner, -, h⟩ := Option.bind_eq_some_iff.mp h
      exact ⟨_, _, (Option.some.inj h).symm⟩
    · obtain ⟨_, -, h⟩ := Option.bind_eq_some_iff.mp h
      obtain ⟨inner, -, h⟩ := Option.bind_eq_some_iff.mp h
      exact ⟨_, _, (Option.some.inj h).symm⟩
    · cases h

theorem eq_put_of_openTable (h : openTable entries path = some entries') :
    ∃ key node, entries' = entries.put key node := by
  unfold openTable at h
  split at h
  · cases h
  · split at h <;> cases h <;> exact ⟨_, _, rfl⟩
  · split at h
    case h_4 => cases h
    all_goals
      obtain ⟨inner, -, h⟩ := Option.bind_eq_some_iff.mp h
      exact ⟨_, _, (Option.some.inj h).symm⟩

theorem eq_put_of_openElement (h : openElement entries path = some entries') :
    ∃ key node, entries' = entries.put key node := by
  unfold openElement at h
  split at h
  · cases h
  · split at h <;> cases h <;> exact ⟨_, _, rfl⟩
  · split at h
    case h_4 => cases h
    all_goals
      obtain ⟨inner, -, h⟩ := Option.bind_eq_some_iff.mp h
      exact ⟨_, _, (Option.some.inj h).symm⟩

/-- What is changed below the table of the document is set as one entry of it; without a section
the change is one of that table itself. -/
theorem eq_put_of_inSection {change : Table Node → Option (Table Node)}
    (h : inSection change entries path = some entries') :
    change entries = some entries' ∨ ∃ key node, entries' = entries.put key node := by
  unfold inSection at h
  split at h
  · exact .inl h
  · split at h
    case h_3 => cases h
    all_goals
      obtain ⟨inner, -, h⟩ := Option.bind_eq_some_iff.mp h
      exact .inr ⟨_, _, (Option.some.inj h).symm⟩

theorem eq_put_of_add {d d' : Draft} {line : Line} (h : d.add line = some d') :
    ∃ key node, d'.entries = d.entries.put key node := by
  cases line with
  | entry key v =>
    obtain ⟨entries, hentries, h⟩ := Option.bind_eq_some_iff.mp h
    obtain rfl := Option.some.inj h
    exact (eq_put_of_inSection hentries).elim eq_put_of_setEntry id
  | table path =>
    obtain ⟨entries, hentries, h⟩ := Option.bind_eq_some_iff.mp h
    obtain rfl := Option.some.inj h
    exact eq_put_of_openTable hentries
  | element path =>
    obtain ⟨entries, hentries, h⟩ := Option.bind_eq_some_iff.mp h
    obtain rfl := Option.some.inj h
    exact eq_put_of_openElement hentries

theorem increasing_add {d d' : Draft} {line : Line} (h : d.add line = some d')
    (hd : d.entries.Increasing) : d'.entries.Increasing := by
  obtain ⟨key, node, hput⟩ := eq_put_of_add h
  exact hput ▸ increasing_put hd key node

theorem increasing_foldlM {lines : List Line} {d d' : Draft}
    (h : lines.foldlM Draft.add d = some d') (hd : d.entries.Increasing) :
    d'.entries.Increasing := by
  induction lines generalizing d with
  | nil =>
    obtain rfl := Option.some.inj h
    exact hd
  | cons line lines ih =>
    rw [List.foldlM_cons] at h
    obtain ⟨next, hnext, h⟩ := Option.bind_eq_some_iff.mp h
    exact ih h (increasing_add hnext hd)

/-- The values of a table are under the keys of what they are made of. -/
theorem map_fst_tableOf (entries : Table Node) :
    (tableOf entries).map (·.1) = entries.map (·.1) := by
  induction entries with
  | nil => simp [tableOf]
  | cons e rest ih =>
    obtain ⟨key, node⟩ := e
    simp [tableOf, ih]

theorem increasing_document {text : String} {t : Table Value} (h : document? text = some t) :
    t.Increasing := by
  obtain ⟨lines, -, h⟩ := Option.bind_eq_some_iff.mp h
  obtain ⟨draft, hdraft, h⟩ := Option.bind_eq_some_iff.mp h
  obtain rfl := Option.some.inj h
  rw [increasing_iff, map_fst_tableOf, ← increasing_iff]
  exact increasing_foldlM hdraft .nil

end MixinExterns.Toml
