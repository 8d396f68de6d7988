import MixinExterns.Package.FileTree

/-!
What writing a text to a path does to a tree of files: one place changes, and the text can be read
back through the same path. Only the file that is always empty keeps nothing.
-/

namespace MixinExterns.FileTree

/-- The tree `after` is `t` with this text at the place that the path leads to, and nothing else has
changed. The file that is always empty stays empty. -/
def HasWritten (t : FileTree) (path text : String) (after : FileTree) : Prop :=
  ∃ l, t.resolve path [] = .ok l ∧
    (∀ l', l' ≠ l → after.get? l' = t.get? l') ∧
    (t.get? l = some .null → after = t) ∧
    (t.get? l ≠ some .null →
      after.get? l = some (.file text.toUTF8) ∧ after.read path = .ok text)

theorem fromUTF8?_toUTF8 (text : String) : String.fromUTF8? text.toUTF8 = some text := by
  have hvalid : text.toUTF8.IsValidUTF8 := text.isValidUTF8
  unfold String.fromUTF8?
  rw [dif_pos hvalid]
  rfl

theorem standing?_eq_none {t : FileTree} {l : Location}
    (h : t.get? l = none ∨ ∃ bytes, t.get? l = some (.file bytes)) : l.standing? = none := by
  cases hstanding : l.standing? with
  | none => rfl
  | some e =>
    have hget : t.get? l = some e := by simp [get?, hstanding]
    have hkind : e = .folder ∨ e = .null := by
      unfold Location.standing? at hstanding
      split at hstanding
      all_goals simp_all
    rcases h with h | ⟨bytes, h⟩ <;> rcases hkind with rfl | rfl <;> simp [hget] at h

/-- A path still leads to the same place when a file is put where no folder is. -/
theorem follow_put {t : FileTree} {l : Location} (hl : t.get? l ≠ some .folder) (e : Entry)
    {names : List String} {start found : Location} (h : t.follow start names = .ok found) :
    (t.put l e).follow start names = .ok found := by
  induction names generalizing start with
  | nil => exact h
  | cons name names ih =>
    unfold follow at h ⊢
    split at h
    · simp at h
    · next hfolder =>
      -- The path goes on from a folder, so the file is put at another place than this one.
      have hne : start ≠ l := by
        rintro rfl
        exact hl hfolder
      have hsame : (t.put l e).get? start = some .folder := by
        rw [get?_put, if_pos (by simp [hne])]
        exact hfolder
      rw [hsame]
      dsimp only
      split at h
      · simp at h
      · next hshort =>
        rw [if_neg hshort]
        exact ih h
    · simp at h

theorem resolve_put {t : FileTree} {l : Location} (hl : t.get? l ≠ some .folder) (e : Entry)
    {path : String} {behind : List String} {found : Location}
    (h : t.resolve path behind = .ok found) : (t.put l e).resolve path behind = .ok found := by
  unfold resolve at h ⊢
  split at h
  · simp at h
  · next hempty =>
    rw [if_neg hempty]
    split at h
    · simp at h
    · next hnul =>
      rw [if_neg hnul]
      split at h
      · simp at h
      · next hlong =>
        rw [if_neg hlong]
        exact follow_put hl e h

/-- A text that could be written is where it was to be, and nothing else has changed. -/
theorem hasWritten_of_write {t after : FileTree} {path text : String}
    (h : t.write path text = .ok after) : t.HasWritten path text after := by
  unfold write at h
  split at h
  · simp at h
  · next l hresolve =>
    split at h
    · simp at h
    · next hsolidus =>
      have hput (hkind : t.get? l = none ∨ ∃ bytes, t.get? l = some (.file bytes))
          (hafter : t.put l (.file text.toUTF8) = after) : t.HasWritten path text after := by
        subst hafter
        have hfolder : t.get? l ≠ some .folder := by
          rcases hkind with hkind | ⟨bytes, hkind⟩ <;> simp [hkind]
        have hget : (t.put l (.file text.toUTF8)).get? l = some (.file text.toUTF8) := by
          rw [get?_put, if_neg (by simp [standing?_eq_none hkind])]
        have hlocate : (t.put l (.file text.toUTF8)).locate path = .ok l := by
          unfold locate
          rw [if_neg hsolidus]
          exact resolve_put hfolder _ hresolve
        refine ⟨l, hresolve, fun l' hl' => ?_, fun hnull => ?_, fun _ => ⟨hget, ?_⟩⟩
        · rw [get?_put, if_pos (by simp [hl'])]
        · rcases hkind with hkind | ⟨bytes, hkind⟩ <;> simp [hkind] at hnull
        · simp only [read, hlocate, bind, Except.bind, hget, fromUTF8?_toUTF8]
      split at h
      · simp at h
      · next hnull =>
        obtain rfl := Except.ok.inj h
        exact ⟨l, hresolve, fun _ _ => rfl, fun _ => rfl, fun hnot => absurd hnull hnot⟩
      · next bytes hfile => exact hput (.inr ⟨bytes, hfile⟩) (Except.ok.inj h)
      · next hnone => exact hput (.inl hnone) (Except.ok.inj h)

end MixinExterns.FileTree
