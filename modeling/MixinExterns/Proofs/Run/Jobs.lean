import MixinExterns.Proofs.Log.Quiet
import MixinExterns.Run

/-!
What a part of a run comes to on a tree of files: its result, the tree it leaves, and reports none
of which is an error. Parts of a run compose: the second one starts from the tree that the first
one leaves, unless the first one fails.
-/

namespace MixinExterns.Job

variable {α β : Type} {t t' t'' : FileTree}

section

variable {p : Job (StateM FileTree) α} {f : α → Job (StateM FileTree) β}
variable {events events' : List Event}

theorem run_bind_of_ok {a : α} (h : (p.run.run events).run t = ((.ok a, events'), t')) :
    ((p >>= f).run.run events).run t = ((f a).run.run events').run t' := by
  rw [ExceptT.run_bind, StateT.run_bind, StateT.run_bind, h]
  rfl

/-- What follows a part that fails does not happen. -/
theorem run_bind_of_error {fault : RunFault}
    (h : (p.run.run events).run t = ((.error fault, events'), t')) :
    ((p >>= f).run.run events).run t = ((.error fault, events'), t') := by
  rw [ExceptT.run_bind, StateT.run_bind, StateT.run_bind, h]
  rfl

theorem run_pure (a : α) :
    ((pure a : Job (StateM FileTree) α).run.run events).run t = ((.ok a, events), t) := rfl

theorem run_report (e : Event) :
    ((report e : Job (StateM FileTree) Unit).run.run events).run t =
      ((.ok (), events ++ [e]), t) := rfl

theorem run_take (x : Logged α) :
    ((take x : Job (StateM FileTree) α).run.run events).run t =
      ((.ok x.value, events ++ x.events), t) := rfl

theorem run_ask {x : StateM FileTree α} {a : α} (h : x.run t = (a, t')) :
    ((ask x).run.run events).run t = ((.ok a, events), t') := by
  change ((x >>= fun a => pure (Except.ok a, events)).run t) = _
  rw [StateT.run_bind, h]
  rfl

theorem run_orFail {ε : Type} (cause : ε → RunFault) (r : Except ε α) :
    ((orFail cause r : Job (StateM FileTree) α).run.run events).run t =
      ((r.mapError cause, events), t) := by
  cases r <;> rfl

end

/-- On the tree `t` the job comes to `r` and leaves `t'`; it reports no errors. -/
def Gives (p : Job (StateM FileTree) α) (t : FileTree) (r : Except RunFault α) (t' : FileTree) :
    Prop :=
  ∀ events, ∃ more, AreQuiet more ∧ (p.run.run events).run t = ((r, events ++ more), t')

theorem gives_pure (a : α) : Gives (pure a) t (.ok a) t :=
  fun events => ⟨[], nofun, by rw [List.append_nil, run_pure]⟩

theorem Gives.bind {p : Job (StateM FileTree) α} {f : α → Job (StateM FileTree) β} {a : α}
    {r : Except RunFault β} (hp : Gives p t (.ok a) t') (hf : Gives (f a) t' r t'') :
    Gives (p >>= f) t r t'' := by
  intro events
  obtain ⟨more, hquiet, hrun⟩ := hp events
  obtain ⟨more', hquiet', hrun'⟩ := hf (events ++ more)
  refine ⟨more ++ more', areQuiet_append hquiet hquiet', ?_⟩
  rw [← List.append_assoc, ← hrun', run_bind_of_ok hrun]

theorem Gives.bind_error {p : Job (StateM FileTree) α} {f : α → Job (StateM FileTree) β}
    {fault : RunFault} (hp : Gives p t (.error fault) t') :
    Gives (p >>= f) t (.error fault) t' := by
  intro events
  obtain ⟨more, hquiet, hrun⟩ := hp events
  exact ⟨more, hquiet, run_bind_of_error hrun⟩

theorem gives_throw (fault : RunFault) :
    Gives (throw fault : Job (StateM FileTree) α) t (.error fault) t :=
  fun events => ⟨[], nofun, by rw [List.append_nil]; rfl⟩

theorem gives_report {e : Event} (h : e.level ≠ .error) : Gives (report e) t (.ok ()) t := by
  refine fun events => ⟨[e], ?_, run_report e⟩
  intro e' he'
  obtain rfl := List.mem_singleton.mp he'
  exact h

theorem gives_take {x : Logged α} (h : x.IsQuiet) : Gives (take x) t (.ok x.value) t :=
  fun _ => ⟨x.events, h, run_take x⟩

theorem gives_ask {x : StateM FileTree α} {a : α} (h : x.run t = (a, t')) :
    Gives (ask x) t (.ok a) t' := by
  refine fun events => ⟨[], nofun, ?_⟩
  rw [List.append_nil]
  exact run_ask h

theorem gives_orFail {ε : Type} (cause : ε → RunFault) (r : Except ε α) :
    Gives (orFail cause r) t (r.mapError cause) t := by
  cases r with
  | ok a => exact gives_pure a
  | error e => exact gives_throw (cause e)

/-- A job goes on with a result, or fails with its cause. -/
theorem gives_orFail_bind {ε : Type} {cause : ε → RunFault} {r : Except ε α}
    {f : α → Job (StateM FileTree) β} {g : α → Except RunFault β}
    (h : ∀ a, r = .ok a → Gives (f a) t (g a) t) :
    Gives (orFail cause r >>= f) t (r.mapError cause >>= g) t := by
  cases r with
  | ok a => exact (gives_pure a).bind (h a rfl)
  | error e => exact (gives_throw (cause e)).bind_error

end MixinExterns.Job
