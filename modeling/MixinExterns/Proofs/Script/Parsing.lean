import MixinExterns.Script.Parser.Statement

/-!
What parsers do with the tokens ahead of them. A parser *takes* a value from some tokens if, from
every state with these tokens to come and room to read them, it gives the value, leaves the rest
and reports nothing; it *fails* on them at a place if it stops there. Both compose along the steps
of a parser, so a production is followed step by step without a look at the whole state.
-/

namespace MixinExterns.Script

open MixinExterns.Script.Parser

variable {α β : Type} {c : Context} {ts mid rest : List Token} {t : Token} {a : α} {b : β}

/-- From the tokens `ts` the parser gives `a`, leaves `rest` and reports nothing. -/
def Takes (p : Parser α) (c : Context) (ts : List Token) (a : α) (rest : List Token) : Prop :=
  rest.length ≤ ts.length ∧ ∀ s : State, s.tokens = ts → ts.length < s.bound →
    ∃ s', p c s = .done a s' ∧ s'.tokens = rest ∧ s'.bound = s.bound ∧ s'.faults = s.faults

/-- From the tokens `ts` the parser fails at a place and leaves `rest`. -/
def Fails (p : Parser α) (c : Context) (ts : List Token) (place : Nat) (rest : List Token) : Prop :=
  rest.length ≤ ts.length ∧ ∀ s : State, s.tokens = ts → ts.length < s.bound →
    ∃ s', p c s = .failed place s' ∧ s'.tokens = rest ∧ s'.bound = s.bound

theorem takes_pure : Takes (pure a) c ts a ts :=
  ⟨Nat.le_refl _, fun s hs _ => ⟨s, rfl, hs, rfl, rfl⟩⟩

theorem bind_done {p : Parser α} {f : α → Parser β} {s s' : State} (h : p c s = .done a s') :
    (p >>= f) c s = f a c s' := by
  simp only [bind, h]

theorem bind_failed {p : Parser α} {f : α → Parser β} {s s' : State} {place : Nat}
    (h : p c s = .failed place s') : (p >>= f) c s = .failed place s' := by
  simp only [bind, h]

theorem Takes.bind {p : Parser α} {f : α → Parser β} (hp : Takes p c ts a mid)
    (hf : Takes (f a) c mid b rest) : Takes (p >>= f) c ts b rest := by
  refine ⟨Nat.le_trans hf.1 hp.1, fun s hs hroom => ?_⟩
  obtain ⟨s₁, hrun₁, hs₁, hbound₁, hfaults₁⟩ := hp.2 s hs hroom
  obtain ⟨s₂, hrun₂, hs₂, hbound₂, hfaults₂⟩ :=
    hf.2 s₁ hs₁ (hbound₁ ▸ Nat.lt_of_le_of_lt hp.1 hroom)
  exact ⟨s₂, (bind_done hrun₁).trans hrun₂, hs₂, hbound₂.trans hbound₁, hfaults₂.trans hfaults₁⟩

theorem Fails.bind {p : Parser α} {f : α → Parser β} {place : Nat} (hp : Fails p c ts place rest) :
    Fails (p >>= f) c ts place rest := by
  refine ⟨hp.1, fun s hs hroom => ?_⟩
  obtain ⟨s₁, hrun, hafter⟩ := hp.2 s hs hroom
  exact ⟨s₁, bind_failed hrun, hafter⟩

theorem Takes.bind_fails {p : Parser α} {f : α → Parser β} {place : Nat}
    (hp : Takes p c ts a mid) (hf : Fails (f a) c mid place rest) :
    Fails (p >>= f) c ts place rest := by
  refine ⟨Nat.le_trans hf.1 hp.1, fun s hs hroom => ?_⟩
  obtain ⟨s₁, hrun₁, hs₁, hbound₁, -⟩ := hp.2 s hs hroom
  obtain ⟨s₂, hrun₂, hs₂, hbound₂⟩ :=
    hf.2 s₁ hs₁ (hbound₁ ▸ Nat.lt_of_le_of_lt hp.1 hroom)
  exact ⟨s₂, (bind_done hrun₁).trans hrun₂, hs₂, hbound₂.trans hbound₁⟩

/-- A step that only looks at the state gives what it sees and changes nothing. -/
theorem takes_of_looks {p : Parser α} (h : ∀ s : State, s.tokens = ts → p c s = .done a s) :
    Takes p c ts a ts :=
  ⟨Nat.le_refl _, fun s hs _ => ⟨s, h s hs, hs, rfl, rfl⟩⟩

theorem takes_context : Takes context c ts c ts :=
  takes_of_looks fun _ _ => rfl

theorem takes_within {p : Parser α} {change : Context → Context}
    (h : Takes p (change c) ts a rest) : Takes (within change p) c ts a rest := h

theorem fails_within {p : Parser α} {change : Context → Context} {place : Nat}
    (h : Fails p (change c) ts place rest) : Fails (within change p) c ts place rest := h

theorem takes_orElse {p : Parser α} {recover : Nat → Parser α} (h : Takes p c ts a rest) :
    Takes (orElse p recover) c ts a rest := by
  refine ⟨h.1, fun s hs hroom => ?_⟩
  obtain ⟨s', hrun, hafter⟩ := h.2 s hs hroom
  exact ⟨s', by simp [orElse, hrun], hafter⟩

theorem fails_orElse {p : Parser α} {recover : Nat → Parser α} {place place' : Nat}
    (hp : Fails p c ts place mid) (hrecover : Fails (recover place) c mid place' rest) :
    Fails (orElse p recover) c ts place' rest := by
  refine ⟨Nat.le_trans hrecover.1 hp.1, fun s hs hroom => ?_⟩
  obtain ⟨s₁, hrun₁, hs₁, hbound₁⟩ := hp.2 s hs hroom
  obtain ⟨s₂, hrun₂, hs₂, hbound₂⟩ :=
    hrecover.2 s₁ hs₁ (hbound₁ ▸ Nat.lt_of_le_of_lt hp.1 hroom)
  exact ⟨s₂, by simp [orElse, hrun₁, hrun₂], hs₂, hbound₂.trans hbound₁⟩

/-- A step that reads the state gives the same from every state with the same tokens to come. -/
theorem takes_state {f : State → Parser β}
    (h : ∀ s : State, s.tokens = ts → ts.length < s.bound → Takes (f s) c ts b rest) :
    Takes (state >>= f) c ts b rest := by
  refine ⟨(h { tokens := ts } rfl (by simp)).1, fun s hs hroom => ?_⟩
  exact (h s hs hroom).2 s hs hroom

theorem fails_state {f : State → Parser β} {place : Nat}
    (h : ∀ s : State, s.tokens = ts → ts.length < s.bound → Fails (f s) c ts place rest) :
    Fails (state >>= f) c ts place rest :=
  ⟨(h { tokens := ts } rfl (by simp)).1, fun s hs hroom => (h s hs hroom).2 s hs hroom⟩

theorem takes_lastStart {f : Nat → Parser β} (h : ∀ place, Takes (f place) c ts b rest) :
    Takes (lastStart >>= f) c ts b rest :=
  ⟨(h 0).1, fun s hs hroom => (h s.lastStart).2 s hs hroom⟩

theorem fails_fail {place : Nat} : Fails (fail place : Parser α) c ts place ts :=
  ⟨Nat.le_refl _, fun s hs _ => ⟨s, rfl, hs, rfl⟩⟩

/-- In front of the tokens `ts` two parsers do the same. -/
def ActsAs (p q : Parser α) (c : Context) (ts : List Token) : Prop :=
  ∀ s : State, s.tokens = ts → p c s = q c s

theorem ActsAs.refl (p : Parser α) : ActsAs p p c ts := fun _ _ => rfl

theorem ActsAs.look {p : Parser α} {f : α → Parser β} {q : Parser β}
    (hp : ∀ s : State, s.tokens = ts → p c s = .done a s) (hf : ActsAs (f a) q c ts) :
    ActsAs (p >>= f) q c ts := by
  intro s hs
  exact (bind_done (hp s hs)).trans (hf s hs)

theorem ActsAs.takes {p q : Parser α} (h : ActsAs p q c ts) (hq : Takes q c ts a rest) :
    Takes p c ts a rest :=
  ⟨hq.1, fun s hs hroom => h s hs ▸ hq.2 s hs hroom⟩

theorem ActsAs.fails {p q : Parser α} {place : Nat} (h : ActsAs p q c ts)
    (hq : Fails q c ts place rest) : Fails p c ts place rest :=
  ⟨hq.1, fun s hs hroom => h s hs ▸ hq.2 s hs hroom⟩

theorem takes_peek : Takes peek c ts (ts.head?.map (·.lexeme)) ts :=
  takes_of_looks fun s hs => by simp [peek, hs]

theorem takes_peekBehind : Takes peekBehind c ts ((ts.drop 1).head?.map (·.lexeme)) ts :=
  takes_of_looks fun s hs => by simp [peekBehind, hs]

theorem takes_lineBreak : Takes lineBreak c ts (ts.head?.any (·.afterLineBreak)) ts :=
  takes_of_looks fun s hs => by simp [lineBreak, hs]

theorem takes_here : Takes here c (t :: ts) t.start (t :: ts) :=
  takes_of_looks fun s hs => by simp [here, hs]

theorem takes_begin : Takes begin c (t :: ts) t.start (t :: ts) :=
  takes_of_looks fun s hs => by simp [begin, hs]

theorem takes_sees (l : Lexeme) :
    Takes (sees l) c ts (decide (ts.head?.map (·.lexeme) = some l)) ts :=
  takes_peek.bind takes_pure

/-- Whether a token is one that a parser can look at without failing. -/
def Token.IsValid (t : Token) : Prop := ∀ place, t.lexeme ≠ .invalid place

theorem takes_current? (ht : t.IsValid) :
    Takes current? c (t :: ts) (some t.lexeme) (t :: ts) := by
  apply takes_peek.bind
  simp only [List.head?_cons, Option.map_some]
  split
  · next heq => exact absurd (Option.some.inj heq) (ht _)
  · exact takes_pure

theorem takes_current (ht : t.IsValid) : Takes current c (t :: ts) t.lexeme (t :: ts) :=
  (takes_current? ht).bind takes_pure

theorem takes_advance : Takes advance c (t :: ts) () ts := by
  refine ⟨by simp, fun s hs _ => ?_⟩
  refine ⟨{ s with tokens := ts, lastStart := t.start, lastStop := t.stop }, ?_, rfl, rfl, rfl⟩
  simp [advance, setState, hs]

theorem takes_eatToken {l : Lexeme} (ht : t.lexeme = l) :
    Takes (eatToken l) c (t :: ts) true ts := by
  apply (takes_sees l).bind
  simp only [List.head?_cons, Option.map_some, ht, decide_true, if_true]
  exact takes_advance.bind takes_pure

theorem passes_eatToken {l : Lexeme} (ht : ts.head?.map (·.lexeme) ≠ some l) :
    Takes (eatToken l) c ts false ts := by
  apply (takes_sees l).bind
  simp only [ht, decide_false, Bool.false_eq_true, if_false]
  exact takes_pure

theorem takes_expect {m : Mark} (ht : t.lexeme = .mark m) :
    Takes (expect m) c (t :: ts) () ts := by
  apply (takes_eatToken ht).bind
  exact takes_pure

theorem fails_here : Fails (failHere : Parser α) c (t :: ts) t.start (t :: ts) :=
  takes_here.bind_fails fails_fail

theorem fails_expect {m : Mark} (ht : t.lexeme ≠ .mark m) :
    Fails (expect m) c (t :: ts) t.start (t :: ts) := by
  apply (passes_eatToken (by simpa using ht)).bind_fails
  exact fails_here

theorem takes_reportAll_nil : Takes (reportAll []) c ts () ts :=
  ⟨Nat.le_refl _, fun s hs _ => ⟨s, by simp [reportAll, setState], hs, rfl, rfl⟩⟩

theorem takes_use {e : Expression} (he : e.asValue = []) : Takes (use e) c ts () ts := by
  unfold use
  rw [he]
  exact takes_reportAll_nil

/-- Where an arrow function may begin is not a fault, and no token is taken to note it. -/
theorem takes_setArrowStart (place : Option Nat) :
    Takes (setState fun s => { s with arrowStart := place }) c ts () ts :=
  ⟨Nat.le_refl _, fun s hs _ => ⟨{ s with arrowStart := place }, rfl, hs, rfl, rfl⟩⟩

/-- The step, taken again and again from `a`, ends with `b` and leaves `rest`. -/
def Loops (step : α → Parser (Option α)) (c : Context) (ts : List Token) (a b : α)
    (rest : List Token) : Prop :=
  ∀ n, ts.length < n → Takes (iterate step n a) c ts b rest

theorem loops_done {step : α → Parser (Option α)} (h : Takes (step a) c ts none rest) :
    Loops step c ts a a rest := by
  intro n hn
  obtain ⟨n, rfl⟩ : ∃ k, n = k + 1 := ⟨n - 1, by omega⟩
  exact h.bind takes_pure

theorem Loops.step {step : α → Parser (Option α)} {a' b : α}
    (h : Takes (step a) c ts (some a') mid) (hless : mid.length < ts.length)
    (hloop : Loops step c mid a' b rest) : Loops step c ts a b rest := by
  intro n hn
  obtain ⟨n, rfl⟩ : ∃ k, n = k + 1 := ⟨n - 1, by omega⟩
  exact h.bind (hloop n (by omega))

theorem takes_repeated {step : α → Parser (Option α)} {b : α} (h : Loops step c ts a b rest) :
    Takes (repeated step a) c ts b rest :=
  takes_state fun s _ hroom => h s.bound hroom

/-- A loop whose step does not want the tokens ahead leaves all of them. -/
theorem takes_repeated_none {step : α → Parser (Option α)} (h : Takes (step a) c ts none ts) :
    Takes (repeated step a) c ts a ts :=
  takes_repeated (loops_done h)

/-- The step, taken again and again from `a`, fails at last. -/
def LoopFails (step : α → Parser (Option α)) (c : Context) (ts : List Token) (a : α)
    (place : Nat) (rest : List Token) : Prop :=
  ∀ n, ts.length < n → Fails (iterate step n a) c ts place rest

theorem loopFails_now {step : α → Parser (Option α)} {place : Nat}
    (h : Fails (step a) c ts place rest) : LoopFails step c ts a place rest := by
  intro n hn
  obtain ⟨n, rfl⟩ : ∃ k, n = k + 1 := ⟨n - 1, by omega⟩
  exact h.bind

theorem LoopFails.step {step : α → Parser (Option α)} {a' : α} {place : Nat}
    (h : Takes (step a) c ts (some a') mid) (hless : mid.length < ts.length)
    (hloop : LoopFails step c mid a' place rest) : LoopFails step c ts a place rest := by
  intro n hn
  obtain ⟨n, rfl⟩ : ∃ k, n = k + 1 := ⟨n - 1, by omega⟩
  exact h.bind_fails (hloop n (by omega))

theorem fails_repeated {step : α → Parser (Option α)} {place : Nat}
    (h : LoopFails step c ts a place rest) : Fails (repeated step a) c ts place rest :=
  fails_state fun s _ hroom => h s.bound hroom

end MixinExterns.Script
