import MixinExterns.Proofs.Json.Scalars

/-!
How deep the brackets of a JSON text are nested, and what reading it with a limit to that comes to.
The value that a text is read as tells how deep its brackets are nested, since it holds all of them.
Within the limit the text is read as that value, and beyond it the limit is the error, wherever the
deepest brackets stand.
-/

namespace MixinExterns.Json

variable {α : Type} {s : List Char} {p : Position} {c : Cursor}

mutual

/-- How deep the brackets of a value are nested. -/
def Value.nesting : Value → Nat
  | .list items => nestingOfItems items + 1
  | .object members => nestingOfMembers members + 1
  | _ => 0
termination_by structural v => v

def nestingOfItems : List Value → Nat
  | [] => 0
  | v :: items => max v.nesting (nestingOfItems items)
termination_by structural items => items

def nestingOfMembers : List (String × Value) → Nat
  | [] => 0
  | e :: members => max (nestingOfMember e) (nestingOfMembers members)
termination_by structural members => members

def nestingOfMember : String × Value → Nat
  | (_, v) => v.nesting
termination_by structural e => e

end

/-- The greatest of some depths. -/
def deepest (depths : List Nat) : Nat := depths.foldr max 0

@[simp]
theorem deepest_nil : deepest [] = 0 := rfl

@[simp]
theorem deepest_cons (n : Nat) (depths : List Nat) :
    deepest (n :: depths) = max n (deepest depths) := rfl

theorem deepest_le_iff {depths : List Nat} {n : Nat} :
    deepest depths ≤ n ↔ ∀ m ∈ depths, m ≤ n := by
  induction depths with
  | nil => simp
  | cons m depths ih => rw [deepest_cons, Nat.max_le, ih, List.forall_mem_cons]

theorem le_deepest {n : Nat} {depths : List Nat} (h : n ∈ depths) : n ≤ deepest depths :=
  deepest_le_iff.mp (Nat.le_refl _) n h

theorem nesting_list (items : List Value) :
    (Value.list items).nesting = deepest (items.map (·.nesting)) + 1 := by
  have hitems : ∀ items, nestingOfItems items = deepest (items.map (·.nesting)) := by
    intro items
    induction items with
    | nil => rfl
    | cons v items ih => simp [nestingOfItems, ih]
  rw [Value.nesting, hitems]

theorem nesting_object (members : List (String × Value)) :
    (Value.object members).nesting = deepest (members.map (·.2.nesting)) + 1 := by
  have hmembers : ∀ members, nestingOfMembers members = deepest (members.map (·.2.nesting)) := by
    intro members
    induction members with
    | nil => rfl
    | cons e members ih =>
      obtain ⟨key, v⟩ := e
      simp [nestingOfMembers, nestingOfMember, ih]
  rw [Value.nesting, hmembers]

/-- Whether a reader finds that brackets are nested too deep, wherever the text begins and whatever
follows it. -/
def FailsDeep (r : Reader α) (text : List Char) : Prop :=
  ∀ more, EndsNumber more → ∀ p, ∃ q, r ⟨text ++ more, p⟩ = .error ⟨.tooDeep, q⟩

/-- What reading comes to where brackets may be nested `depth` deep: it goes through if those of the
text are not nested deeper, and else that is the error. -/
structure ReadsWithin (depth nesting : Nat) (r : Reader α) (text : List Char) (a : α)
    (rest : List Char) : Prop where
  reads : nesting ≤ depth → Reads r text a rest
  fails : depth < nesting → FailsDeep r text

theorem skip_spaces {spaces : List Char} (h : spaces.all isSpace = true) (text : List Char)
    (p : Position) : ∃ q, Cursor.skip ⟨spaces ++ text, p⟩ = Cursor.skip ⟨text, q⟩ := by
  unfold Cursor.skip
  dsimp only
  induction spaces generalizing p with
  | nil => exact ⟨p, rfl⟩
  | cons first spaces ih =>
    simp only [List.all_cons, Bool.and_eq_true] at h
    rw [List.cons_append, skipSpaces, if_pos h.1]
    exact ih h.2 _

theorem skip_of_not_space {ch : Char} (h : isSpace ch = false) (t : List Char) (p : Position) :
    Cursor.skip ⟨ch :: t, p⟩ = ⟨ch :: t, p⟩ := by
  simp [Cursor.skip, skipSpaces, h]

theorem skip_front {before : List Char} {ch : Char} (hbefore : before.all isSpace = true)
    (hch : isSpace ch = false) (t : List Char) (p : Position) :
    ∃ q, Cursor.skip ⟨before ++ ch :: t, p⟩ = ⟨ch :: t, q⟩ := by
  obtain ⟨q, hskip⟩ := skip_spaces hbefore (ch :: t) p
  exact ⟨q, by rw [hskip, skip_of_not_space hch]⟩

theorem skip_eq_cons {ch : Char} {t : List Char} {q : Position}
    (h : Cursor.skip ⟨s, p⟩ = ⟨ch :: t, q⟩) :
    ∃ before, s = before ++ ch :: t ∧ before.all isSpace = true ∧ isSpace ch = false := by
  unfold Cursor.skip at h
  dsimp only at h
  induction s generalizing p with
  | nil => simp [skipSpaces] at h
  | cons first s ih =>
    rw [skipSpaces] at h
    split at h
    · next hspace =>
      obtain ⟨before, rfl, hbefore, hch⟩ := ih h
      exact ⟨first :: before, rfl, by simp [hspace, hbefore], hch⟩
    · next hspace =>
      simp only [Cursor.mk.injEq, List.cons.injEq] at h
      obtain ⟨⟨rfl, rfl⟩, -⟩ := h
      exact ⟨[], rfl, rfl, by simpa using hspace⟩

theorem skip_append {ch : Char} {t : List Char} {p' : Position}
    (h : Cursor.skip ⟨s, p⟩ = ⟨ch :: t, p'⟩) (more : List Char) (q : Position) :
    ∃ q', Cursor.skip ⟨s ++ more, q⟩ = ⟨ch :: t ++ more, q'⟩ := by
  obtain ⟨before, rfl, hbefore, hch⟩ := skip_eq_cons h
  obtain ⟨q', hskip⟩ := skip_front hbefore hch (t ++ more) q
  exact ⟨q', by simpa using hskip⟩

theorem separator_append {close : Char} {missing : SyntaxFault}
    (h : separator close missing ⟨s, p⟩ = .ok c) (more : List Char) (q : Position) :
    ∃ q', separator close missing ⟨s ++ more, q⟩ = .ok ⟨c.rest ++ more, q'⟩ := by
  unfold separator at h ⊢
  dsimp only at h ⊢
  split at h
  · next tail =>
    dsimp only [Cursor.next] at h
    cases hskip : Cursor.skip ⟨tail, p.after ','⟩ with
    | mk rest place =>
      cases rest with
      | nil => simp [hskip, Cursor.failAhead] at h
      | cons ch t =>
        simp only [hskip] at h
        split at h
        · simp [Cursor.failAhead] at h
        · next hclose =>
          obtain rfl := Except.ok.inj h
          obtain ⟨q', hskip'⟩ := skip_append hskip more (q.after ',')
          exact ⟨q', by simp [Cursor.next, hskip', hclose]⟩
  · simp [Cursor.failAhead] at h

/-- The place of a part: behind a separator, unless it is the first. -/
def toPart (close : Char) (missing : SyntaxFault) (first : Bool) (c : Cursor) :
    Except SyntaxError Cursor :=
  if first then pure c else separator close missing c

/-- Reads at most `bound` parts up to a closing character: the items of a list or the members of an
object. -/
def sequence (close : Char) (missing ended : SyntaxFault) (part : Reader α) :
    Nat → Bool → Reader (List α)
  | 0, _, c => c.failAhead ended
  | bound + 1, first, c =>
    let c := c.skip
    match c.rest with
    | [] => c.failAhead ended
    | ch :: _ =>
      if ch = close then .ok ([], c.next)
      else do
        let c ← toPart close missing first c
        let (a, c) ← part c
        let (as, c) ← sequence close missing ended part bound false c
        return (a :: as, c)

theorem items_eq (item : Reader Value) :
    items item = sequence ']' .expectedListCommaOrEnd .endInList item := by
  funext bound
  induction bound with
  | zero => rfl
  | succ bound ih =>
    funext first c
    simp only [items, sequence, ih]
    cases first <;> rfl

theorem members_eq (item : Reader Value) :
    members item = sequence '\x7d' .expectedObjectCommaOrEnd .endInObject (member item) := by
  funext bound
  induction bound with
  | zero => rfl
  | succ bound ih =>
    funext first c
    simp only [members, sequence, ih]
    cases first <;> rfl

theorem toPart_append {close : Char} {missing : SyntaxFault} {first : Bool}
    (h : toPart close missing first ⟨s, p⟩ = .ok c) (more : List Char) (q : Position) :
    ∃ q', toPart close missing first ⟨s ++ more, q⟩ = .ok ⟨c.rest ++ more, q'⟩ := by
  cases first with
  | true =>
    obtain rfl := Except.ok.inj h
    exact ⟨q, rfl⟩
  | false => exact separator_append h more q

section

variable {close : Char} {missing ended : SyntaxFault} {part : Reader α} {bound : Nat}
  {first : Bool} {ch : Char} {t : List Char} {q : Position}

/-- Reading parts behind spaces either ends at the closing character, or goes on with a part. -/
theorem sequence_of_skip (hskip : c.skip = ⟨ch :: t, q⟩) :
    sequence close missing ended part (bound + 1) first c =
      if ch = close then .ok ([], ⟨t, q.after ch⟩)
      else do
        let c ← toPart close missing first ⟨ch :: t, q⟩
        let (a, c) ← part c
        let (as, c) ← sequence close missing ended part bound false c
        return (a :: as, c) := by
  simp only [sequence, hskip, Cursor.next]

theorem sequence_eq_ok {as : List α} {behind : Cursor}
    (h : sequence close missing ended part bound first c = .ok (as, behind)) :
    ∃ n ch t q, bound = n + 1 ∧ c.skip = ⟨ch :: t, q⟩ ∧
      (ch = close ∧ as = [] ∧ behind = ⟨t, q.after ch⟩ ∨
        ch ≠ close ∧ ∃ c₁ a c₂ as', toPart close missing first ⟨ch :: t, q⟩ = .ok c₁ ∧
          part c₁ = .ok (a, c₂) ∧
          sequence close missing ended part n false c₂ = .ok (as', behind) ∧ as = a :: as') := by
  cases bound with
  | zero => simp [sequence, Cursor.failAhead] at h
  | succ n =>
    cases hskip : c.skip with
    | mk rest q =>
      cases rest with
      | nil => simp [sequence, hskip, Cursor.failAhead] at h
      | cons ch t =>
        refine ⟨n, ch, t, q, rfl, rfl, ?_⟩
        rw [sequence_of_skip hskip] at h
        split at h
        · next hclose =>
          obtain ⟨rfl, rfl⟩ := Prod.mk.inj (Except.ok.inj h)
          exact .inl ⟨hclose, rfl, rfl⟩
        · next hclose =>
          refine .inr ⟨hclose, ?_⟩
          cases hto : toPart close missing first ⟨ch :: t, q⟩ with
          | error e => simp [hto, bind, Except.bind] at h
          | ok c₁ =>
            cases hpart : part c₁ with
            | error e => simp [hto, hpart, bind, Except.bind] at h
            | ok r =>
              obtain ⟨a, c₂⟩ := r
              cases hrest : sequence close missing ended part n false c₂ with
              | error e => simp [hto, hpart, hrest, bind, Except.bind] at h
              | ok r =>
                obtain ⟨as', c₃⟩ := r
                simp only [hto, hpart, hrest, bind, Except.bind, pure, Except.pure,
                  Except.ok.injEq, Prod.mk.injEq] at h
                obtain ⟨rfl, rfl⟩ := h
                exact ⟨c₁, a, c₂, as', rfl, hpart, hrest, rfl⟩

end

section

variable {close : Char} {missing ended : SyntaxFault} {part : Reader α} {first : Bool} {ch : Char}
  {t : List Char} {q : Position} {c₁ : Cursor} {as : List α}

variable (ended part) in
/-- Where parts go on with one of them, they do so wherever they stand. -/
theorem sequence_append (hskip : Cursor.skip ⟨s, p⟩ = ⟨ch :: t, q⟩) (hclose : ch ≠ close)
    (hto : toPart close missing first ⟨ch :: t, q⟩ = .ok c₁) (bound : Nat) (more : List Char)
    (place : Position) : ∃ place',
      sequence close missing ended part (bound + 1) first ⟨s ++ more, place⟩ = do
        let (a, c) ← part ⟨c₁.rest ++ more, place'⟩
        let (as, c) ← sequence close missing ended part bound false c
        return (a :: as, c) := by
  obtain ⟨q', hskip'⟩ := skip_append hskip more place
  obtain ⟨place', hto'⟩ := toPart_append hto more q'
  refine ⟨place', ?_⟩
  simp only [List.cons_append] at hskip' hto'
  rw [sequence_of_skip hskip', if_neg hclose, hto']
  rfl

/-- Parts are read within a limit as each of them is: up to the first that is nested too deep. -/
theorem sequence_within {part' : Reader α} {nesting : α → Nat} {depth bound bound' : Nat}
    (hpart : ∀ {s p a c}, part ⟨s, p⟩ = .ok (a, c) →
      ReadsWithin depth (nesting a) part' s a c.rest)
    (h : sequence close missing ended part bound first ⟨s, p⟩ = .ok (as, c))
    (hbound : bound ≤ bound') :
    ReadsWithin depth (deepest (as.map nesting))
      (sequence close missing ended part' bound' first) s as c.rest := by
  induction bound generalizing bound' first s p as with
  | zero => simp [sequence, Cursor.failAhead] at h
  | succ bound ih =>
    obtain ⟨m, rfl⟩ : ∃ m, bound' = m + 1 := ⟨bound' - 1, by omega⟩
    obtain ⟨n, ch, t, q, hn, hskip, hend | hmore⟩ := sequence_eq_ok h
    · obtain ⟨rfl, rfl, rfl⟩ := hend
      refine ⟨fun _ more _ place => ?_, fun hdeep => absurd hdeep (by simp)⟩
      obtain ⟨q', hskip'⟩ := skip_append hskip more place
      exact ⟨q'.after ch, by rw [sequence_of_skip hskip', if_pos rfl]; rfl⟩
    · obtain ⟨hclose, c₁, a, c₂, as', hto, hread, hrest, rfl⟩ := hmore
      obtain rfl : bound = n := by omega
      have ha : ReadsWithin depth (nesting a) part' c₁.rest a c₂.rest := hpart hread
      have hrest' : ReadsWithin depth (deepest (as'.map nesting))
          (sequence close missing ended part' m false) c₂.rest as' c.rest :=
        ih hrest (by omega)
      have hstep := sequence_append ended part' hskip hclose hto m
      rw [List.map_cons, deepest_cons]
      constructor
      case reads =>
        intro hdepth more hends place
        obtain ⟨place₁, hstep⟩ := hstep more place
        obtain ⟨place₂, hread'⟩ := ha.reads (by omega) more hends place₁
        obtain ⟨place₃, hrest''⟩ := hrest'.reads (by omega) more hends place₂
        refine ⟨place₃, ?_⟩
        rw [hstep, hread']
        simp only [bind, Except.bind, hrest'']
        rfl
      case fails =>
        intro hdepth more hends place
        obtain ⟨place₁, hstep⟩ := hstep more place
        by_cases hfirst : depth < nesting a
        · obtain ⟨place₂, hfail⟩ := ha.fails hfirst more hends place₁
          refine ⟨place₂, ?_⟩
          rw [hstep, hfail]
          rfl
        · obtain ⟨place₂, hread'⟩ := ha.reads (by omega) more hends place₁
          obtain ⟨place₃, hfail⟩ := hrest'.fails (by omega) more hends place₂
          refine ⟨place₃, ?_⟩
          rw [hstep, hread']
          simp only [bind, Except.bind, hfail]

end

theorem member_eq_ok {item : Reader Value} {e : String × Value}
    (h : member item ⟨s, p⟩ = .ok (e, c)) : ∃ body key c₁ t q v, s = '"' :: body ∧
      string ⟨s, p⟩ = .ok (key, c₁) ∧ c₁.skip = ⟨':' :: t, q⟩ ∧
      item ⟨t, q.after ':'⟩ = .ok (v, c) ∧ e = (key, v) := by
  unfold member at h
  dsimp only at h
  split at h
  · next body =>
    cases hstring : string ⟨'"' :: body, p⟩ with
    | error e => simp [hstring, bind, Except.bind] at h
    | ok r =>
      obtain ⟨key, c₁⟩ := r
      simp only [hstring, bind, Except.bind] at h
      cases hskip : c₁.skip with
      | mk rest q =>
        simp only [hskip] at h
        split at h
        · simp [Cursor.failAhead] at h
        · next t =>
          simp only [Cursor.next] at h
          cases hitem : item ⟨t, q.after ':'⟩ with
          | error e => simp [hitem] at h
          | ok r =>
            obtain ⟨v, c₂⟩ := r
            simp only [hitem, pure, Except.pure, Except.ok.injEq, Prod.mk.injEq] at h
            obtain ⟨rfl, rfl⟩ := h
            exact ⟨body, key, c₁, t, q, v, rfl, rfl, hskip, hitem, rfl⟩
        · simp [Cursor.failAhead] at h
  · simp [Cursor.failAhead] at h

/-- A key and a colon lead to the value of a member, wherever they stand. -/
theorem member_append {body rest t : List Char} {key : String} {q : Position}
    (hkey : Reads string ('"' :: body) key rest) (hskip : Cursor.skip ⟨rest, q⟩ = ⟨':' :: t, p⟩)
    (item : Reader Value) {more : List Char} (hmore : EndsNumber more) (place : Position) :
    ∃ place', member item ⟨'"' :: body ++ more, place⟩ = do
      let (v, c) ← item ⟨t ++ more, place'⟩
      return ((key, v), c) := by
  obtain ⟨q₁, hstring⟩ := hkey more hmore place
  obtain ⟨q₂, hskip'⟩ := skip_append hskip more q₁
  refine ⟨q₂.after ':', ?_⟩
  simp only [List.cons_append] at hstring hskip'
  simp only [member, List.cons_append, hstring, bind, Except.bind, hskip', Cursor.next]

theorem member_within {item item' : Reader Value} {depth : Nat} {e : String × Value}
    (hitem : ∀ {s p v c}, item ⟨s, p⟩ = .ok (v, c) →
      ReadsWithin depth v.nesting item' s v c.rest)
    (h : member item ⟨s, p⟩ = .ok (e, c)) :
    ReadsWithin depth e.2.nesting (member item') s e c.rest := by
  obtain ⟨body, key, c₁, t, q, v, rfl, hstring, hskip, hread, rfl⟩ := member_eq_ok h
  have hv : ReadsWithin depth v.nesting item' t v c.rest := hitem hread
  constructor
  case reads =>
    intro hdepth more hmore place
    obtain ⟨place₁, hstep⟩ := member_append (reads_string hstring) hskip item' hmore place
    obtain ⟨place₂, hread'⟩ := hv.reads hdepth more hmore place₁
    exact ⟨place₂, by rw [hstep, hread']; rfl⟩
  case fails =>
    intro hdepth more hmore place
    obtain ⟨place₁, hstep⟩ := member_append (reads_string hstring) hskip item' hmore place
    obtain ⟨place₂, hfail⟩ := hv.fails hdepth more hmore place₁
    exact ⟨place₂, by rw [hstep, hfail]; rfl⟩

/-- Reads a value without brackets, at its first character. -/
def scalar : Reader Value := fun c =>
  match c.rest with
  | [] => c.failAhead .endInValue
  | ch :: _ =>
    if ch = 'n' then do return (.null, ← word ['u', 'l', 'l'] c.next)
    else if ch = 't' then do return (.bool true, ← word ['r', 'u', 'e'] c.next)
    else if ch = 'f' then do return (.bool false, ← word ['a', 'l', 's', 'e'] c.next)
    else if ch = '-' then do
      let (n, c) ← number true c.next
      return (.number n, c)
    else if (digitValue ch).isSome then do
      let (n, c) ← number false c
      return (.number n, c)
    else if ch = '"' then do
      let (s, c) ← string c
      return (.string s, c)
    else c.failAhead .expectedValue

/-- The first character of a value tells whether it is a list, an object or neither. -/
theorem valueWith_of_skip {list object : Reader Value} {ch : Char} {t : List Char}
    (hskip : c.skip = ⟨ch :: t, p⟩) : valueWith list object c =
      if ch = '[' then list ⟨ch :: t, p⟩
      else if ch = '\x7b' then object ⟨ch :: t, p⟩
      else scalar ⟨ch :: t, p⟩ := by
  unfold valueWith
  simp only [hskip]
  by_cases hlist : ch = '['
  · subst hlist
    rfl
  · by_cases hobject : ch = '\x7b'
    · subst hobject
      rfl
    · simp only [if_neg hlist, if_neg hobject]
      rfl

theorem reads_word {ws : List Char} {v a : Value}
    (h : (word ws ⟨s, p⟩ >>= fun c => pure (v, c) : Except SyntaxError (Value × Cursor)) =
      .ok (a, c)) : a = v ∧ ∀ more place, ∃ place',
      (word ws ⟨s ++ more, place⟩ >>= fun c => pure (v, c) :
        Except SyntaxError (Value × Cursor)) = .ok (v, ⟨c.rest ++ more, place'⟩) := by
  cases hword : word ws ⟨s, p⟩ with
  | error e => simp [hword, bind, Except.bind] at h
  | ok c' =>
    simp only [hword, bind, Except.bind, pure, Except.pure, Except.ok.injEq, Prod.mk.injEq] at h
    obtain ⟨rfl, rfl⟩ := h
    refine ⟨rfl, fun more place => ?_⟩
    obtain ⟨place', hword'⟩ := word_append hword more place
    exact ⟨place', by rw [hword']; rfl⟩

theorem reads_map {β : Type} {r : Reader β} {f : β → Value} {a : Value}
    (hr : ∀ {b c}, r ⟨s, p⟩ = .ok (b, c) → Reads r s b c.rest)
    (h : (r ⟨s, p⟩ >>= fun e => pure (f e.1, e.2) : Except SyntaxError (Value × Cursor)) =
      .ok (a, c)) : ∃ b, a = f b ∧ ∀ more, EndsNumber more → ∀ place, ∃ place',
      (r ⟨s ++ more, place⟩ >>= fun e => pure (f e.1, e.2) :
        Except SyntaxError (Value × Cursor)) = .ok (f b, ⟨c.rest ++ more, place'⟩) := by
  cases hread : r ⟨s, p⟩ with
  | error e => simp [hread, bind, Except.bind] at h
  | ok result =>
    obtain ⟨b, c'⟩ := result
    simp only [hread, bind, Except.bind, pure, Except.pure, Except.ok.injEq, Prod.mk.injEq] at h
    obtain ⟨rfl, rfl⟩ := h
    refine ⟨b, rfl, fun more hmore place => ?_⟩
    obtain ⟨place', hread'⟩ := hr hread more hmore place
    exact ⟨place', by rw [hread']; rfl⟩

/-- A value without brackets is read alike, wherever it stands. -/
theorem reads_scalar {v : Value} (h : scalar ⟨s, p⟩ = .ok (v, c)) :
    v.nesting = 0 ∧ Reads scalar s v c.rest := by
  cases s with
  | nil => simp [scalar, Cursor.failAhead] at h
  | cons ch t =>
    by_cases hn : ch = 'n'
    · subst hn
      obtain ⟨rfl, hreads⟩ := reads_word h
      exact ⟨rfl, fun more _ place => hreads more _⟩
    by_cases ht : ch = 't'
    · subst ht
      obtain ⟨rfl, hreads⟩ := reads_word h
      exact ⟨rfl, fun more _ place => hreads more _⟩
    by_cases hf : ch = 'f'
    · subst hf
      obtain ⟨rfl, hreads⟩ := reads_word h
      exact ⟨rfl, fun more _ place => hreads more _⟩
    by_cases hminus : ch = '-'
    · subst hminus
      obtain ⟨b, rfl, hreads⟩ := reads_map (f := .number) reads_number h
      exact ⟨rfl, fun more hmore place => hreads more hmore _⟩
    by_cases hdigit : (digitValue ch).isSome = true
    · have hscalar (text : List Char) (q : Position) : scalar ⟨ch :: text, q⟩ =
          (number false ⟨ch :: text, q⟩ >>= fun e => pure (.number e.1, e.2)) := by
        simp only [scalar, if_neg hn, if_neg ht, if_neg hf, if_neg hminus, if_pos hdigit]
      rw [hscalar] at h
      obtain ⟨b, rfl, hreads⟩ := reads_map reads_number h
      refine ⟨rfl, fun more hmore place => ?_⟩
      rw [List.cons_append, hscalar]
      exact hreads more hmore place
    by_cases hquote : ch = '"'
    · subst hquote
      obtain ⟨b, rfl, hreads⟩ := reads_map (f := .string) reads_string h
      exact ⟨rfl, fun more hmore place => hreads more hmore place⟩
    · simp [scalar, hn, ht, hf, hminus, hdigit, hquote, Cursor.failAhead] at h

/-- A list, at its opening bracket. -/
def listAt (bound : Nat) : Nat → Reader Value
  | 0 => (·.failAhead .tooDeep)
  | depth + 1 => fun c => do
    let (vs, c) ← items (value bound depth) bound true c.next
    return (.list vs, c)

/-- An object, at its opening brace. -/
def objectAt (bound : Nat) : Nat → Reader Value
  | 0 => (·.failAhead .tooDeep)
  | depth + 1 => fun c => do
    let (ms, c) ← members (value bound depth) bound true c.next
    return (.object ms, c)

theorem value_eq (bound depth : Nat) :
    value bound depth = valueWith (listAt bound depth) (objectAt bound depth) := by
  cases depth <;> rfl

/-- Brackets around parts count for one more level than the parts. -/
theorem brackets_within {close : Char} {missing ended : SyntaxFault} {part part' : Reader α}
    {nesting : α → Nat} {build : List α → Value} {depth bound bound' : Nat} {t : List Char}
    {v : Value} (hbuild : ∀ as, (build as).nesting = deepest (as.map nesting) + 1)
    (hpart : ∀ {s p a c}, part ⟨s, p⟩ = .ok (a, c) →
      ReadsWithin depth (nesting a) part' s a c.rest)
    (h : (sequence close missing ended part bound true ⟨t, p⟩ >>= fun e =>
      pure (build e.1, e.2) : Except SyntaxError (Value × Cursor)) = .ok (v, c))
    (hbound : bound ≤ bound') (bracket : Char) : 0 < v.nesting ∧
    ReadsWithin (depth + 1) v.nesting
      (fun c => sequence close missing ended part' bound' true c.next >>= fun e =>
        pure (build e.1, e.2)) (bracket :: t) v c.rest := by
  cases hparts : sequence close missing ended part bound true ⟨t, p⟩ with
  | error e => simp [hparts, bind, Except.bind] at h
  | ok result =>
    obtain ⟨as, c'⟩ := result
    simp only [hparts, bind, Except.bind, pure, Except.pure, Except.ok.injEq, Prod.mk.injEq] at h
    obtain ⟨rfl, rfl⟩ := h
    have has : ReadsWithin depth (deepest (as.map nesting))
        (sequence close missing ended part' bound' true) t as c'.rest :=
      sequence_within hpart hparts hbound
    rw [hbuild]
    refine ⟨by omega, ?_, ?_⟩
    case refine_1 =>
      intro hdepth more hmore place
      obtain ⟨place', hread⟩ := has.reads (by omega) more hmore (place.after bracket)
      exact ⟨place', by simp [Cursor.next, hread, bind, Except.bind, pure, Except.pure]⟩
    case refine_2 =>
      intro hdepth more hmore place
      obtain ⟨place', hfail⟩ := has.fails (by omega) more hmore (place.after bracket)
      exact ⟨place', by simp [Cursor.next, hfail, bind, Except.bind]⟩

/-- A reader that admits no brackets finds all of them nested too deep. -/
theorem tooDeep_within {n : Nat} (h : 0 < n) (text : List Char) (v : Value) (rest : List Char) :
    ReadsWithin 0 n (fun c => c.failAhead .tooDeep) text v rest where
  reads hle := absurd hle (by omega)
  fails _ _ _ _ := ⟨_, rfl⟩

theorem valueWith_within {list object list' object' : Reader Value} {depth : Nat} {v : Value}
    (hlist : ∀ {t p v c}, list ⟨'[' :: t, p⟩ = .ok (v, c) →
      ReadsWithin depth v.nesting list' ('[' :: t) v c.rest)
    (hobject : ∀ {t p v c}, object ⟨'\x7b' :: t, p⟩ = .ok (v, c) →
      ReadsWithin depth v.nesting object' ('\x7b' :: t) v c.rest)
    (h : valueWith list object ⟨s, p⟩ = .ok (v, c)) :
    ReadsWithin depth v.nesting (valueWith list' object') s v c.rest := by
  cases hskip : Cursor.skip ⟨s, p⟩ with
  | mk rest q =>
    cases rest with
    | nil => simp [valueWith, hskip, Cursor.failAhead] at h
    | cons ch t =>
      rw [valueWith_of_skip hskip] at h
      have hwithin : ReadsWithin depth v.nesting (fun c => if ch = '[' then list' c
          else if ch = '\x7b' then object' c else scalar c) (ch :: t) v c.rest := by
        by_cases hopen : ch = '['
        · subst hopen
          exact hlist h
        by_cases hbrace : ch = '\x7b'
        · subst hbrace
          exact hobject h
        simp only [if_neg hopen, if_neg hbrace] at h ⊢
        obtain ⟨hflat, hreads⟩ := reads_scalar h
        exact ⟨fun _ => hreads, fun hdeep => absurd hdeep (by omega)⟩
      constructor
      case reads =>
        intro hdepth more hmore place
        obtain ⟨place', hskip'⟩ := skip_append hskip more place
        rw [valueWith_of_skip hskip']
        exact hwithin.reads hdepth more hmore place'
      case fails =>
        intro hdepth more hmore place
        obtain ⟨place', hskip'⟩ := skip_append hskip more place
        rw [valueWith_of_skip hskip']
        exact hwithin.fails hdepth more hmore place'

/-- What is read with one limit to the nesting of brackets is read with any other limit that its
brackets keep, and else that limit is the error. -/
theorem value_within {bound bound' depth depth' : Nat} {v : Value} (hbound : bound ≤ bound')
    (h : value bound depth ⟨s, p⟩ = .ok (v, c)) :
    ReadsWithin depth' v.nesting (value bound' depth') s v c.rest := by
  rw [value_eq] at h ⊢
  induction depth generalizing depth' s p v c with
  | zero =>
    refine valueWith_within (fun hread => ?_) (fun hread => ?_) h
    · simp [listAt, Cursor.failAhead] at hread
    · simp [objectAt, Cursor.failAhead] at hread
  | succ depth ih =>
    have hitem (depth' : Nat) {s : List Char} {p : Position} {v : Value} {c : Cursor}
        (hread : value bound depth ⟨s, p⟩ = .ok (v, c)) :
        ReadsWithin depth' v.nesting (value bound' depth') s v c.rest := by
      rw [value_eq] at hread ⊢
      exact ih hread
    refine valueWith_within (fun {t q v c} hread => ?_) (fun {t q v c} hread => ?_) h
    · simp only [listAt, items_eq] at hread
      have hwithin (depth' : Nat) := brackets_within nesting_list (hitem depth') hread hbound '['
      cases depth' with
      | zero => exact tooDeep_within (hwithin 0).1 _ _ _
      | succ depth' =>
        have hlist := (hwithin depth').2
        rw [← items_eq] at hlist
        exact hlist
    · simp only [objectAt, members_eq] at hread
      have hwithin (depth' : Nat) := brackets_within nesting_object
        (member_within (hitem depth')) hread hbound '\x7b'
      cases depth' with
      | zero => exact tooDeep_within (hwithin 0).1 _ _ _
      | succ depth' =>
        have hobject := (hwithin depth').2
        rw [← members_eq] at hobject
        exact hobject

end MixinExterns.Json
