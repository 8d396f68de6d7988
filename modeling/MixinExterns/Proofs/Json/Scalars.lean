import MixinExterns.Json.Reader

/-!
Reading does not depend on where a text begins, nor on what follows it. A reader that succeeds on a
text gives the same result when the text stands elsewhere and goes on, and it leaves the rest of it
in front of what follows. All that must not follow is what could go on with a number.
-/

namespace MixinExterns.Json

variable {α : Type} {s : List Char} {p : Position} {c : Cursor}

/-- Whether a text cannot go on with a number that stands in front of it. -/
def EndsNumber (more : List Char) : Prop :=
  ∀ ch ∈ more.head?, digitValue ch = none ∧ ch ≠ '.' ∧ ch ≠ 'e' ∧ ch ≠ 'E'

/-- Whether a reader reads `a` from a text and leaves `rest` of it, wherever the text begins and
whatever follows it. -/
def Reads (r : Reader α) (text : List Char) (a : α) (rest : List Char) : Prop :=
  ∀ more, EndsNumber more → ∀ p, ∃ q, r ⟨text ++ more, p⟩ = .ok (a, ⟨rest ++ more, q⟩)

theorem endsNumber_nil : EndsNumber [] := by simp [EndsNumber]

theorem endsNumber_cons {ch : Char}
    (h : digitValue ch = none ∧ ch ≠ '.' ∧ ch ≠ 'e' ∧ ch ≠ 'E') (more : List Char) :
    EndsNumber (ch :: more) := by
  intro ch' hch
  obtain rfl : ch = ch' := by simpa using hch
  exact h

/-- The place `n` bytes further on in the line. -/
def Position.right (p : Position) (n : Nat) : Position := ⟨p.line, p.column + n⟩

@[simp]
theorem Position.column_right (p : Position) (n : Nat) : (p.right n).column = p.column + n := rfl

@[simp]
theorem Position.right_zero (p : Position) : p.right 0 = p := rfl

@[simp]
theorem Position.right_right (p : Position) (m n : Nat) :
    (p.right m).right n = p.right (m + n) := by
  simp [right, Nat.add_assoc]

theorem after_digit {ch : Char} (h : (digitValue ch).isSome = true) (p : Position) :
    p.after ch = p.right 1 := by
  have hrange : '0' ≤ ch ∧ ch ≤ '9' := by
    unfold digitValue at h
    split at h
    · assumption
    · simp at h
  have hsize : ch.utf8Size = 1 := by
    have hle : ch.val ≤ '9'.val := hrange.2
    have : ch.val ≤ 127 := UInt32.le_trans hle (by decide)
    simp [Char.utf8Size, this]
  have hne : ch ≠ '\n' := by
    rintro rfl
    exact absurd hrange.1 (by decide)
  simp [Position.after, Position.right, hne, hsize]

theorem digitValue_head {more : List Char} {ch : Char} (h : EndsNumber (ch :: more)) :
    digitValue ch = none :=
  (h ch rfl).1

/-- Digits are skipped up to the same place, wherever the text begins and whatever follows it. -/
theorem skipDigits_append (s : List Char) : ∃ rest n, ∀ more, EndsNumber more → ∀ p,
    skipDigits (s ++ more) p = ⟨rest ++ more, p.right n⟩ := by
  induction s with
  | nil =>
    refine ⟨[], 0, fun more hmore p => ?_⟩
    cases more with
    | nil => rfl
    | cons ch more => simp [skipDigits, digitValue_head hmore]
  | cons ch s ih =>
    obtain ⟨rest, n, hskip⟩ := ih
    cases hdigit : (digitValue ch).isSome with
    | true =>
      refine ⟨rest, 1 + n, fun more hmore p => ?_⟩
      simp [skipDigits, hdigit, after_digit hdigit, hskip more hmore]
    | false => exact ⟨ch :: s, 0, fun more _ p => by simp [skipDigits, hdigit]⟩

/-- So many digits are taken into a number, wherever the text begins and whatever follows it. -/
theorem digitsWithin_append (bound : Nat) (s : List Char) (m : Nat) :
    ∃ m' rest n, ∀ more, EndsNumber more → ∀ p,
      digitsWithin bound (s ++ more) p m = (m', ⟨rest ++ more, p.right n⟩) := by
  induction s generalizing m with
  | nil =>
    refine ⟨m, [], 0, fun more hmore p => ?_⟩
    cases more with
    | nil => rfl
    | cons ch more => simp [digitsWithin, digitValue_head hmore]
  | cons ch s ih =>
    cases hdigit : digitValue ch with
    | none => exact ⟨m, ch :: s, 0, fun more _ p => by simp [digitsWithin, hdigit]⟩
    | some d =>
      by_cases hbound : m * 10 + d ≤ bound
      · obtain ⟨m', rest, n, hdigits⟩ := ih (m * 10 + d)
        refine ⟨m', rest, 1 + n, fun more hmore p => ?_⟩
        have hafter : p.after ch = p.right 1 := after_digit (by simp [hdigit]) p
        simp [digitsWithin, hdigit, hbound, hafter, hdigits more hmore]
      · exact ⟨m, ch :: s, 0, fun more _ p => by simp [digitsWithin, hdigit, hbound]⟩

theorem reads_realNumber {negative : Bool} {significand : Nat} {exponent : Int} {a : Number}
    (h : realNumber negative significand exponent ⟨s, p⟩ = .ok (a, c)) :
    c.rest = s ∧ Reads (realNumber negative significand exponent) s a s := by
  unfold realNumber at h
  split at h
  · next x hx =>
    obtain ⟨rfl, rfl⟩ := Prod.mk.inj (Except.ok.inj h)
    exact ⟨rfl, fun more _ p => ⟨p, by simp only [realNumber, hx]⟩⟩
  · simp [Cursor.fail] at h

/-- The digits of an exponent, behind its sign. -/
def exponentDigits (negative : Bool) (significand : Nat) (scale : Int) (down : Bool) :
    Reader Number := fun c =>
  match c.rest with
  | [] => c.fail .endInValue
  | ch :: _ =>
    if (digitValue ch).isNone then c.failAhead .invalidNumber
    else
      let (exponent, c) := digitsWithin exponentBound c.rest c.position 0
      if c.digit?.isSome then
        if significand ≠ 0 && !down then c.failAhead .numberOutOfRange
        else .ok (signed negative 0.0, skipDigits c.rest c.position)
      else
        realNumber negative significand (if down then scale - exponent else scale + exponent) c

/-- Whether an exponent is negative, and where its digits begin. -/
def exponentSign (c : Cursor) : Bool × Cursor :=
  match c.rest with
  | '+' :: _ => (false, c.next)
  | '-' :: _ => (true, c.next)
  | _ => (false, c)

theorem exponentPart_eq (negative : Bool) (significand : Nat) (scale : Int) (c : Cursor) :
    exponentPart negative significand scale c =
      exponentDigits negative significand scale (exponentSign c.next).1
        (exponentSign c.next).2 := rfl

theorem isSome_digit?_append {more : List Char} (hmore : EndsNumber more) (s : List Char)
    (p q : Position) : (Cursor.digit? ⟨s ++ more, q⟩).isSome = (Cursor.digit? ⟨s, p⟩).isSome := by
  cases s with
  | cons ch s => rfl
  | nil =>
    cases more with
    | nil => rfl
    | cons ch more => simp [Cursor.digit?, digitValue_head hmore]

theorem reads_exponentDigits {negative : Bool} {significand : Nat} {scale : Int} {down : Bool}
    {a : Number} (h : exponentDigits negative significand scale down ⟨s, p⟩ = .ok (a, c)) :
    Reads (exponentDigits negative significand scale down) s a c.rest := by
  cases s with
  | nil => simp [exponentDigits, Cursor.fail] at h
  | cons ch s =>
    cases hdigit : digitValue ch with
    | none => simp [exponentDigits, Cursor.failAhead, hdigit] at h
    | some d =>
      obtain ⟨e, rest, n, hdigits⟩ := digitsWithin_append exponentBound (ch :: s) 0
      have hdigits' := hdigits [] endsNumber_nil p
      simp only [List.append_nil] at hdigits'
      simp only [exponentDigits, hdigit, hdigits', Option.isNone_some, Bool.false_eq_true,
        if_false] at h
      intro more hmore q
      have hmatch : exponentDigits negative significand scale down ⟨ch :: s ++ more, q⟩ =
          if (Cursor.digit? ⟨rest, p.right n⟩).isSome then
            if significand ≠ 0 && !down then
              Cursor.failAhead ⟨rest ++ more, q.right n⟩ .numberOutOfRange
            else .ok (signed negative 0.0, skipDigits (rest ++ more) (q.right n))
          else
            realNumber negative significand (if down then scale - e else scale + e)
              ⟨rest ++ more, q.right n⟩ := by
        have hdigits := hdigits more hmore q
        simp only [List.cons_append] at hdigits
        simp only [exponentDigits, List.cons_append, hdigit, hdigits, Option.isNone_some,
          Bool.false_eq_true, if_false, isSome_digit?_append hmore rest (p.right n)]
      rw [hmatch]
      split at h
      · next hmany =>
        split at h
        · simp [Cursor.failAhead] at h
        · next hzero =>
          obtain ⟨rfl, rfl⟩ := Prod.mk.inj (Except.ok.inj h)
          obtain ⟨rest', m, hskip⟩ := skipDigits_append rest
          have hskip' := hskip [] endsNumber_nil (p.right n)
          simp only [List.append_nil] at hskip'
          rw [if_pos hmany, if_neg hzero, hskip more hmore, hskip']
          exact ⟨_, rfl⟩
      · next hmany =>
        obtain ⟨hrest, hreads⟩ := reads_realNumber h
        rw [if_neg hmany, hrest]
        exact hreads more hmore _

theorem exponentSign_append (ch : Char) (s : List Char) : ∃ down rest, ∀ more p, ∃ q,
    exponentSign ⟨ch :: s ++ more, p⟩ = (down, ⟨rest ++ more, q⟩) := by
  by_cases hplus : ch = '+'
  · subst hplus
    exact ⟨false, s, fun more p => ⟨_, rfl⟩⟩
  · by_cases hminus : ch = '-'
    · subst hminus
      exact ⟨true, s, fun more p => ⟨_, rfl⟩⟩
    · exact ⟨false, ch :: s, fun more p => ⟨p, by simp [exponentSign, hplus, hminus]⟩⟩

theorem reads_exponentPart {negative : Bool} {significand : Nat} {scale : Int} {ch : Char}
    {a : Number} (h : exponentPart negative significand scale ⟨ch :: s, p⟩ = .ok (a, c)) :
    Reads (exponentPart negative significand scale) (ch :: s) a c.rest := by
  rw [exponentPart_eq] at h
  change exponentDigits _ _ _ (exponentSign ⟨s, p.after ch⟩).1 (exponentSign ⟨s, p.after ch⟩).2 =
    _ at h
  cases s with
  | nil => simp [exponentSign, exponentDigits, Cursor.fail] at h
  | cons first s =>
    obtain ⟨down, rest, hsign⟩ := exponentSign_append first s
    obtain ⟨q, hsign'⟩ := hsign [] (p.after ch)
    simp only [List.append_nil] at hsign'
    rw [hsign'] at h
    have hreads := reads_exponentDigits h
    intro more hmore place
    rw [exponentPart_eq]
    change ∃ q, exponentDigits _ _ _ (exponentSign ⟨first :: s ++ more, place.after ch⟩).1
      (exponentSign ⟨first :: s ++ more, place.after ch⟩).2 = _
    obtain ⟨q', hsign''⟩ := hsign more (place.after ch)
    rw [hsign'']
    exact hreads more hmore q'

/-- What follows the digits of a fraction: perhaps an exponent. -/
def fractionEnd (negative : Bool) (significand : Nat) (exponent : Int) : Reader Number := fun c =>
  match c.rest with
  | 'e' :: _ | 'E' :: _ => exponentPart negative significand exponent c
  | _ => realNumber negative significand exponent c

theorem reads_fractionEnd {negative : Bool} {significand : Nat} {exponent : Int} {a : Number}
    (h : fractionEnd negative significand exponent ⟨s, p⟩ = .ok (a, c)) :
    Reads (fractionEnd negative significand exponent) s a c.rest := by
  cases s with
  | nil =>
    obtain ⟨hrest, hreads⟩ := reads_realNumber h
    rw [hrest]
    intro more hmore q
    have hend : fractionEnd negative significand exponent ⟨more, q⟩ =
        realNumber negative significand exponent ⟨more, q⟩ := by
      cases more with
      | nil => rfl
      | cons ch more =>
        obtain ⟨-, -, he, hE⟩ := hmore ch rfl
        simp [fractionEnd, he, hE]
    simpa [hend] using hreads more hmore q
  | cons ch s =>
    by_cases he : ch = 'e'
    · subst he
      exact reads_exponentPart h
    · by_cases hE : ch = 'E'
      · subst hE
        exact reads_exponentPart h
      · have hend (text : List Char) (q : Position) :
            fractionEnd negative significand exponent ⟨ch :: text, q⟩ =
              realNumber negative significand exponent ⟨ch :: text, q⟩ := by
          simp [fractionEnd, he, hE]
        rw [hend] at h
        obtain ⟨hrest, hreads⟩ := reads_realNumber h
        rw [hrest]
        intro more hmore q
        simpa [hend] using hreads more hmore q

/-- The digits of a fraction and what follows them. -/
def fractionDigits (negative : Bool) (significand : Nat) (scale : Nat) : Reader Number := fun c =>
  match c.rest with
  | [] => c.failAhead .endInValue
  | ch :: _ =>
    if (digitValue ch).isNone then c.failAhead .invalidNumber
    else
      let (significand, c') := digitsWithin significandBound c.rest c.position significand
      fractionEnd negative significand (scale - ↑(c'.position.column - c.position.column))
        (skipDigits c'.rest c'.position)

theorem fractionPart_eq (negative : Bool) (significand scale : Nat) (c : Cursor) :
    fractionPart negative significand scale c =
      fractionDigits negative significand scale c.next := rfl

theorem reads_fractionPart {negative : Bool} {significand scale : Nat} {ch : Char} {a : Number}
    (h : fractionPart negative significand scale ⟨ch :: s, p⟩ = .ok (a, c)) :
    Reads (fractionPart negative significand scale) (ch :: s) a c.rest := by
  rw [fractionPart_eq] at h
  cases s with
  | nil => simp [Cursor.next, fractionDigits, Cursor.failAhead] at h
  | cons first s =>
    cases hdigit : digitValue first with
    | none => simp [Cursor.next, fractionDigits, Cursor.failAhead, hdigit] at h
    | some d =>
      obtain ⟨m, rest, n, hdigits⟩ := digitsWithin_append significandBound (first :: s) significand
      obtain ⟨rest', n', hskip⟩ := skipDigits_append rest
      have hend (more : List Char) (hmore : EndsNumber more) (q : Position) :
          fractionPart negative significand scale ⟨ch :: first :: s ++ more, q⟩ =
            fractionEnd negative m (scale - ↑n)
              ⟨rest' ++ more, ((q.after ch).right n).right n'⟩ := by
        have hdigits := hdigits more hmore (q.after ch)
        simp only [List.cons_append] at hdigits
        simp [fractionPart_eq, fractionDigits, Cursor.next, hdigit, hdigits, hskip more hmore]
      have hend' := hend [] endsNumber_nil p
      simp only [List.append_nil] at hend'
      rw [← fractionPart_eq, hend'] at h
      have hreads := reads_fractionEnd h
      intro more hmore q
      rw [hend more hmore]
      exact hreads more hmore _

/-- What follows the digits of an integer: perhaps a fraction, or an exponent. -/
def integerEnd (negative : Bool) (significand dropped : Nat) : Reader Number := fun c =>
  match c.rest with
  | '.' :: _ => fractionPart negative significand dropped c
  | 'e' :: _ | 'E' :: _ => exponentPart negative significand dropped c
  | _ =>
    if dropped = 0 then .ok (integerNumber negative significand, c)
    else realNumber negative significand dropped c

/-- Whether an integer ends in front of a text. -/
def EndsInteger (text : List Char) : Prop :=
  ∀ ch ∈ text.head?, ch ≠ '.' ∧ ch ≠ 'e' ∧ ch ≠ 'E'

theorem EndsInteger.append {more : List Char} (h : EndsInteger s) (hmore : EndsNumber more) :
    EndsInteger (s ++ more) := by
  cases s with
  | nil => exact fun ch hch => (hmore ch hch).2
  | cons ch s => exact h

theorem integerEnd_of_ends {negative : Bool} {significand dropped : Nat} (h : EndsInteger s)
    (p : Position) : integerEnd negative significand dropped ⟨s, p⟩ =
      if dropped = 0 then .ok (integerNumber negative significand, ⟨s, p⟩)
      else realNumber negative significand dropped ⟨s, p⟩ := by
  cases s with
  | nil => rfl
  | cons ch s =>
    obtain ⟨hdot, he, hE⟩ := h ch rfl
    simp [integerEnd, hdot, he, hE]

theorem reads_integerEnd_of_ends {negative : Bool} {significand dropped : Nat} {a : Number}
    (hends : EndsInteger s) (h : integerEnd negative significand dropped ⟨s, p⟩ = .ok (a, c)) :
    Reads (integerEnd negative significand dropped) s a c.rest := by
  rw [integerEnd_of_ends hends] at h
  intro more hmore q
  rw [integerEnd_of_ends (hends.append hmore)]
  split at h
  · next hnone =>
    obtain ⟨rfl, rfl⟩ := Prod.mk.inj (Except.ok.inj h)
    exact ⟨q, if_pos hnone⟩
  · next hsome =>
    obtain ⟨hrest, hreads⟩ := reads_realNumber h
    rw [if_neg hsome, hrest]
    exact hreads more hmore q

theorem reads_integerEnd {negative : Bool} {significand dropped : Nat} {a : Number}
    (h : integerEnd negative significand dropped ⟨s, p⟩ = .ok (a, c)) :
    Reads (integerEnd negative significand dropped) s a c.rest := by
  cases s with
  | nil => exact reads_integerEnd_of_ends (by simp [EndsInteger]) h
  | cons ch s =>
    by_cases hdot : ch = '.'
    · subst hdot
      exact reads_fractionPart h
    · by_cases he : ch = 'e'
      · subst he
        exact reads_exponentPart h
      · by_cases hE : ch = 'E'
        · subst hE
          exact reads_exponentPart h
        · exact reads_integerEnd_of_ends (by simp [EndsInteger, hdot, he, hE]) h

/-- A number is read alike, wherever it stands. -/
theorem reads_number {negative : Bool} {a : Number}
    (h : number negative ⟨s, p⟩ = .ok (a, c)) : Reads (number negative) s a c.rest := by
  cases s with
  | nil => simp [number, Cursor.fail] at h
  | cons ch s =>
    obtain ⟨m, rest, n, hdigits⟩ := digitsWithin_append significandBound (ch :: s) 0
    obtain ⟨rest', n', hskip⟩ := skipDigits_append rest
    have hnumber (more : List Char) (hmore : EndsNumber more) (q : Position) :
        number negative ⟨ch :: s ++ more, q⟩ =
          if (digitValue ch).isNone then
            Cursor.failAhead ⟨ch :: s ++ more, q⟩ .invalidNumber
          else if ch = '0' && (Cursor.digit? ⟨s, q⟩).isSome then
            Cursor.failAhead ⟨s ++ more, q.after ch⟩ .invalidNumber
          else integerEnd negative m n' ⟨rest' ++ more, (q.right n).right n'⟩ := by
      have hdigits := hdigits more hmore q
      simp only [List.cons_append] at hdigits
      simp only [List.cons_append, number, Cursor.next, isSome_digit?_append hmore s q, hdigits,
        hskip more hmore, Position.column_right, Nat.add_sub_cancel_left]
      rfl
    have hnumber' := hnumber [] endsNumber_nil p
    simp only [List.append_nil] at hnumber'
    rw [hnumber'] at h
    split at h
    · simp [Cursor.failAhead] at h
    · next hdigit =>
      split at h
      · simp [Cursor.failAhead] at h
      · next hzero =>
        have hreads := reads_integerEnd h
        intro more hmore q
        rw [hnumber more hmore, if_neg hdigit, if_neg (by exact hzero)]
        exact hreads more hmore _

/-- The code unit that four digits spell does not depend on what follows them. -/
theorem codeUnit_append {a b d e : Char} {rest : List Char} {p p' : Position} {n : Nat}
    (h : codeUnit (a :: b :: d :: e :: rest) p = .ok (n, p')) (rest' : List Char) (q : Position) :
    ∃ q', codeUnit (a :: b :: d :: e :: rest') q = .ok (n, q') := by
  have hsizes (rest : List Char) : ¬ (((a :: b :: d :: e :: rest).take 4).foldl
      (fun n c => n + c.utf8Size) 0 < 4) := by
    have ha := a.utf8Size_pos
    have hb := b.utf8Size_pos
    have hd := d.utf8Size_pos
    have he := e.utf8Size_pos
    simp only [List.take_succ_cons, List.take_zero, List.foldl_cons, List.foldl_nil]
    omega
  simp only [codeUnit, if_neg (hsizes rest)] at h
  simp only [codeUnit, if_neg (hsizes rest')]
  cases hnumber : Text.hexNumber? [a, b, d, e] with
  | none => simp [hnumber] at h
  | some m =>
    simp only [hnumber, Except.ok.injEq, Prod.mk.injEq] at h
    exact ⟨_, by rw [← h.1]⟩

section

variable {q : Position} {read rest : List Char}

theorem stringBody_quote (rest : List Char) (p : Position) (read : List Char) :
    stringBody ('"' :: rest) p read = .ok (String.ofList read.reverse, ⟨rest, p.after '"'⟩) := by
  rw [stringBody.eq_def]
  rfl

theorem stringBody_letter {e ch : Char} (h : letterEscape e = some ch) (rest : List Char)
    (p : Position) (read : List Char) : stringBody ('\\' :: e :: rest) p read =
      stringBody rest ((p.after '\\').after e) (ch :: read) := by
  rw [stringBody.eq_def]
  simp only [h]
  rfl

/-- A code unit stands for a character unless it belongs to a surrogate pair. -/
theorem stringBody_unit {a b d e : Char} {unit : Nat}
    (hunit : codeUnit (a :: b :: d :: e :: rest) ((p.after '\\').after 'u') = .ok (unit, q))
    (htrailing : isTrailing unit = false) (hleading : isLeading unit = false)
    (read : List Char) : stringBody ('\\' :: 'u' :: a :: b :: d :: e :: rest) p read =
      stringBody rest q (Char.ofNat unit :: read) := by
  rw [stringBody.eq_def]
  simp only [show letterEscape 'u' = none from rfl, hunit, htrailing, hleading]
  rfl

theorem stringBody_pair {a b d e a' b' d' e' : Char} {unit unit' : Nat} {q' : Position}
    (hunit : codeUnit (a :: b :: d :: e :: '\\' :: 'u' :: a' :: b' :: d' :: e' :: rest)
      ((p.after '\\').after 'u') = .ok (unit, q))
    (hunit' : codeUnit (a' :: b' :: d' :: e' :: rest) ((q.after '\\').after 'u') =
      .ok (unit', q'))
    (htrailing : isTrailing unit = false) (hleading : isLeading unit = true)
    (htrailing' : isTrailing unit' = true) (read : List Char) :
    stringBody ('\\' :: 'u' :: a :: b :: d :: e :: '\\' :: 'u' :: a' :: b' :: d' :: e' :: rest)
        p read =
      stringBody rest q'
        (Char.ofNat ((unit - 0xD800) * 0x400 + (unit' - 0xDC00) + 0x10000) :: read) := by
  rw [stringBody.eq_def]
  simp only [show letterEscape 'u' = none from rfl, hunit, hunit', htrailing, hleading, htrailing']
  rfl

theorem stringBody_other {ch : Char} (hquote : ch ≠ '"') (hslash : ch ≠ '\\')
    (hcontrol : ¬ ch.toNat < 0x20) (rest : List Char) (p : Position) (read : List Char) :
    stringBody (ch :: rest) p read = stringBody rest (p.after ch) (ch :: read) := by
  rw [stringBody.eq_def]
  simp only [if_neg hquote, if_neg hslash, if_neg hcontrol]

end

theorem stringBody_append {p : Position} {read : List Char} {a : String}
    (h : stringBody s p read = .ok (a, c)) (more : List Char) (q : Position) :
    ∃ q', stringBody (s ++ more) q read = .ok (a, ⟨c.rest ++ more, q'⟩) := by
  fun_induction stringBody s p read generalizing q with
  | case2 rest p read =>
    obtain ⟨rfl, rfl⟩ := Prod.mk.inj (Except.ok.inj h)
    exact ⟨q.after '"', stringBody_quote _ _ _⟩
  | case4 p read e rest ch hletter _ ih =>
    simp only [List.cons_append, stringBody_letter hletter]
    exact ih h _
  | case8 p read e hletter hu unit p' htrailing a b d e' tail hleading _ hunit ih =>
    obtain rfl := Decidable.not_not.mp hu
    obtain ⟨place, hunit'⟩ := codeUnit_append hunit (tail ++ more) ((q.after '\\').after 'u')
    simp only [List.cons_append]
    rw [stringBody_unit hunit' (by simpa using htrailing) (by simpa using hleading)]
    exact ih h place
  | case13 p read e hletter hu unit p' htrailing a b d e' hleading unit' p'' htrailing' a' b' d' e''
      tail point _ hunit' hunit ih =>
    obtain rfl := Decidable.not_not.mp hu
    obtain ⟨place, hread⟩ := codeUnit_append hunit
      ('\\' :: 'u' :: a' :: b' :: d' :: e'' :: (tail ++ more)) ((q.after '\\').after 'u')
    obtain ⟨place', hread'⟩ :=
      codeUnit_append hunit' (tail ++ more) ((place.after '\\').after 'u')
    simp only [List.cons_append]
    rw [stringBody_pair hread hread' (by simpa using htrailing) (by simpa using hleading)
      (by simpa using htrailing')]
    exact ih h place'
  | case19 ch rest p read hquote hslash hcontrol ih =>
    rw [List.cons_append, stringBody_other hquote hslash hcontrol]
    exact ih h _
  | _ => cases h

/-- A string is read alike, wherever it stands. -/
theorem reads_string {ch : Char} {a : String} (h : string ⟨ch :: s, p⟩ = .ok (a, c)) :
    Reads string (ch :: s) a c.rest :=
  fun more _ q => stringBody_append h more (q.after ch)

theorem word_append {ws : List Char} (h : word ws ⟨s, p⟩ = .ok c) (more : List Char)
    (q : Position) : ∃ q', word ws ⟨s ++ more, q⟩ = .ok ⟨c.rest ++ more, q'⟩ := by
  induction ws generalizing s p q with
  | nil =>
    obtain rfl := Except.ok.inj h
    exact ⟨q, rfl⟩
  | cons w ws ih =>
    cases s with
    | nil => simp [word, Cursor.fail] at h
    | cons ch s =>
      by_cases hword : ch = w
      · simp only [word, if_pos hword] at h
        simp only [List.cons_append, word, if_pos hword]
        exact ih h (q.after ch)
      · simp [word, hword, Cursor.failAhead] at h

end MixinExterns.Json
