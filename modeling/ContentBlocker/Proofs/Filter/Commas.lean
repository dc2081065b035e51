import ContentBlocker.Filter.OptionValue
/-!
# Commas in the conditions of header options

Commas separate options, so that the value of a header option writes a comma as an escape. Read from
left to right, an escape stands for a comma; a backslash in front of it makes it stand for its own
letters instead. `unescapeHeader` reads an escape in this way if the character in front of it is
still there when the escape is looked at: not at the start of a value, and not behind an escape that
has just become a comma.
-/

namespace ContentBlocker.OptionValue

/-- What is written for a comma. -/
def commaEscape : Text := "\\x2c"

/-- A text decoded from left to right; the flag says whether a backslash stands in front of it. -/
def decode (masked : Bool) : Text → Text
  | '\\' :: 'x' :: '2' :: 'c' :: rest => (if masked then "x2c" else ",") ++ decode false rest
  | c :: rest => c :: decode (c = '\\') rest
  | [] => []

/-- A value in which every escape that stands for a comma has a character of its own in front of it:
none is the start of the value, and none follows another one that stands for a comma. -/
def Separated (value : Text) : Prop :=
  ¬ commaEscape <+: value ∧ ∀ before after,
    value = before ++ commaEscape ++ commaEscape ++ after → before.getLast? = some '\\'

/-- What the two passes make of a text. The flag says whether the character in front of the text can
belong to an escape: it is no backslash, and it has not been passed together with an escape. -/
def unescapeFrom (free : Bool) : Text → Text
  | '\\' :: 'x' :: '2' :: 'c' :: rest =>
    if free then ',' :: unescapeFrom false rest else "x2c" ++ unescapeFrom true rest
  | c :: rest => c :: unescapeFrom (c ≠ '\\') rest
  | [] => []

/-- A text is empty, or begins with an escape or with another character. -/
@[elab_as_elim]
theorem escape_induction {motive : Text → Prop} (nil : motive [])
    (escape : ∀ rest, motive rest → motive (commaEscape ++ rest))
    (cons : ∀ c rest, ¬ commaEscape <+: c :: rest → motive rest → motive (c :: rest))
    (t : Text) : motive t := by
  induction t using dropBackslashes.induct with
  | case1 rest ih => exact escape rest ih
  | case2 c rest other ih =>
    apply cons c rest _ ih
    rintro ⟨after, whole⟩
    cases whole
    exact other _ rfl rfl
  | case3 => exact nil

section Steps

variable {c : Char} {rest : Text}

theorem decode_escape (masked : Bool) (rest : Text) :
    decode masked (commaEscape ++ rest) =
      (if masked then commaEscape.tail else [',']) ++ decode false rest := by
  cases masked <;> rfl

theorem decode_cons (other : ¬ commaEscape <+: c :: rest) (masked : Bool) :
    decode masked (c :: rest) = c :: decode (c = '\\') rest := by
  rw [decode]
  rintro after rfl rfl
  exact other ⟨after, rfl⟩

theorem unescapeFrom_escape (free : Bool) (rest : Text) :
    unescapeFrom free (commaEscape ++ rest) =
      if free then ',' :: unescapeFrom false rest
      else commaEscape.tail ++ unescapeFrom true rest := by
  cases free <;> rfl

theorem unescapeFrom_cons (other : ¬ commaEscape <+: c :: rest) (free : Bool) :
    unescapeFrom free (c :: rest) = c :: unescapeFrom (c ≠ '\\') rest := by
  rw [unescapeFrom]
  rintro after rfl rfl
  exact other ⟨after, rfl⟩

theorem writeCommas_escape (other : c ≠ '\\') (rest : Text) :
    writeCommas (c :: (commaEscape ++ rest)) = c :: ',' :: writeCommas rest := by
  show writeCommas (c :: '\\' :: 'x' :: '2' :: 'c' :: rest) = _
  rw [writeCommas, if_neg other]

theorem writeCommas_cons (other : ¬ commaEscape <+: rest) :
    writeCommas (c :: rest) = c :: writeCommas rest := by
  rw [writeCommas]
  rintro after rfl
  exact other ⟨after, rfl⟩

theorem writeCommas_backslash (rest : Text) :
    writeCommas ('\\' :: rest) = '\\' :: writeCommas rest := by
  by_cases escape : commaEscape <+: rest
  · obtain ⟨after, rfl⟩ := escape
    show writeCommas ('\\' :: '\\' :: 'x' :: '2' :: 'c' :: after) = _
    rw [writeCommas, if_pos rfl]
    rfl
  · exact writeCommas_cons escape

/-- A character is followed by a comma, or by what is written for the rest. -/
theorem writeCommas_cons_cases (c : Char) (rest : Text) :
    (∃ after, writeCommas (c :: rest) = c :: ',' :: after) ∨
      writeCommas (c :: rest) = c :: writeCommas rest := by
  by_cases escape : commaEscape <+: rest
  · obtain ⟨after, rfl⟩ := escape
    by_cases backslash : c = '\\'
    · rw [backslash]
      exact .inr (writeCommas_backslash _)
    · exact .inl ⟨_, writeCommas_escape backslash after⟩
  · exact .inr (writeCommas_cons escape)

/-- Nothing but commas is written in front of letters that were there. -/
theorem prefix_of_prefix_writeCommas {letters t : Text} (noComma : ',' ∉ letters)
    (starts : letters <+: writeCommas t) : letters <+: t := by
  induction letters generalizing t with
  | nil => exact List.nil_prefix
  | cons a letters ih =>
    simp only [List.mem_cons, not_or] at noComma
    cases t with
    | nil =>
      rw [writeCommas] at starts
      exact starts
    | cons c t =>
      obtain ⟨after, comma⟩ | plain := writeCommas_cons_cases c t
      · rw [comma, List.cons_prefix_cons] at starts
        obtain ⟨rfl, behind⟩ := starts
        cases letters with
        | nil => simp
        | cons b letters =>
          rw [List.cons_prefix_cons] at behind
          simp [behind.1] at noComma
      · rw [plain, List.cons_prefix_cons] at starts
        rw [List.cons_prefix_cons]
        exact ⟨starts.1, ih noComma.2 starts.2⟩

theorem dropBackslashes_cons (other : ¬ commaEscape <+: c :: rest) :
    dropBackslashes (c :: rest) = c :: dropBackslashes rest := by
  rw [dropBackslashes]
  rintro after rfl rfl
  exact other ⟨after, rfl⟩

theorem not_escape_prefix_cons (other : c ≠ '\\') (rest : Text) : ¬ commaEscape <+: c :: rest := by
  intro starts
  exact other (List.cons_prefix_cons.1 starts).1.symm

end Steps

/-- The two passes do what one pass does that remembers which character is free. -/
theorem dropBackslashes_writeCommas (t : Text) :
    dropBackslashes (writeCommas t) = unescapeFrom false t ∧
      ∀ c, c ≠ '\\' → dropBackslashes (writeCommas (c :: t)) = c :: unescapeFrom true t := by
  induction t using escape_induction with
  | nil =>
    have nothing : writeCommas [] = [] := by rw [writeCommas]
    rw [nothing]
    refine ⟨rfl, fun c other => ?_⟩
    rw [writeCommas_cons (by decide), nothing,
      dropBackslashes_cons (not_escape_prefix_cons other _)]
    rfl
  | escape rest ih =>
    constructor
    · have letters := ih.2 'c' (by decide)
      have written : writeCommas (commaEscape ++ rest) =
          '\\' :: 'x' :: '2' :: writeCommas ('c' :: rest) := by
        show writeCommas ('\\' :: 'x' :: '2' :: 'c' :: rest) = _
        rw [writeCommas_backslash, writeCommas_cons, writeCommas_cons]
        all_goals exact not_escape_prefix_cons (by decide) _
      obtain ⟨after, last⟩ : ∃ after, writeCommas ('c' :: rest) = 'c' :: after := by
        obtain ⟨after, comma⟩ | plain := writeCommas_cons_cases 'c' rest
        · exact ⟨_, comma⟩
        · exact ⟨_, plain⟩
      rw [last, dropBackslashes_cons (not_escape_prefix_cons (by decide) _)] at letters
      rw [written, last, unescapeFrom_escape, if_neg Bool.false_ne_true, dropBackslashes,
        (List.cons.inj letters).2]
      rfl
    · intro c other
      rw [writeCommas_escape other, dropBackslashes_cons (not_escape_prefix_cons other _),
        dropBackslashes_cons (not_escape_prefix_cons (by decide) _), ih.1, unescapeFrom_escape,
        if_pos rfl]
  | cons d rest noEscape ih =>
    have first : dropBackslashes (writeCommas (d :: rest)) = d :: unescapeFrom (d ≠ '\\') rest := by
      by_cases backslash : d = '\\'
      · subst backslash
        have kept : ¬ commaEscape <+: '\\' :: writeCommas rest := by
          intro starts
          apply noEscape
          have behind := (List.cons_prefix_cons.1 starts).2
          exact List.cons_prefix_cons.2 ⟨rfl, prefix_of_prefix_writeCommas (by decide) behind⟩
        rw [writeCommas_backslash, dropBackslashes_cons kept, ih.1]
        rfl
      · rw [ih.2 d backslash, decide_eq_true backslash]
    refine ⟨?_, fun c other => ?_⟩
    · rw [first, unescapeFrom_cons noEscape]
    · rw [writeCommas_cons noEscape, dropBackslashes_cons (not_escape_prefix_cons other _), first,
        unescapeFrom_cons noEscape]

/-- Of two escapes in succession the first stands for its letters. The flag says whether a backslash
stands in front of the text. -/
def Apart (masked : Bool) (t : Text) : Prop :=
  ∀ before after, t = before ++ commaEscape ++ commaEscape ++ after →
    (before = [] ∧ masked = true) ∨ before.getLast? = some '\\'

theorem apart_escape {masked : Bool} {rest : Text} :
    Apart masked (commaEscape ++ rest) ↔
      (masked = true ∨ ¬ commaEscape <+: rest) ∧ Apart false rest := by
  constructor
  · intro apart
    constructor
    · by_cases first : masked = true
      · exact .inl first
      · right
        intro follows
        obtain ⟨after, rfl⟩ := follows
        simpa [first] using apart [] after (by simp)
    · intro before after whole
      have last := apart (commaEscape ++ before) after (by simp [whole])
      right
      cases before with
      | nil => simp [commaEscape] at last
      | cons c before => simpa [commaEscape] using last
  · rintro ⟨first, apart⟩ before after whole
    -- a second escape begins behind the first one, which has no other backslash
    match before with
    | [] =>
      have follows : commaEscape <+: rest := by
        simp only [List.nil_append, List.append_assoc, List.append_cancel_left_eq] at whole
        exact ⟨after, whole.symm⟩
      exact .inl ⟨rfl, first.resolve_right (not_not_intro follows)⟩
    | [_] | [_, _] | [_, _, _] => simp [commaEscape] at whole
    | a :: b :: c :: d :: before =>
      obtain ⟨rfl, rfl, rfl, rfl, behind⟩ : '\\' = a ∧ 'x' = b ∧ '2' = c ∧ 'c' = d ∧
          rest = before ++ commaEscape ++ commaEscape ++ after := by
        simpa [commaEscape] using whole
      have last := apart before after behind
      right
      cases before with
      | nil => simp at last
      | cons e before => simpa using last

theorem apart_cons {masked : Bool} {c : Char} {rest : Text} (other : ¬ commaEscape <+: c :: rest) :
    Apart masked (c :: rest) ↔ Apart (c = '\\') rest := by
  constructor
  · intro apart before after whole
    have last := apart (c :: before) after (by simp [whole])
    cases before with
    | nil => simpa using last
    | cons d before => simpa using last
  · intro apart before after whole
    cases before with
    | nil =>
      refine absurd ?_ other
      rw [whole, List.append_assoc]
      exact List.prefix_append _ _
    | cons d before =>
      simp only [List.cons_append, List.cons.injEq] at whole
      obtain ⟨rfl, whole⟩ := whole
      have last := apart before after whole
      right
      cases before with
      | nil => simpa using last
      | cons d before => simpa using last

/-- The two ways of reading agree exactly on the texts in which no escape is a comma for only one of
them. -/
theorem unescapeFrom_eq_decode_iff (t : Text) :
    (unescapeFrom false t = decode false t ↔ ¬ commaEscape <+: t ∧ Apart false t) ∧
      ∀ masked, unescapeFrom (!masked) t = decode masked t ↔ Apart masked t := by
  induction t using escape_induction with
  | nil =>
    have nothing : ∀ masked, Apart masked [] := by
      intro masked before after whole
      simp [commaEscape] at whole
    simp [unescapeFrom, decode, nothing, commaEscape]
  | escape rest ih =>
    have starts : commaEscape <+: commaEscape ++ rest := List.prefix_append _ _
    constructor
    · refine iff_of_false ?_ (fun both => both.1 starts)
      rw [unescapeFrom_escape, decode_escape]
      simp [commaEscape]
    · intro masked
      rw [unescapeFrom_escape, decode_escape, apart_escape]
      cases masked with
      | true => simpa using ih.2 false
      | false => simpa using ih.1
  | cons c rest other ih =>
    have behind : ∀ free masked, unescapeFrom free (c :: rest) = decode masked (c :: rest) ↔
        Apart masked (c :: rest) := by
      intro free masked
      rw [unescapeFrom_cons other, decode_cons other, apart_cons other, List.cons_inj_right,
        ← ih.2, decide_not]
    exact ⟨by simp [behind, other], fun masked => behind _ masked⟩

/-- The condition that the value of a header option writes is the value decoded from left to right
exactly if every escape that stands for a comma has a character of its own in front of it. -/
theorem unescapeHeader_eq_decode_iff (value : Text) :
    unescapeHeader value = decode false value ↔ Separated value := by
  rw [unescapeHeader, (dropBackslashes_writeCommas value).1, (unescapeFrom_eq_decode_iff value).1]
  simp [Separated, Apart]

/-- An escape at the start of a value, or behind another one, keeps its letters. -/
theorem not_unescapeHeader_eq_decode :
    ¬ ∀ value, unescapeHeader value = decode false value := by
  intro claimed
  have start := claimed "\\x2cx-ad"
  rw [unescapeHeader, (dropBackslashes_writeCommas _).1] at start
  revert start
  decide

-- The second of two escapes is decoded if the first one stands for its letters.
example : decode false "a\\\\x2c\\x2cb" = "a\\x2c,b".toList := by decide

end ContentBlocker.OptionValue
