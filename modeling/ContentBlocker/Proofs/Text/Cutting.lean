import ContentBlocker.Text.Blank
import Mathlib.Data.List.TakeWhile
/-!
# Cutting texts

What is left when characters are dropped from an end of a text, and what the two sides of a
separator are.
-/

namespace ContentBlocker.Text

theorem dropFirst?_eq_some {c : Char} {t rest : Text} :
    dropFirst? c t = some rest ↔ t = c :: rest := by
  cases t with
  | nil => simp [dropFirst?]
  | cons d t =>
    rw [dropFirst?]
    by_cases same : d = c
    · rw [if_pos same, same, Option.some_inj, List.cons.injEq, and_iff_right rfl]
    · rw [if_neg same]
      exact iff_of_false (by simp) fun h => same (List.cons.inj h).1

theorem dropLast?_eq_some {c : Char} {t rest : Text} :
    dropLast? c t = some rest ↔ t = rest ++ [c] := by
  rw [dropLast?, Option.map_eq_some_iff]
  constructor
  · rintro ⟨back, dropped, rfl⟩
    rw [dropFirst?_eq_some] at dropped
    rw [← List.reverse_cons, ← dropped, List.reverse_reverse]
  · rintro rfl
    exact ⟨rest.reverse, by rw [List.reverse_append]; exact dropFirst?_eq_some.2 rfl,
      List.reverse_reverse rest⟩

/-- Dropping a first character leaves what follows another one. -/
theorem dropFirst?_append {c b : Char} (x t : Text) (other : b ≠ c) :
    ∃ x', (dropFirst? c (x ++ b :: t)).getD (x ++ b :: t) = x' ++ b :: t := by
  cases dropped : dropFirst? c (x ++ b :: t) with
  | none => exact ⟨x, rfl⟩
  | some rest =>
    rw [dropFirst?_eq_some] at dropped
    cases x with
    | nil => exact absurd (List.cons.inj dropped).1 other
    | cons d x => exact ⟨x, (List.cons.inj dropped).2.symm⟩

/-- Dropping a last character leaves what precedes another one. -/
theorem dropLast?_append {c a : Char} (t y : Text) (other : a ≠ c) :
    ∃ y', (dropLast? c (t ++ a :: y)).getD (t ++ a :: y) = t ++ a :: y' := by
  cases dropped : dropLast? c (t ++ a :: y) with
  | none => exact ⟨y, rfl⟩
  | some rest =>
    rw [dropLast?_eq_some] at dropped
    rcases List.eq_nil_or_concat y with rfl | ⟨y, d, rfl⟩
    · exact absurd (List.append_inj' dropped rfl).2 (by simpa using other)
    · rw [List.concat_eq_append, ← List.cons_append, ← List.append_assoc] at dropped
      exact ⟨y, (List.append_inj' dropped rfl).1.symm⟩

theorem getD_dropFirst?_sublist (c : Char) (t : Text) : ((dropFirst? c t).getD t).Sublist t := by
  cases dropped : dropFirst? c t with
  | none => exact .refl t
  | some rest => exact dropFirst?_eq_some.1 dropped ▸ List.sublist_cons_self _ _

theorem getD_dropLast?_sublist (c : Char) (t : Text) : ((dropLast? c t).getD t).Sublist t := by
  cases dropped : dropLast? c t with
  | none => exact .refl t
  | some rest => exact dropLast?_eq_some.1 dropped ▸ List.sublist_append_left _ _

/-- A first character is dropped from the front part, unless the other part begins with it. -/
theorem dropFirst?_append_getD {c : Char} {x t : Text} (other : t.head? ≠ some c) :
    (dropFirst? c (x ++ t)).getD (x ++ t) = (dropFirst? c x).getD x ++ t := by
  cases x with
  | nil =>
    cases t with
    | nil => rfl
    | cons d t => simp [dropFirst?, show d ≠ c by simpa using other]
  | cons d x => by_cases same : d = c <;> simp [dropFirst?, same]

theorem getD_dropLast? (c : Char) (t : Text) :
    (dropLast? c t).getD t = ((dropFirst? c t.reverse).getD t.reverse).reverse := by
  rw [dropLast?]
  cases dropFirst? c t.reverse <;> simp

/-- A last character is dropped from the back part, unless the other part ends with it. -/
theorem dropLast?_append_getD {c : Char} {x t : Text} (other : x.getLast? ≠ some c) :
    (dropLast? c (x ++ t)).getD (x ++ t) = x ++ (dropLast? c t).getD t := by
  have turned := dropFirst?_append_getD (c := c) (x := t.reverse) (t := x.reverse)
    (by simpa using other)
  rw [getD_dropLast?, getD_dropLast?, List.reverse_append, turned, List.reverse_append,
    List.reverse_reverse]

@[simp] theorem byteLength_nil : byteLength [] = 0 := rfl

@[simp] theorem byteLength_cons (c : Char) (t : Text) :
    byteLength (c :: t) = c.utf8Size + t.byteLength := rfl

@[simp] theorem byteLength_append (a b : Text) :
    byteLength (a ++ b) = a.byteLength + b.byteLength := by
  induction a with
  | nil => simp
  | cons c a ih => simp [ih, Nat.add_assoc]

@[simp] theorem byteLength_reverse (t : Text) : byteLength t.reverse = byteLength t := by
  induction t with
  | nil => rfl
  | cons c t ih => simp [ih, Nat.add_comm]

/-- Cutting off the bytes of an end leaves what precedes it. -/
theorem dropBytesEnd?_append (start last : Text) :
    dropBytesEnd? last.byteLength (start ++ last) = some start := by
  have cut : ∀ last start : Text, dropBytesEnd?.go last.byteLength (last ++ start) =
      some start := by
    intro last start
    induction last with
    | nil => rw [byteLength_nil, List.nil_append, dropBytesEnd?.go]
    | cons c rest ih =>
      have positive := Char.utf8Size_pos c
      rw [byteLength_cons, List.cons_append]
      obtain ⟨n, size⟩ : ∃ n, c.utf8Size + byteLength rest = n + 1 :=
        ⟨_, (Nat.succ_pred_eq_of_pos (by omega)).symm⟩
      rw [size, dropBytesEnd?.go, if_pos (by omega), ← size, Nat.add_sub_cancel_left, ih]
  rw [dropBytesEnd?, List.reverse_append, ← byteLength_reverse, cut, Option.map_some,
    List.reverse_reverse]

theorem dropEndWhile_eq_self {p : Char → Bool} {t : Text}
    (last : ∀ c, t.getLast? = some c → ¬ p c) : dropEndWhile p t = t := by
  cases reversed : t.reverse with
  | nil =>
    rw [List.reverse_eq_nil_iff] at reversed
    rw [reversed]
    rfl
  | cons c rest =>
    have isLast : t.getLast? = some c := by
      rw [← List.head?_reverse, reversed, List.head?_cons]
    rw [dropEndWhile, reversed, List.dropWhile_cons_of_neg (last c isLast), ← reversed,
      List.reverse_reverse]

theorem dropEndWhile_sublist (p : Char → Bool) (t : Text) : (dropEndWhile p t).Sublist t := by
  rw [dropEndWhile, ← List.reverse_sublist, List.reverse_reverse]
  exact List.dropWhile_sublist p

theorem trim_sublist (t : Text) : t.trim.Sublist t :=
  (dropEndWhile_sublist _ _).trans (List.dropWhile_sublist _)

theorem takeWhile_eq_iff {p : Char → Bool} {t front : Text} :
    t.takeWhile p = front ↔
      ∃ behind, t = front ++ behind ∧ (∀ c ∈ front, p c) ∧ ∀ c ∈ behind.head?, ¬ p c := by
  constructor
  · rintro rfl
    refine ⟨t.dropWhile p, List.takeWhile_append_dropWhile.symm, ?_, ?_⟩
    · exact fun c there => List.mem_takeWhile_imp there
    · intro c first
      have stops := List.head?_dropWhile_not p t
      rw [Option.mem_def.1 first] at stops
      simpa using stops
  · rintro ⟨behind, rfl, taken, stops⟩
    rw [List.takeWhile_append_of_pos taken]
    cases behind with
    | nil => simp
    | cons c behind => simp [stops c rfl]

theorem dropWhile_append_of_stops {p : Char → Bool} {front behind : Text}
    (taken : ∀ c ∈ front, p c) (stops : ∀ c ∈ behind.head?, ¬ p c) :
    (front ++ behind).dropWhile p = behind := by
  rw [List.dropWhile_append_of_pos taken]
  cases behind with
  | nil => rfl
  | cons c behind => exact List.dropWhile_cons_of_neg (stops c rfl)

theorem drop_length_takeWhile (p : Char → Bool) (t : Text) :
    t.drop (t.takeWhile p).length = t.dropWhile p := by
  have whole := List.takeWhile_append_dropWhile (p := p) (l := t)
  calc t.drop (t.takeWhile p).length
    _ = (t.takeWhile p ++ t.dropWhile p).drop (t.takeWhile p).length := by rw [whole]
    _ = t.dropWhile p := List.drop_left

/-- A text begins with the first character of its front, or with that of what stands behind. -/
theorem forall_head?_append {P : Char → Prop} {front behind : Text} (first : ∀ c ∈ front, P c)
    (second : front = [] → ∀ c ∈ behind.head?, P c) : ∀ c ∈ (front ++ behind).head?, P c := by
  cases front with
  | nil => exact second rfl
  | cons d front =>
    intro c head
    obtain rfl : d = c := Option.some.inj head
    exact first d List.mem_cons_self

theorem of_splitFirst?_eq_some {sep : Char} {t before after : Text}
    (h : splitFirst? sep t = some (before, after)) : t = before ++ sep :: after := by
  rw [splitFirst?] at h
  split at h
  · cases h
  · rename_i c rest dropped
    cases h
    have isSep := List.head?_dropWhile_not (· != sep) t
    rw [dropped] at isSep
    obtain rfl : c = sep := by simpa using isSep
    rw [← dropped, List.takeWhile_append_dropWhile]

theorem bne_of_not_mem {sep : Char} {t : Text} (noSep : sep ∉ t) : ∀ c ∈ t, (c != sep) = true := by
  intro c there
  apply bne_iff_ne.2
  rintro rfl
  exact noSep there

theorem splitFirst?_append {sep : Char} {before : Text} (noSep : sep ∉ before) (after : Text) :
    splitFirst? sep (before ++ sep :: after) = some (before, after) := by
  have others := bne_of_not_mem noSep
  rw [splitFirst?, List.dropWhile_append_of_pos others, List.takeWhile_append_of_pos others]
  simp

theorem splitFirst?_eq_none {sep : Char} {t : Text} (noSep : sep ∉ t) :
    splitFirst? sep t = none := by
  rw [splitFirst?, List.dropWhile_eq_nil_iff.2 (bne_of_not_mem noSep)]

theorem splitFirst?_eq_some_iff {sep : Char} {t before after : Text} :
    splitFirst? sep t = some (before, after) ↔ t = before ++ sep :: after ∧ sep ∉ before := by
  constructor
  · intro split
    refine ⟨of_splitFirst?_eq_some split, ?_⟩
    rw [splitFirst?] at split
    split at split
    · cases split
    · cases split
      intro there
      simpa using List.mem_takeWhile_imp there
  · rintro ⟨rfl, noSep⟩
    exact splitFirst?_append noSep after

/-- A text is cut at a first separator in one way only. -/
theorem append_cons_inj {sep : Char} {a b x y : Text} (first : sep ∉ a) (other : sep ∉ b)
    (same : a ++ sep :: x = b ++ sep :: y) : a = b ∧ x = y := by
  have cut := splitFirst?_append first x
  rw [same, splitFirst?_append other] at cut
  cases cut
  exact ⟨rfl, rfl⟩

theorem of_splitLast?_eq_some {sep : Char} {t before after : Text}
    (h : splitLast? sep t = some (before, after)) : t = before ++ sep :: after := by
  obtain ⟨⟨last, first⟩, split, same⟩ := Option.map_eq_some_iff.1 h
  cases same
  have turned := congrArg List.reverse (of_splitFirst?_eq_some split)
  simpa using turned

theorem splitLast?_append {sep : Char} {after : Text} (noSep : sep ∉ after) (before : Text) :
    splitLast? sep (before ++ sep :: after) = some (before, after) := by
  have turned : (before ++ sep :: after).reverse = after.reverse ++ sep :: before.reverse := by
    simp
  rw [splitLast?, turned, splitFirst?_append (mt List.mem_reverse.1 noSep)]
  simp

theorem exists_last_of_mem {sep : Char} {t : Text} (there : sep ∈ t) :
    ∃ before after, t = before ++ sep :: after ∧ sep ∉ after := by
  obtain ⟨after, before, turned, noSep⟩ := List.eq_append_cons_of_mem (List.mem_reverse.2 there)
  refine ⟨before.reverse, after.reverse, ?_, mt List.mem_reverse.1 noSep⟩
  rw [← List.reverse_reverse t, turned]
  simp

theorem splitLast?_eq_none {sep : Char} {t : Text} (noSep : sep ∉ t) : splitLast? sep t = none := by
  rw [splitLast?, splitFirst?_eq_none (mt List.mem_reverse.1 noSep)]
  rfl

/-- Cutting a text at its separators makes no new characters. -/
theorem subset_of_mem_pieces {sep : Char} {t piece : Text} (member : piece ∈ pieces sep t) :
    piece ⊆ t := by
  induction t generalizing piece with
  | nil =>
    rw [pieces, List.mem_singleton] at member
    exact member ▸ List.Subset.refl _
  | cons c t ih =>
    rw [pieces] at member
    split at member
    · rcases List.mem_cons.1 member with rfl | member
      · exact List.nil_subset _
      · exact List.Subset.trans (ih member) (List.subset_cons_self c t)
    · split at member
      · rw [List.mem_singleton.1 member]
        exact List.cons_subset_cons c (List.nil_subset t)
      · rename_i first rest cut
        rw [cut] at ih
        rcases List.mem_cons.1 member with rfl | member
        · exact List.cons_subset_cons c (ih List.mem_cons_self)
        · exact List.Subset.trans (ih (List.mem_cons_of_mem _ member)) (List.subset_cons_self c t)

end ContentBlocker.Text
