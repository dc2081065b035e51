import ContentBlocker.Pattern.Address
import ContentBlocker.Proofs.Text.Cutting
import Mathlib.Data.List.TakeWhile
import Mathlib.Tactic.Common
/-!
# The words that a pattern fixes

Cutting a text into words finds just its maximal runs of word characters. A word of a pattern that
counts stands between two characters, neither of which belongs to a word or is a wildcard; when the
pattern is read, such a word stands between two parts, or next to the opening or the end.
-/

namespace ContentBlocker

namespace Keyword

/-- A text that does not end in a word has more than the word at its start. -/
theorem dropWhile_ne_nil {d : Char} {x : Text} (isWord : isKeywordChar d = true)
    (front : ∀ c, (d :: x).getLast? = some c → isKeywordChar c = false) :
    x.dropWhile isKeywordChar ≠ [] := by
  intro none
  rw [List.dropWhile_eq_nil_iff] at none
  have all : ∀ c ∈ d :: x, isKeywordChar c = true := by
    intro c there
    rcases List.mem_cons.1 there with rfl | there
    · exact isWord
    · exact none c there
  have last := front _ (List.getLast?_eq_some_getLast (List.cons_ne_nil d x))
  rw [all _ (List.getLast_mem (List.cons_ne_nil d x))] at last
  cases last

section Runs

variable {w y : Text} (word : ∀ c ∈ w, isKeywordChar c = true)
  (behind : ∀ c, y.head? = some c → isKeywordChar c = false)
include word behind

theorem takeWhile_run : (w ++ y).takeWhile isKeywordChar = w := by
  rw [List.takeWhile_append_of_pos word]
  cases y with
  | nil => rw [List.takeWhile_nil, List.append_nil]
  | cons c y => rw [List.takeWhile_cons_of_neg (by simp [behind c rfl]), List.append_nil]

/-- A maximal run of word characters is one of the words. -/
theorem mem_words (before : Option Char) {x : Text} (nonempty : w ≠ [])
    (front : ∀ c, x.getLast? = some c → isKeywordChar c = false) :
    w ∈ (tokens before (x ++ (w ++ y))).map Token.word := by
  generalize text : x ++ (w ++ y) = t
  fun_induction tokens before t generalizing x with
  | case1 => simp_all
  | case2 before c t isWord ih =>
    cases x with
    | nil =>
      obtain ⟨d, w, rfl⟩ := List.exists_cons_of_ne_nil nonempty
      obtain ⟨rfl, rfl⟩ := List.cons.inj text
      have rest : ∀ c ∈ w, isKeywordChar c = true := fun c there => word c (.tail _ there)
      refine List.mem_cons.2 (.inl ?_)
      exact congrArg (d :: ·) (takeWhile_run rest behind).symm
    | cons d x =>
      obtain ⟨rfl, rfl⟩ := List.cons.inj text
      rw [List.map_cons]
      have ends := dropWhile_ne_nil isWord front
      refine List.mem_cons_of_mem _ (ih (x := x.dropWhile isKeywordChar) (fun c last => ?_) ?_)
      · refine front c ?_
        rw [← List.takeWhile_append_dropWhile (p := isKeywordChar) (l := x), ← List.cons_append,
          List.getLast?_append, last]
        rfl
      · show _ = (x ++ (w ++ y)).dropWhile isKeywordChar
        rw [List.dropWhile_append, if_neg (by simpa using ends)]
  | case3 before c t isWord ih =>
    cases x with
    | nil =>
      obtain ⟨d, w, rfl⟩ := List.exists_cons_of_ne_nil nonempty
      obtain ⟨rfl, rfl⟩ := List.cons.inj text
      exact absurd (word _ List.mem_cons_self) isWord
    | cons d x =>
      obtain ⟨rfl, rfl⟩ := List.cons.inj text
      refine ih (fun c last => front c ?_) rfl
      rw [List.getLast?_cons, last]
      rfl

end Runs

/-- A word that counts stands between two characters that do not belong to words. -/
theorem split_of_mem_tokens {before : Option Char} {t : Text} {token : Token}
    (front : ∀ c, before = some c → isKeywordChar c = false) (member : token ∈ tokens before t)
    {a b : Char} (isBefore : token.before = some b) (isAfter : token.after = some a) :
    isKeywordChar b = false ∧ isKeywordChar a = false ∧ token.word ≠ [] ∧
      (∀ c ∈ token.word, isKeywordChar c = true) ∧
        ∃ x y, before.toList ++ t = x ++ b :: (token.word ++ a :: y) := by
  fun_induction tokens before t with
  | case1 => cases member
  | case2 before c t isWord ih =>
    rcases List.mem_cons.1 member with rfl | member
    · subst isBefore
      have word : ∀ d ∈ c :: t.takeWhile isKeywordChar, isKeywordChar d = true := by
        intro d there
        rcases List.mem_cons.1 there with rfl | there
        · exact isWord
        · exact List.mem_takeWhile_imp there
      replace isAfter : (t.dropWhile isKeywordChar).head? = some a := isAfter
      have stops := List.head?_dropWhile_not isKeywordChar t
      rw [isAfter] at stops
      obtain ⟨y, rest⟩ := List.head?_eq_some_iff.1 isAfter
      refine ⟨front b rfl, stops, List.cons_ne_nil _ _, word, [], y, ?_⟩
      show b :: c :: t = b :: c :: (t.takeWhile isKeywordChar ++ a :: y)
      rw [← rest, List.takeWhile_append_dropWhile]
    · obtain ⟨hb, ha, nonempty, word, x, y, split⟩ := ih nofun member
      refine ⟨hb, ha, nonempty, word, before.toList ++ c :: t.takeWhile isKeywordChar ++ x, y, ?_⟩
      rw [List.append_assoc, ← split]
      simp
  | case3 before c t isWord ih =>
    obtain ⟨hb, ha, nonempty, word, x, y, split⟩ := ih (by simpa using isWord) member
    refine ⟨hb, ha, nonempty, word, before.toList ++ x, y, ?_⟩
    rw [List.append_assoc, ← split]
    rfl

theorem isKeywordChar_ne {c d : Char} (word : isKeywordChar c = true)
    (other : isKeywordChar d = false) : c ≠ d := by
  rintro rfl
  exact Bool.false_ne_true (other.symm.trans word)

end Keyword

namespace AddressPattern

open Keyword

theorem collapse_cons {c : Char} (t : Text) (other : c ≠ '*') :
    collapse (c :: t) = c :: collapse t := by
  rw [collapse]
  intro rest wild
  exact absurd wild other

/-- Collapsing wildcards leaves what is none. -/
theorem collapse_append {b : Char} (x t : Text) (other : b ≠ '*') :
    collapse (x ++ b :: t) = collapse x ++ b :: collapse t := by
  fun_induction collapse x with
  | case1 rest ih => exact ih
  | case2 c rest single ih =>
    rw [List.cons_append, collapse, ih]
    · rfl
    · rintro rest' rfl again
      cases rest with
      | nil => exact other (List.cons.inj again).1
      | cons d rest => exact single rest rfl (by rw [(List.cons.inj again).1])
  | case3 => exact collapse_cons t other

theorem collapse_run {w : Text} (plain : ∀ c ∈ w, c ≠ '*') (t : Text) :
    collapse (w ++ t) = w ++ collapse t := by
  induction w with
  | nil => rfl
  | cons c w ih =>
    rw [List.cons_append, collapse_cons _ (plain c (.head _)),
      ih fun d there => plain d (.tail _ there)]
    rfl

/-- Wildcards at the ends, or side by side, are not next to a word that counts. -/
theorem body_split {w : Text} (plain : ∀ c ∈ w, c ≠ '*') {a b : Char} (ha : a ≠ '*') (hb : b ≠ '*')
    (x y : Text) : ∃ x' y', body (x ++ b :: (w ++ a :: y)) = x' ++ b :: (w ++ a :: y') := by
  have collapsed := collapse_append x (w ++ a :: y) hb
  rw [collapse_run plain, collapse_cons y ha] at collapsed
  obtain ⟨x₂, first⟩ := Text.dropFirst?_append (collapse x) (w ++ a :: collapse y) hb
  obtain ⟨y', last⟩ := Text.dropLast?_append (x₂ ++ b :: w) (collapse y) ha
  refine ⟨x₂, y', ?_⟩
  rw [body, collapsed, first]
  simpa using last

/-- Behind the opening, a word has a part in front of it or stands next to the opening. -/
theorem splitOpening_split (x : Text) {b : Char} {t : Text} (noBar : t.head? ≠ some '|') :
    ∃ front, (splitOpening (x ++ b :: t)).2 = front ++ t ∧ ((∃ init, front = init ++ [b]) ∨
      front = [] ∧ (splitOpening (x ++ b :: t)).1 ≠ .anywhere) := by
  have within : ∀ x' : Text, ∃ front, x' ++ b :: t = front ++ t ∧ ∃ init, front = init ++ [b] :=
    fun x' => ⟨x' ++ [b], by rw [List.append_assoc, List.singleton_append], x', rfl⟩
  generalize text : x ++ b :: t = whole
  rw [splitOpening.eq_def]
  split
  · rcases x with _ | ⟨c, _ | ⟨d, x⟩⟩
    · obtain ⟨rfl, rfl⟩ := List.cons.inj text
      exact absurd rfl noBar
    · simp only [List.cons_append, List.nil_append, List.cons.injEq] at text
      exact ⟨[], text.2.2.symm, .inr ⟨rfl, nofun⟩⟩
    · simp only [List.cons_append, List.cons.injEq] at text
      obtain ⟨front, rest, part⟩ := within x
      exact ⟨front, text.2.2 ▸ rest, .inl part⟩
  · rcases x with _ | ⟨c, x⟩
    · obtain ⟨rfl, rfl⟩ := List.cons.inj text
      exact ⟨[], rfl, .inr ⟨rfl, nofun⟩⟩
    · obtain ⟨front, rest, part⟩ := within x
      exact ⟨front, (List.cons.inj text).2 ▸ rest, .inl part⟩
  · obtain ⟨front, rest, part⟩ := within x
    exact ⟨front, text ▸ rest, .inl part⟩

/-- Before the end, a word has a part behind it or stands next to the end. -/
theorem splitEnd_split {t : Text} (noSeparator : t.getLast? ≠ some '^') (a : Char) (y : Text) :
    ∃ back, (splitEnd (t ++ a :: y)).1 = t ++ back ∧ ((∃ rest, back = a :: rest) ∨
      back = [] ∧ (splitEnd (t ++ a :: y)).2 = true) := by
  rw [splitEnd]
  cases dropped : Text.dropLast? '|' (t ++ a :: y) with
  | none => exact ⟨a :: y, rfl, .inl ⟨y, rfl⟩⟩
  | some rest =>
    rw [Text.dropLast?_eq_some] at dropped
    rcases List.eq_nil_or_concat y with rfl | ⟨y, d, rfl⟩
    · obtain rfl := (List.append_inj' dropped rfl).1
      exact ⟨[], (List.append_nil t).symm, .inr ⟨rfl, by simpa using noSeparator⟩⟩
    · rw [List.concat_eq_append, ← List.cons_append, ← List.append_assoc] at dropped
      exact ⟨a :: y, (List.append_inj' dropped rfl).1.symm, .inl ⟨y, rfl⟩⟩

/-- In a pattern a word is closed on both sides: by a part that is no wildcard and matches no
character of words, or by the opening or the end. -/
structure Closes (p : AddressPattern) (w : Text) : Prop where
  nonempty : w ≠ []
  word : ∀ c ∈ w, isKeywordChar c = true
  split : ∃ front back, p.parts = front ++ w.map .literal ++ back ∧
    ((∃ init b, front = init ++ [.ofChar b] ∧ b ≠ '*' ∧ isKeywordChar b = false) ∨
      front = [] ∧ p.opening ≠ .anywhere) ∧
    ((∃ a rest, back = .ofChar a :: rest ∧ a ≠ '*' ∧ isKeywordChar a = false) ∨
      back = [] ∧ p.endsHere = true)

/-- The words of a pattern that count are closed when the pattern is read. -/
theorem closes_parse {pattern : Text} {token : Token} (member : token ∈ tokens none pattern)
    (delimited : token.isDelimited = true) : (parse pattern).Closes token.word := by
  obtain ⟨b, a, isBefore, isAfter, hb, ha⟩ : ∃ b a, token.before = some b ∧
      token.after = some a ∧ b ≠ '*' ∧ a ≠ '*' := by
    rw [Token.isDelimited] at delimited
    cases before : token.before <;> cases after : token.after <;>
      simp [before, after] at delimited
    exact ⟨_, _, rfl, rfl, delimited⟩
  obtain ⟨frontPlain, backPlain, nonempty, word, x, y, rfl⟩ :=
    split_of_mem_tokens (fun c none => by cases none) member isBefore isAfter
  generalize token.word = w at nonempty word ⊢
  have noWild : ∀ c ∈ w, c ≠ '*' := fun c there => isKeywordChar_ne (word c there) rfl
  obtain ⟨x₁, y₁, bodied⟩ := body_split noWild ha hb x y
  have noBar : (w ++ a :: y₁).head? ≠ some '|' := by
    obtain ⟨c, w, rfl⟩ := List.exists_cons_of_ne_nil nonempty
    exact fun bar => isKeywordChar_ne (word c (.head _)) rfl (Option.some.inj bar)
  obtain ⟨front, opened, frontCloses⟩ := splitOpening_split x₁ noBar
  have noSeparator : (front ++ w).getLast? ≠ some '^' := by
    obtain ⟨w, c, rfl⟩ := (List.eq_nil_or_concat w).resolve_left nonempty
    rw [List.concat_eq_append, ← List.append_assoc, List.getLast?_concat]
    exact fun separator => isKeywordChar_ne (word c (by simp)) rfl (Option.some.inj separator)
  obtain ⟨back, ended, backCloses⟩ := splitEnd_split noSeparator a y₁
  rw [List.append_assoc, List.append_assoc] at ended
  have literals : w.map PatternPart.ofChar = w.map .literal := by
    refine List.map_congr_left fun c there => ?_
    have noSeparator := isKeywordChar_ne (d := '^') (word c there) rfl
    rw [PatternPart.ofChar, if_neg (noWild c there), if_neg noSeparator]
  have read : parse (x ++ b :: (w ++ a :: y)) =
      { opening := (splitOpening (x₁ ++ b :: (w ++ a :: y₁))).1
        parts := (front ++ (w ++ back)).map .ofChar
        endsHere := (splitEnd (front ++ w ++ a :: y₁)).2 } := by
    rw [List.append_assoc, ← ended, ← opened, ← bodied]
    rfl
  rw [read]
  refine ⟨nonempty, word, front.map .ofChar, back.map .ofChar, ?_, ?_, ?_⟩
  · show (front ++ (w ++ back)).map PatternPart.ofChar = _
    rw [List.map_append, List.map_append, literals, List.append_assoc]
  · rcases frontCloses with ⟨init, rfl⟩ | ⟨rfl, anchored⟩
    · exact .inl ⟨init.map .ofChar, b, List.map_append, hb, frontPlain⟩
    · exact .inr ⟨rfl, anchored⟩
  · rcases backCloses with ⟨rest, rfl⟩ | ⟨rfl, anchored⟩
    · exact .inl ⟨a, rest.map .ofChar, rfl, ha, backPlain⟩
    · exact .inr ⟨rfl, anchored⟩

theorem collapse_sublist (t : Text) : (collapse t).Sublist t := by
  fun_induction collapse t with
  | case1 rest ih => exact ih.cons '*'
  | case2 c rest _ ih => exact ih.cons_cons c
  | case3 => exact .slnil

theorem body_sublist (t : Text) : (body t).Sublist t :=
  (Text.getD_dropLast?_sublist _ _).trans
    ((Text.getD_dropFirst?_sublist _ _).trans (collapse_sublist t))

theorem splitOpening_sublist (t : Text) : (splitOpening t).2.Sublist t := by
  rw [splitOpening.eq_def]
  split
  · exact (List.sublist_cons_self _ _).trans (List.sublist_cons_self _ _)
  · exact List.sublist_cons_self _ _
  · exact .refl t

theorem splitEnd_sublist (t : Text) : (splitEnd t).1.Sublist t := by
  rw [splitEnd]
  cases dropped : Text.dropLast? '|' t with
  | none => exact .refl t
  | some rest => exact Text.dropLast?_eq_some.1 dropped ▸ List.sublist_append_left _ _

/-- The literals of a pattern are characters of its text. -/
theorem mem_of_literal_mem_parts {pattern : Text} {c : Char}
    (member : .literal c ∈ (parse pattern).parts) : c ∈ pattern := by
  have sublist := (splitEnd_sublist _).trans
    ((splitOpening_sublist (body pattern)).trans (body_sublist pattern))
  obtain ⟨d, there, isLiteral⟩ := List.mem_map.1 member
  rw [PatternPart.ofChar] at isLiteral
  split at isLiteral
  · cases isLiteral
  · split at isLiteral
    · cases isLiteral
    · cases isLiteral
      exact sublist.mem there

end AddressPattern

end ContentBlocker
