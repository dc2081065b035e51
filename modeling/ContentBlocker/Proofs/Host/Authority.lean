import ContentBlocker.Proofs.Text.Cutting
import ContentBlocker.Url
/-!
# Where the host of an address stands

An address with a host is written as a scheme, `://`, an authority and a rest that begins with the
character that ends the authority. What stands behind the last `@` of the authority, or all of it,
names the host: up to a closing bracket if it begins with an opening one, else up to a colon. The
main statement says that the host that is found is the one written, and that none is found where no
host is written in this way.
-/

namespace ContentBlocker

namespace Text

/-- `front` is what stands in front of the first `sep` of `t`, or all of `t` if there is none. -/
def IsUpToFirst (sep : Char) (t front : Text) : Prop :=
  sep ∉ front ∧ (t = front ∨ ∃ behind, t = front ++ sep :: behind)

/-- `last` is what stands behind the last `sep` of `t`, or all of `t` if there is none. -/
def IsBehindLast (sep : Char) (t last : Text) : Prop :=
  sep ∉ last ∧ (t = last ∨ ∃ front, t = front ++ sep :: last)

theorem takeWhile_eq_iff_isUpToFirst {sep : Char} {t front : Text} :
    t.takeWhile (· != sep) = front ↔ IsUpToFirst sep t front := by
  rw [takeWhile_eq_iff]
  constructor
  · rintro ⟨behind, rfl, others, stops⟩
    refine ⟨fun there => by simpa using others sep there, ?_⟩
    cases behind with
    | nil => exact .inl (List.append_nil front)
    | cons c behind =>
      obtain rfl : c = sep := by simpa using stops c rfl
      exact .inr ⟨behind, rfl⟩
  · rintro ⟨noSep, rfl | ⟨behind, rfl⟩⟩
    · exact ⟨[], (List.append_nil t).symm, bne_of_not_mem noSep, by simp⟩
    · exact ⟨sep :: behind, rfl, bne_of_not_mem noSep, by simp⟩

end Text

namespace Url

open Text

/-- The address is written as a scheme, `://`, an authority and a rest. -/
structure Consists (url scheme authority rest : Text) : Prop where
  whole : url = scheme ++ "://" ++ authority ++ rest
  named : scheme ≠ []
  scheme : ∀ c ∈ scheme, c.isAlphanum ∨ c = '+' ∨ c = '-' ∨ c = '.'
  authority : ∀ c ∈ authority, c ≠ '/' ∧ c ≠ '?' ∧ c ≠ '#'
  rest : ∀ c ∈ rest.head?, c = '/' ∨ c = '?' ∨ c = '#'

/-- The host that an authority without user information names. -/
inductive NamesHost : Text → Text → Prop
  | bracketed {inner behind : Text} (first : ']' ∉ inner) :
    NamesHost ('[' :: (inner ++ ']' :: behind)) ('[' :: (inner ++ [']']))
  | plain {text host : Text} (noBracket : text.head? ≠ some '[')
    (upToColon : IsUpToFirst ':' text host) : NamesHost text host

theorem isSchemeChar_iff {c : Char} :
    isSchemeChar c = true ↔ c.isAlphanum ∨ c = '+' ∨ c = '-' ∨ c = '.' := by
  simp [isSchemeChar, or_assoc]

theorem endsAuthority_iff {c : Char} : endsAuthority c = true ↔ c = '/' ∨ c = '?' ∨ c = '#' := by
  simp [endsAuthority, or_assoc]

theorem splitScheme?_append {scheme rest : Text} (noColon : ':' ∉ scheme) :
    splitScheme? (scheme ++ ':' :: '/' :: '/' :: rest) =
      if scheme ≠ [] ∧ scheme.all isSchemeChar then some (scheme, rest) else none := by
  rw [splitScheme?, splitFirst?_append noColon]
  rfl

theorem splitScheme?_eq_some_iff {url scheme rest : Text} :
    splitScheme? url = some (scheme, rest) ↔
      url = scheme ++ "://" ++ rest ∧ scheme ≠ [] ∧ ∀ c ∈ scheme, isSchemeChar c := by
  constructor
  · intro split
    rw [splitScheme?] at split
    split at split
    · rename_i cut
      split at split
      · rename_i readable
        cases split
        refine ⟨?_, readable.1, List.all_eq_true.1 readable.2⟩
        rw [of_splitFirst?_eq_some cut, List.append_assoc]
        rfl
      · cases split
    · cases split
  · rintro ⟨rfl, named, within⟩
    have noColon : ':' ∉ scheme := fun there => absurd (within ':' there) (by decide)
    rw [List.append_assoc]
    exact (splitScheme?_append noColon).trans (if_pos ⟨named, List.all_eq_true.2 within⟩)

theorem splitUser_of_not_mem {authority : Text} (noUser : '@' ∉ authority) :
    splitUser authority = ([], authority) := by
  rw [splitUser, splitLast?_eq_none noUser]

theorem splitUser_snd_eq_iff {authority last : Text} :
    (splitUser authority).2 = last ↔ IsBehindLast '@' authority last := by
  constructor
  · rintro rfl
    by_cases user : '@' ∈ authority
    · obtain ⟨front, last, rfl, noUser⟩ := exists_last_of_mem user
      rw [splitUser, splitLast?_append noUser]
      exact ⟨noUser, .inr ⟨front, rfl⟩⟩
    · rw [splitUser_of_not_mem user]
      exact ⟨user, .inl rfl⟩
  · rintro ⟨noUser, rfl | ⟨front, rfl⟩⟩
    · rw [splitUser_of_not_mem noUser]
    · rw [splitUser, splitLast?_append noUser]

theorem readHost?_of_head? {authority : Text} (noBracket : authority.head? ≠ some '[') :
    readHost? authority = some (authority.takeWhile (· != ':')) := by
  unfold readHost?
  split
  · exact absurd rfl noBracket
  · rfl

theorem readHost?_eq_some_iff {text host : Text} :
    readHost? text = some host ↔ NamesHost text host := by
  constructor
  · intro read
    unfold readHost? at read
    split at read
    · obtain ⟨⟨inner, behind⟩, split, rfl⟩ := Option.map_eq_some_iff.1 read
      obtain ⟨rfl, first⟩ := splitFirst?_eq_some_iff.1 split
      exact .bracketed first
    · rename_i other
      refine .plain ?_ (takeWhile_eq_iff_isUpToFirst.1 (Option.some.inj read))
      intro bracket
      obtain ⟨rest, rfl⟩ := List.head?_eq_some_iff.1 bracket
      exact other rest rfl
  · intro named
    cases named with
    | bracketed first =>
      rw [readHost?, splitFirst?_append first]
      rfl
    | plain noBracket upToColon =>
      rw [readHost?_of_head? noBracket, takeWhile_eq_iff_isUpToFirst.2 upToColon]

theorem host?_eq (url : Text) : host? url = (splitScheme? url).bind fun (_, rest) =>
    readHost? (splitUser (rest.takeWhile fun c => !endsAuthority c)).2 := by
  rw [host?, locate?]
  cases splitScheme? url with
  | none => rfl
  | some parts =>
    dsimp only [Option.bind_eq_bind, Option.bind_some]
    cases readHost? (splitUser (parts.2.takeWhile fun c => !endsAuthority c)).2 <;> rfl

/-- An address consists of the scheme that is split off and of what is cut where the authority
ends. -/
theorem consists_iff {url scheme authority rest : Text} :
    Consists url scheme authority rest ↔ ∃ text, splitScheme? url = some (scheme, text) ∧
      text = authority ++ rest ∧ (∀ c ∈ authority, !endsAuthority c) ∧
        ∀ c ∈ rest.head?, ¬ !endsAuthority c := by
  have inside : ∀ {c}, (!endsAuthority c) = true ↔ c ≠ '/' ∧ c ≠ '?' ∧ c ≠ '#' := by
    intro c
    rw [Bool.not_eq_true', ← Bool.not_eq_true, endsAuthority_iff, not_or, not_or]
  have stops : ∀ {c}, ¬ (!endsAuthority c) = true ↔ c = '/' ∨ c = '?' ∨ c = '#' := by
    intro c
    rw [Bool.not_eq_true', Bool.not_eq_false, endsAuthority_iff]
  constructor
  · intro consists
    refine ⟨authority ++ rest, splitScheme?_eq_some_iff.2 ⟨?_, consists.named, ?_⟩, rfl, ?_, ?_⟩
    · rw [consists.whole, List.append_assoc]
    · exact fun c there => isSchemeChar_iff.2 (consists.scheme c there)
    · exact fun c there => inside.2 (consists.authority c there)
    · exact fun c first => stops.2 (consists.rest c first)
  · rintro ⟨text, split, rfl, within, ends⟩
    obtain ⟨whole, named, readable⟩ := splitScheme?_eq_some_iff.1 split
    constructor
    · rw [whole, ← List.append_assoc]
    · exact named
    · exact fun c there => isSchemeChar_iff.1 (readable c there)
    · exact fun c there => inside.1 (within c there)
    · exact fun c first => stops.1 (ends c first)

/-- The host of an address is the one that is written in it. -/
theorem host?_eq_some_iff {url host : Text} :
    host? url = some host ↔ ∃ scheme authority rest last, Consists url scheme authority rest ∧
      IsBehindLast '@' authority last ∧ NamesHost last host := by
  rw [host?_eq, Option.bind_eq_some_iff]
  constructor
  · rintro ⟨⟨scheme, text⟩, split, read⟩
    obtain ⟨rest, cut⟩ := takeWhile_eq_iff.1 (Eq.refl (text.takeWhile fun c => !endsAuthority c))
    exact ⟨scheme, _, rest, _, consists_iff.2 ⟨text, split, cut⟩, splitUser_snd_eq_iff.1 rfl,
      readHost?_eq_some_iff.1 read⟩
  · rintro ⟨scheme, authority, rest, last, consists, behindUser, named⟩
    obtain ⟨text, split, cut⟩ := consists_iff.1 consists
    refine ⟨(scheme, text), split, ?_⟩
    dsimp only
    rw [takeWhile_eq_iff.2 ⟨rest, cut⟩, splitUser_snd_eq_iff.2 behindUser]
    exact readHost?_eq_some_iff.2 named

-- Brackets keep the colons of a host from being taken for the one in front of a port.
example : host? "wss://me@[::1]:9000/socket" = some "[::1]".toList := by decide +kernel

end Url

end ContentBlocker
