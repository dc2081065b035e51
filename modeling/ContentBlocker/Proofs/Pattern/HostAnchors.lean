import ContentBlocker.Host.Domain
import ContentBlocker.Proofs.Host.Authority
import ContentBlocker.Proofs.Host.Domain
import ContentBlocker.Proofs.Pattern.Filing
import ContentBlocker.Proofs.Pattern.Translation
import ContentBlocker.Proofs.Reference.Engine
import ContentBlocker.Url
/-!
# Patterns that begin at a host

A pattern made of two bars, the name of a domain and a separator is meant for the hosts at or below
the domain. What may stand in front of the name is any text up to a slash that ends in a dot, so the
name may also be found outside the host: behind a host that a question mark or a number sign ends,
in the part of the address that names a user, or where another separator than those that end a host
stands behind the name. In an address whose host stands alone none of this happens.
-/

namespace ContentBlocker

open Regex Text

namespace Pattern

/-- A label of a domain: letters and digits of ASCII and hyphens, at least one of them. -/
def IsDomainLabel (label : Text) : Prop :=
  label ≠ [] ∧ ∀ c ∈ label, c.isAlphanum = true ∨ c = '-'

instance (label : Text) : Decidable (IsDomainLabel label) :=
  @instDecidableAnd _ _ _ (List.decidableBAll _ label)

/-- A name of a domain: such labels with dots between them. -/
def IsDomainName (domain : Text) : Prop := ∀ label ∈ Host.labelsOf domain, IsDomainLabel label

instance (domain : Text) : Decidable (IsDomainName domain) := List.decidableBAll _ _

/-- The pattern for the hosts at or below a domain. -/
def hostAnchored (domain : Text) : Text := '|' :: '|' :: (domain ++ ['^'])

/-- The host stands alone in the address: it is written in front of everything but the scheme, it
holds no separator and nothing that is taken for a letter of ASCII, and no dot and no `@` stand
between it and the first slash behind it. -/
def StandsAlone (host url : Text) : Prop :=
  host ≠ [] ∧ (∀ c ∈ host, isSeparator c = false ∧ Unmistaken true c) ∧
    ∃ scheme behind, url = scheme ++ ':' :: '/' :: '/' :: (host ++ behind) ∧ ':' ∉ scheme ∧
      '@' ∉ behind.takeWhile (· ≠ '/') ∧ '.' ∉ behind.takeWhile (· ≠ '/')

section Domains

variable {domain : Text}

theorem mem_pieces {sep c : Char} {t : Text} (there : c ∈ t) (other : c ≠ sep) :
    ∃ piece ∈ Text.pieces sep t, c ∈ piece := by
  induction t with
  | nil => cases there
  | cons b t ih =>
    rw [Text.pieces]
    split
    · rename_i same
      rcases List.mem_cons.1 there with rfl | there
      · exact absurd same other
      · obtain ⟨piece, member, within⟩ := ih there
        exact ⟨piece, List.mem_cons_of_mem _ member, within⟩
    · obtain ⟨first, rest, pieces⟩ := List.exists_cons_of_ne_nil (Host.pieces_ne_nil sep t)
      rw [pieces] at ih ⊢
      rcases List.mem_cons.1 there with rfl | there
      · exact ⟨c :: first, List.mem_cons_self, List.mem_cons_self⟩
      · obtain ⟨piece, member, within⟩ := ih there
        rcases List.mem_cons.1 member with rfl | member
        · exact ⟨b :: piece, List.mem_cons_self, List.mem_cons_of_mem _ within⟩
        · exact ⟨piece, List.mem_cons_of_mem _ member, within⟩

theorem IsDomainName.ne_nil (named : IsDomainName domain) : domain ≠ [] := by
  rintro rfl
  exact (named [] List.mem_cons_self).1 rfl

theorem IsDomainName.char (named : IsDomainName domain) {c : Char} (there : c ∈ domain) :
    c.isAlphanum = true ∨ c = '-' ∨ c = '.' := by
  by_cases dot : c = '.'
  · exact .inr (.inr dot)
  · obtain ⟨label, member, within⟩ := mem_pieces there dot
    rcases (named label member).2 c within with alphanum | hyphen
    · exact .inl alphanum
    · exact .inr (.inl hyphen)

theorem IsDomainName.ascii (named : IsDomainName domain) {c : Char} (there : c ∈ domain) :
    c.toNat < 0x80 := by
  rcases named.char there with alphanum | rfl | rfl
  · exact Keyword.ascii_of_isKeywordChar (by simp [Keyword.isKeywordChar, alphanum])
  · decide
  · decide

end Domains

end Pattern

namespace Url

theorem readHost?_of_host? {scheme rest host : Text} (noColon : ':' ∉ scheme)
    (found : host? (scheme ++ ':' :: '/' :: '/' :: rest) = some host) :
    readHost? (splitUser (rest.takeWhile fun c => !endsAuthority c)).2 = some host := by
  rw [host?_eq, splitScheme?_append noColon] at found
  by_cases readable : scheme ≠ [] ∧ scheme.all isSchemeChar
  · rw [if_pos readable] at found
    exact found
  · rw [if_neg readable] at found
    cases found

/-- The characters that can stand behind a host that holds no separator. -/
theorem head?_behind_host {scheme host behind : Text} (noColon : ':' ∉ scheme) (named : host ≠ [])
    (ordinary : ∀ c ∈ host, Pattern.isSeparator c = false)
    (noUser : '@' ∉ behind.takeWhile (· ≠ '/'))
    (found : host? (scheme ++ ':' :: '/' :: '/' :: (host ++ behind)) = some host) {c : Char}
    (next : behind.head? = some c) : c = ':' ∨ endsAuthority c = true := by
  have other : ∀ {b d : Char}, Pattern.isSeparator b = true → d ∈ host → d ≠ b := by
    rintro b d separator there rfl
    rw [ordinary d there] at separator
    cases separator
  have authority : (host ++ behind).takeWhile (fun c => !endsAuthority c) =
      host ++ behind.takeWhile fun c => !endsAuthority c := by
    apply List.takeWhile_append_of_pos
    intro d there
    simp [endsAuthority, other (b := '/') (by decide) there, other (b := '?') (by decide) there,
      other (b := '#') (by decide) there]
  have noAt : '@' ∉ host ++ behind.takeWhile fun c => !endsAuthority c := by
    intro there
    rcases List.mem_append.1 there with there | there
    · exact other (b := '@') (by decide) there rfl
    · apply noUser
      have stops : (behind.takeWhile (· ≠ '/')).takeWhile (fun c => !endsAuthority c) =
          behind.takeWhile fun c => !endsAuthority c := by
        rw [List.takeWhile_takeWhile]
        congr 1
        funext d
        by_cases slash : d = '/' <;> simp [slash, endsAuthority]
      rw [← stops] at there
      exact (List.takeWhile_sublist _).mem there
  have noBracket : (host ++ behind.takeWhile fun c => !endsAuthority c).head? ≠ some '[' := by
    obtain ⟨first, rest, rfl⟩ := List.exists_cons_of_ne_nil named
    intro bracket
    exact other (b := '[') (by decide) List.mem_cons_self (Option.some.inj bracket)
  have read := readHost?_of_host? noColon found
  rw [authority, splitUser_of_not_mem noAt, readHost?_of_head? noBracket, Option.some.injEq] at read
  have noColonIn : ∀ d ∈ host, (d != ':') = true := by
    intro d there
    exact bne_iff_ne.2 (other (by decide) there)
  rw [List.takeWhile_append_of_pos noColonIn, List.append_right_eq_self] at read
  obtain ⟨rest, rfl⟩ : ∃ rest, behind = c :: rest := List.head?_eq_some_iff.1 next
  by_cases ends : endsAuthority c = true
  · exact .inr ends
  · left
    simpa [ends] using read

end Url

namespace Pattern

variable {domain host url : Text}

theorem barsAtEnds_hostAnchored (named : IsDomainName domain) :
    BarsAtEnds (hostAnchored domain) := by
  refine ⟨.host, domain ++ ['^'], false, by simp [hostAnchored, bars, closing], ?_⟩
  intro bar
  rcases List.mem_append.1 bar with there | there
  · exact absurd (named.char there) (by decide)
  · exact absurd there (by decide)

theorem matches_hostAnchored (named : IsDomainName domain)
    (matched : Matches false (hostAnchored domain) url) :
    ∃ front taken rest, url = front ++ (taken ++ rest) ∧ LeadsToHost front ∧
      List.Forall₂ (fun b c => sameFold b c = true) domain taken ∧
      ∀ c, rest.head? = some c → isSeparator c = true := by
  obtain ⟨front, back, rfl, leads, reads⟩ := matched
  have plain : ∀ c ∈ domain, c ≠ '*' ∧ c ≠ '^' ∧ c ≠ '|' := by
    intro c there
    refine ⟨?_, ?_, ?_⟩
    all_goals
      rintro rfl
      exact absurd (named.char there) (by decide)
  obtain ⟨taken, rest, rfl, same, reads⟩ := (reads_literals plain).1 reads
  refine ⟨front, taken, rest, rfl, leads, same, ?_⟩
  intro c next
  rcases (reads_separator (by decide)).1 reads with ⟨d, _, rfl, separator, -⟩ | ⟨rfl, -⟩
  · obtain rfl := Option.some.inj next
    exact separator
  · cases next

theorem lower_eq_of_forall₂ {taken : Text} (ascii : ∀ b ∈ domain, b.toNat < 0x80)
    (clear : ∀ c ∈ taken, Unmistaken true c)
    (same : List.Forall₂ (fun b c => sameFold b c = true) domain taken) :
    taken.lower = domain.lower := by
  induction same with
  | nil => rfl
  | cons agree same ih =>
    have first := toLower_eq_of_sameFold (clear _ List.mem_cons_self) (ascii _ List.mem_cons_self)
      agree
    have rest := ih (fun b there => ascii b (List.mem_cons_of_mem _ there))
      (fun c there => clear c (List.mem_cons_of_mem _ there))
    exact List.cons_eq_cons.2 ⟨first, rest⟩

/-- No mark other than the hyphen and the dot is read for a character of a domain. -/
theorem mark_not_mem {taken : Text} (named : IsDomainName domain)
    (same : List.Forall₂ (fun b c => sameFold b c = true) domain taken) {mark : Char}
    (ascii : mark.toNat < 0x80)
    (other : mark.isAlphanum = false ∧ mark ≠ '-' ∧ mark ≠ '.') : mark ∉ taken := by
  have written : ∀ b ∈ domain, b ≠ mark := by
    rintro b there rfl
    rcases named.char there with alphanum | hyphen | dot
    · rw [other.1] at alphanum
      cases alphanum
    · exact other.2.1 hyphen
    · exact other.2.2 dot
  have noLetter : mark.isAlpha = false := by
    have none := other.1
    rw [Char.isAlphanum, Bool.or_eq_false_iff] at none
    exact none.1
  clear named
  induction same with
  | nil => exact List.not_mem_nil
  | cons agree same ih =>
    rw [List.mem_cons, not_or]
    constructor
    · rintro rfl
      exact written _ List.mem_cons_self (eq_of_sameFold ascii noLetter agree)
    · exact ih fun b there => written b (List.mem_cons_of_mem _ there)

/-- Where the slashes behind a scheme end does not depend on how they are counted. -/
theorem eq_of_slashes {slashes x y : Text} (only : ∀ c ∈ slashes, c = '/')
    (noSlash : x.head? ≠ some '/') (other : y.head? ≠ some '/')
    (same : slashes ++ x = '/' :: '/' :: y) : x = y := by
  have stays : ∀ {t : Text}, t.head? ≠ some '/' → t.dropWhile (· = '/') = t := by
    intro t first
    cases t with
    | nil => rfl
    | cons c t => simp [show c ≠ '/' by simpa using first]
  have dropped := congrArg (List.dropWhile (· = '/')) same
  rw [List.dropWhile_append_of_pos (by simpa using only), stays noSlash] at dropped
  rw [dropped, List.dropWhile_cons_of_pos (by simp), List.dropWhile_cons_of_pos (by simp),
    stays other]

/-- What is read behind the host begins inside the domain, or the dot in front of the domain stands
there. -/
theorem mem_or_dot_mem {labels taken more : Text} {c : Char}
    (whole : labels ++ taken = host ++ c :: more)
    (below : labels = [] ∨ ∃ name, labels = name ++ ['.']) : c ∈ taken ∨ '.' ∈ c :: more := by
  have ends : c :: more <:+ labels ++ taken := ⟨host, whole.symm⟩
  rcases List.suffix_or_suffix_of_suffix ends (List.suffix_append labels taken) with
    inner | ⟨start, cut⟩
  · exact .inl (inner.subset List.mem_cons_self)
  have front : labels = host ++ start := by
    rw [← cut, ← List.append_assoc] at whole
    exact List.append_cancel_right whole
  rcases List.eq_nil_or_concat start with rfl | ⟨start, d, rfl⟩
  · left
    rw [List.nil_append] at cut
    rw [cut]
    exact List.mem_cons_self
  · right
    rcases below with rfl | ⟨name, rfl⟩
    · simp at front
    · have last : '.' = d := by
        rw [List.concat_eq_append, ← List.append_assoc] at front
        simpa using List.append_inj_right' front rfl
      rw [← cut, last]
      simp

/-- What is read in front of a separator is the host, if no dot stands behind the host. -/
theorem append_eq_host {labels taken rest behind : Text}
    (same : (labels ++ taken) ++ rest = host ++ behind)
    (below : labels = [] ∨ ∃ name, labels = name ++ ['.'])
    (noSlash : '/' ∉ labels ++ taken)
    (noMark : ∀ c, c = ':' ∨ Url.endsAuthority c = true → c ∉ taken)
    (separated : ∀ c, rest.head? = some c → isSeparator c = true)
    (ordinary : ∀ c ∈ host, isSeparator c = false)
    (stops : ∀ c, behind.head? = some c → c = ':' ∨ Url.endsAuthority c = true)
    (noDot : '.' ∉ behind.takeWhile (· ≠ '/')) : labels ++ taken = host := by
  rcases List.append_eq_append_iff.1 same with ⟨more, whole, left⟩ | ⟨more, whole, left⟩
  · cases more with
    | nil => rw [whole, List.append_nil]
    | cons c more =>
      -- The host goes on behind what is read, although a separator stands there.
      have separator := separated c (by rw [left]; rfl)
      rw [ordinary c (by rw [whole]; simp)] at separator
      cases separator
  · cases more with
    | nil => rw [whole, List.append_nil]
    | cons c more =>
      -- What is read goes on behind the host, into a port, a query or a fragment.
      exfalso
      have mark := noMark c (stops c (by rw [left]; rfl))
      have dot := (mem_or_dot_mem whole below).resolve_left mark
      apply noDot
      rw [left, List.takeWhile_append_of_pos]
      · exact List.mem_append_left _ dot
      · intro d there
        apply decide_eq_true
        rintro rfl
        apply noSlash
        rw [whole]
        exact List.mem_append_right _ there

theorem isAtOrBelow_append {labels taken : Text} (lower : taken.lower = domain.lower)
    (below : labels = [] ∨ ∃ name, labels = name ++ ['.']) :
    Host.isAtOrBelow domain (labels ++ taken) = true := by
  rw [Host.isAtOrBelow, Bool.or_eq_true]
  rcases below with rfl | ⟨name, rfl⟩
  · left
    rw [sameIgnoringCase, List.nil_append, lower, beq_self_eq_true]
  · right
    rw [endsIgnoringCase, List.isSuffixOf_iff_suffix]
    refine ⟨Text.lower name, ?_⟩
    show Text.lower name ++ '.' :: domain.lower = Text.lower (name ++ ['.'] ++ taken)
    rw [← lower]
    simp [Text.lower]

/-- Where its host stands alone, an address that the pattern for a domain matches has its host at or
below the domain. -/
theorem isAtOrBelow_of_isMatch [RegexEngine] (ordinary : RegexEngine.OrdinarySearch)
    (named : IsDomainName domain) (found : Url.host? url = some host) (alone : StandsAlone host url)
    (matched : (CompiledPattern.compile (source (hostAnchored domain)) false).isMatch url = true) :
    Host.isAtOrBelow domain host = true := by
  obtain ⟨nonempty, letters, scheme, behind, rfl, noColon, noUser, noDot⟩ := alone
  rw [source_of_not_isExpression rfl, AddressPattern.isMatch_compile_source ordinary,
    occurs_iff_matches (barsAtEnds_hostAnchored named)] at matched
  obtain ⟨_, taken, rest, split, leads, same, separated⟩ := matches_hostAnchored named matched.2
  obtain ⟨scheme', slashes, labels, rfl, ⟨-, word⟩, ⟨-, only⟩, labelled⟩ := leads
  have below : labels = [] ∨ ∃ name, labels = name ++ ['.'] := by
    rcases labelled with none | ⟨name, -, -, dotted⟩
    · exact .inl none
    · exact .inr ⟨name, dotted⟩
  have noMark : ∀ c, c = ':' ∨ Url.endsAuthority c = true → c ∉ taken := by
    intro c mark
    have cases : c = ':' ∨ c = '/' ∨ c = '?' ∨ c = '#' := by
      simpa [Url.endsAuthority, or_assoc] using mark
    rcases cases with rfl | rfl | rfl | rfl
    all_goals exact mark_not_mem named same (by decide) (by decide)
  have noSlash : '/' ∉ labels ++ taken := by
    intro there
    rcases List.mem_append.1 there with there | there
    · rcases labelled with rfl | ⟨name, -, noSlash, rfl⟩
      · cases there
      · simp [noSlash] at there
    · exact noMark '/' (by decide) there
  have some : labels ++ taken ≠ [] := by
    apply List.append_ne_nil_of_right_ne_nil
    rintro rfl
    cases same
    exact named.ne_nil rfl
  have behindScheme : labels ++ (taken ++ rest) = host ++ behind := by
    have noColon' : ':' ∉ scheme' := fun there => absurd (word _ there) (by decide)
    rw [List.append_assoc, List.cons_append, List.append_assoc] at split
    have tails := (append_cons_inj noColon noColon' split).2
    refine eq_of_slashes only ?_ ?_ tails.symm
    · rw [← List.append_assoc]
      obtain ⟨c, more, first⟩ := List.exists_cons_of_ne_nil some
      rw [first]
      rintro ⟨⟩
      exact noSlash (first ▸ List.mem_cons_self)
    · obtain ⟨c, more, rfl⟩ := List.exists_cons_of_ne_nil nonempty
      rintro ⟨⟩
      exact absurd (letters '/' List.mem_cons_self).1 (by decide)
  have whole : labels ++ taken = host := by
    rw [← List.append_assoc] at behindScheme
    have written : ∀ c ∈ host, isSeparator c = false := fun c there => (letters c there).1
    apply append_eq_host behindScheme below noSlash noMark separated written ?_ noDot
    intro c next
    exact Url.head?_behind_host noColon nonempty written noUser found next
  have lower : taken.lower = domain.lower := by
    apply lower_eq_of_forall₂ (fun b there => named.ascii there) ?_ same
    intro c there
    refine (letters c ?_).2
    rw [← whole]
    exact List.mem_append_right _ there
  rw [← whole]
  exact isAtOrBelow_append lower below

/-- A port and dots behind the first slash do no harm. -/
theorem isAtOrBelow_of_isMatch_port :
    let url : Text := "https://www.Example.com:8080/?a.b"
    RegexEngine.OrdinarySearch ∧ IsDomainName "example.com" ∧
      Url.host? url = some "www.Example.com" ∧ StandsAlone "www.Example.com" url ∧
      (CompiledPattern.compile (source (hostAnchored "example.com")) false).isMatch url = true ∧
      Host.isAtOrBelow "example.com" "www.Example.com" = true := by
  intro url
  have named : IsDomainName "example.com" := by decide
  have found : Url.host? url = some "www.Example.com" := by decide +kernel
  have alone : StandsAlone "www.Example.com" url := by
    have ascii : Text.IsAscii "www.Example.com" := by decide
    have letters : List.all "www.Example.com".toList (fun c => !isSeparator c) = true := by decide
    refine ⟨by decide, ?_, "https", ":8080/?a.b", rfl, ?_, ?_, ?_⟩
    · intro c there
      refine ⟨?_, unmistaken_of_ascii (ascii c there)⟩
      simpa using List.all_eq_true.1 letters c there
    all_goals decide
  have matched : (CompiledPattern.compile (source (hostAnchored "example.com")) false).isMatch url =
      true := by
    rw [source_of_not_isExpression rfl,
      AddressPattern.isMatch_compile_source_eq (by decide +kernel)]
    decide +kernel
  exact ⟨referenceEngine_ordinarySearch, named, found, alone, matched,
    isAtOrBelow_of_isMatch referenceEngine_ordinarySearch named found alone matched⟩

/-- Behind a host that a question mark ends, the pattern finds its domain in the query. -/
theorem not_isAtOrBelow_of_isMatch :
    ¬ ∀ [RegexEngine], RegexEngine.OrdinarySearch → ∀ domain url host, IsDomainName domain →
      Url.host? url = some host →
        (CompiledPattern.compile (source (hostAnchored domain)) false).isMatch url = true →
          Host.isAtOrBelow domain host = true := by
  intro claimed
  have matched : (CompiledPattern.compile (source (hostAnchored "example.com")) false).isMatch
      "https://evil.test?x.example.com/" = true := by
    rw [source_of_not_isExpression rfl,
      AddressPattern.isMatch_compile_source_eq (by decide +kernel)]
    decide +kernel
  have wrong := claimed referenceEngine_ordinarySearch "example.com"
    "https://evil.test?x.example.com/" "evil.test" (by decide) (by decide +kernel) matched
  revert wrong
  decide

end Pattern

end ContentBlocker
