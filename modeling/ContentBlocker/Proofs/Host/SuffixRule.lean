import ContentBlocker.Proofs.Host.Domain
import ContentBlocker.Proofs.Text.Ascii
import ContentBlocker.Reference.Suffixes
import Mathlib.Data.List.DropRight
/-!
# The rule for domains of filters

A filter for a domain applies to the domain and to what lies below it, whatever the case of letters.
A dot at the end of the domain stands for any registry: what is compared is then the part of the
document's name in front of its registry, where dots at the end of the name do not count. The
comparison of domains follows this rule and never breaks off, except that behind such a dot it looks
for the registry in the name as it is written: capitals in the registry hide it, and dots at the end
of the name put the cut in the wrong place.
-/

namespace ContentBlocker.Host

/-- `document` is `domain`, or the end of it behind a dot is, whatever the case of ASCII letters. -/
def AtOrBelow (domain document : Text) : Prop :=
  document.lower = domain.lower ∨ ∃ labels, document.lower = labels ++ '.' :: domain.lower

/-- The rule by which a filter for `domain` applies to `document`. -/
def AppliesTo (suffixOf : List Text → PublicSuffix) (domain document : Text) : Prop :=
  let host := withoutEndDots document.lower
  if domain.getLast? = some '.' then
    ∃ stem registry, host = stem ++ registry ∧ stem ≠ [] ∧
      registryUnder? suffixOf host = some registry ∧ AtOrBelow domain stem
  else AtOrBelow domain document

/-- The registry of a document stands at the end of its name as it is written: it is the one that
the name has in small letters, and no dot follows it. -/
structure RegistryInPlace (suffixOf : List Text → PublicSuffix) (document : Text) : Prop where
  lower : registryUnder? suffixOf document.lower =
    (registryUnder? suffixOf document).map Text.lower
  atEnd : ∀ registry, registryUnder? suffixOf document = some registry →
    document.getLast? ≠ some '.'

theorem isAtOrBelow_iff_atOrBelow {domain document : Text} :
    isAtOrBelow domain document = true ↔ AtOrBelow domain document := by
  have dotted : Text.lower ('.' :: domain) = '.' :: domain.lower := rfl
  rw [isAtOrBelow, AtOrBelow, Bool.or_eq_true, Text.sameIgnoringCase, beq_iff_eq,
    Text.endsIgnoringCase, List.isSuffixOf_iff_suffix, dotted]
  refine or_congr eq_comm ?_
  simp only [List.IsSuffix, eq_comm]

theorem atOrBelow_lower {domain document : Text} :
    AtOrBelow domain document.lower ↔ AtOrBelow domain document := by
  rw [AtOrBelow, AtOrBelow, Text.lower_lower]

section Under

variable {suffixOf : List Text → PublicSuffix}

theorem registryUnder?_withoutEndDots (host : Text) :
    registryUnder? suffixOf (withoutEndDots host) = registryUnder? suffixOf host := by
  have again : withoutEndDots (withoutEndDots host) = withoutEndDots host :=
    List.rdropWhile_idempotent _ _
  rw [registryUnder?, again, registryUnder?]

/-- Where the registry of a document is in place, the part in front of it is what the rule
compares. -/
theorem appliesTo_iff_of_registry {domain stem registry : Text}
    (dotted : domain.getLast? = some '.')
    (found : registryUnder? suffixOf (stem ++ registry) = some registry)
    (placed : RegistryInPlace suffixOf (stem ++ registry)) :
    AppliesTo suffixOf domain (stem ++ registry) ↔ stem ≠ [] ∧ AtOrBelow domain stem := by
  have noEndDot := placed.atEnd registry found
  have host : withoutEndDots (stem ++ registry).lower = stem.lower ++ registry.lower := by
    rw [withoutEndDots_eq_self (Text.getLast?_lower_ne_dot noEndDot)]
    exact List.map_append
  have lowered : registryUnder? suffixOf (stem ++ registry).lower = some registry.lower := by
    rw [placed.lower, found, Option.map_some]
  rw [AppliesTo, if_pos dotted, registryUnder?_withoutEndDots, lowered, host]
  constructor
  · rintro ⟨stem', registry', split, nonempty, same, applies⟩
    cases same
    obtain rfl := List.append_cancel_right split
    refine ⟨?_, atOrBelow_lower.1 applies⟩
    rintro rfl
    exact nonempty rfl
  · rintro ⟨nonempty, applies⟩
    refine ⟨stem.lower, registry.lower, rfl, ?_, rfl, atOrBelow_lower.2 applies⟩
    simpa [Text.lower] using nonempty

variable (labelled : ∀ labels, 0 < (suffixOf labels).labels)
include labelled

/-- A filter for a domain is found to apply to a document just if it does by the rule, and the
comparison does not break off, provided that the registry of the document is in place where the
domain asks for it. -/
theorem domainMatchesUnder_iff_appliesTo (domain document : Text)
    (placed : domain.getLast? = some '.' → RegistryInPlace suffixOf document) :
    ∃ found, domainMatchesUnder suffixOf domain document = .ok found ∧
      (found = true ↔ AppliesTo suffixOf domain document) := by
  by_cases dotted : domain.getLast? = some '.'
  · rw [domainMatchesUnder, if_pos dotted]
    cases found : registryUnder? suffixOf document with
    | none =>
      refine ⟨false, rfl, ?_⟩
      rw [AppliesTo, if_pos dotted, registryUnder?_withoutEndDots, (placed dotted).lower, found]
      simp
    | some registry =>
      have noEndDot := (placed dotted).atEnd registry found
      have isEnd := registryUnder?_suffix labelled found
      rw [withoutEndDots_eq_self noEndDot] at isEnd
      obtain ⟨stem, rfl⟩ := isEnd
      rw [appliesTo_iff_of_registry dotted found (placed dotted)]
      dsimp only
      rw [Text.byteLength_append, Text.dropBytesEnd?_append]
      by_cases whole : stem = []
      · refine ⟨false, if_neg ?_, by simp [whole]⟩
        rw [whole, Text.byteLength_nil]
        omega
      · obtain ⟨c, rest, rfl⟩ := List.exists_cons_of_ne_nil whole
        have positive := Char.utf8Size_pos c
        refine ⟨_, if_pos ?_, ?_⟩
        · rw [Text.byteLength_cons]
          omega
        · rw [isAtOrBelow_iff_atOrBelow, and_iff_right whole]
  · refine ⟨_, by rw [domainMatchesUnder, if_neg dotted], ?_⟩
    rw [AppliesTo, if_neg dotted, isAtOrBelow_iff_atOrBelow]

end Under

/-- Capitals in front of the registry do no harm. -/
theorem domainMatchesUnder_iff_appliesTo_capitals :
    let document : Text := "WWW.Example.co.uk"
    (∀ labels, 0 < (publicSuffix labels).labels) ∧
      ("Example.".toList.getLast? = some '.' → RegistryInPlace publicSuffix document) ∧
      ∃ found, domainMatchesUnder publicSuffix "Example." document = .ok found ∧
        (found = true ↔ AppliesTo publicSuffix "Example." document) := by
  intro document
  have placed : RegistryInPlace publicSuffix document :=
    ⟨by decide +kernel, fun _ _ => by decide⟩
  exact ⟨publicSuffix_labels_pos, fun _ => placed,
    domainMatchesUnder_iff_appliesTo publicSuffix_labels_pos "Example." document fun _ => placed⟩

/-- With a dot at its end a document is cut inside the name in front of its registry. -/
theorem not_domainMatches_iff_appliesTo :
    ¬ ∀ domain document, ∃ found, domainMatches domain document = .ok found ∧
      (found = true ↔ AppliesTo publicSuffix domain document) := by
  intro claimed
  obtain ⟨found, answered, iff⟩ := claimed "example." "example.com."
  have missed : domainMatches "example." "example.com." = .ok false := by decide +kernel
  have applies : AppliesTo publicSuffix "example." "example.com." :=
    ⟨"example.", "com", by decide, by decide, by decide +kernel, .inl rfl⟩
  rw [missed, Except.ok.injEq] at answered
  rw [← answered] at iff
  exact Bool.false_ne_true (iff.2 applies)

-- Such a cut may even fall into a character, and capitals may hide the registry.
example : domainMatches "example." "example.рф." = .error .cutInsideCharacter ∧
    domainMatches "example." "EXAMPLE.COM" = .ok false := by
  decide +kernel

end ContentBlocker.Host
