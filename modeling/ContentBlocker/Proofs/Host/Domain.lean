import ContentBlocker.Matching.Activity
import ContentBlocker.Proofs.Text.Cutting
/-!
# Comparing domains does not break off

The registry of a host consists of some of its last labels, since every public suffix has a label.
The bytes that a comparison cuts from the end of a document's name are therefore whole characters,
unless dots at the end of the name were passed over first.
-/

namespace ContentBlocker

namespace Host

theorem pieces_ne_nil (sep : Char) (t : Text) : Text.pieces sep t ≠ [] := by
  cases t with
  | nil => exact List.cons_ne_nil _ _
  | cons c t =>
    rw [Text.pieces]
    repeat' split
    all_goals exact List.cons_ne_nil _ _

theorem ofLabels_labelsOf (host : Text) : ofLabels (labelsOf host) = host := by
  rw [ofLabels, labelsOf]
  induction host with
  | nil => rfl
  | cons c rest ih =>
    rw [Text.pieces]
    split
    · rename_i dot
      rw [List.intercalate_cons_of_ne_nil (pieces_ne_nil _ rest), ih, dot]
      rfl
    · obtain ⟨piece, more, pieces⟩ := List.exists_cons_of_ne_nil (pieces_ne_nil '.' rest)
      rw [pieces] at ih ⊢
      dsimp only
      rw [List.intercalate_cons_cons_left, ih]

/-- The last labels of a host, if there are any, are the whole host or stand behind a dot. -/
theorem ofLabels_drop {n : Nat} {labels : List Text} (inside : n < labels.length) :
    ofLabels labels = ofLabels (labels.drop n) ∨
      ∃ stem, ofLabels labels = stem ++ '.' :: ofLabels (labels.drop n) := by
  induction labels generalizing n with
  | nil => cases inside
  | cons label rest ih =>
    cases n with
    | zero => exact .inl rfl
    | succ n =>
      have inside' : n < rest.length := Nat.lt_of_succ_lt_succ inside
      have nonempty : rest ≠ [] := List.ne_nil_of_length_pos (Nat.zero_lt_of_lt inside')
      have first : ofLabels (label :: rest) = label ++ '.' :: ofLabels rest := by
        rw [ofLabels, List.intercalate_cons_of_ne_nil nonempty, List.append_assoc]
        rfl
      rw [List.drop_succ_cons, first]
      rcases ih inside' with same | ⟨stem, same⟩
      · exact .inr ⟨label, by rw [← same]⟩
      · refine .inr ⟨label ++ '.' :: stem, ?_⟩
        rw [same, List.append_assoc]
        rfl

section Under

variable {suffixOf : List Text → PublicSuffix}

theorem registryLabelsUnder?_eq_drop {labels registry : List Text}
    (h : registryLabelsUnder? suffixOf labels = some registry) :
    ∃ n < labels.length, registry = labels.drop n := by
  induction labels with
  | nil => cases h
  | cons label rest ih =>
    rw [registryLabelsUnder?] at h
    split at h
    · cases h
      exact ⟨0, Nat.succ_pos _, rfl⟩
    · obtain ⟨n, inside, eq⟩ := ih h
      exact ⟨n + 1, Nat.succ_lt_succ inside, eq⟩

variable (labelled : ∀ labels, 0 < (suffixOf labels).labels)
include labelled

/-- The registry of a host consists of some last labels of it, dots at the end aside. -/
theorem registryUnder?_eq_drop {host registry : Text}
    (h : registryUnder? suffixOf host = some registry) :
    ∃ n < (labelsOf (withoutEndDots host)).length,
      registry = ofLabels ((labelsOf (withoutEndDots host)).drop n) := by
  unfold registryUnder? at h
  dsimp only at h
  have positive : 0 < (labelsOf (withoutEndDots host)).length :=
    List.length_pos_iff.2 (pieces_ne_nil _ _)
  split at h
  · cases h
  split at h
  · cases h
  · rename_i n suffix
    cases h
    have labels := labelled (labelsOf (withoutEndDots host))
    rw [suffix] at labels
    exact ⟨_, Nat.sub_lt positive labels, rfl⟩
  · obtain ⟨labels, found, rfl⟩ := Option.map_eq_some_iff.1 h
    obtain ⟨n, inside, rfl⟩ := registryLabelsUnder?_eq_drop found
    rw [lastLabels, List.length_drop] at inside
    refine ⟨_, ?_, by rw [lastLabels, List.drop_drop]⟩
    omega

/-- The registry of a host is the whole host or stands behind a dot of it, dots at the end aside. -/
theorem registryUnder?_whole {host registry : Text}
    (h : registryUnder? suffixOf host = some registry) :
    withoutEndDots host = registry ∨ ∃ stem, withoutEndDots host = stem ++ '.' :: registry := by
  obtain ⟨n, inside, rfl⟩ := registryUnder?_eq_drop labelled h
  have cut := ofLabels_drop inside
  rwa [ofLabels_labelsOf] at cut

theorem registryUnder?_suffix {host registry : Text}
    (h : registryUnder? suffixOf host = some registry) : registry <:+ withoutEndDots host := by
  rcases registryUnder?_whole labelled h with same | ⟨stem, same⟩
  · exact same ▸ List.suffix_rfl
  · rw [same]
    exact (List.suffix_cons _ _).trans (List.suffix_append _ _)

omit labelled in
theorem withoutEndDots_eq_self {host : Text} (noEndDot : host.getLast? ≠ some '.') :
    withoutEndDots host = host := by
  refine Text.dropEndWhile_eq_self fun c last dot => ?_
  rw [decide_eq_true_eq] at dot
  exact noEndDot (dot ▸ last)

/-- A comparison with a document whose name does not end in a dot does not break off. -/
theorem domainMatchesUnder_ok (domain : Text) {document : Text}
    (noEndDot : document.getLast? ≠ some '.') :
    ∃ found, domainMatchesUnder suffixOf domain document = .ok found := by
  rw [domainMatchesUnder]
  split
  · split
    · exact ⟨_, rfl⟩
    · rename_i registry found
      have isEnd : registry <:+ document := by
        rw [← withoutEndDots_eq_self noEndDot]
        exact registryUnder?_suffix labelled found
      obtain ⟨stem, rfl⟩ := isEnd
      split
      · rw [Text.dropBytesEnd?_append]
        exact ⟨_, rfl⟩
      · exact ⟨_, rfl⟩
  · exact ⟨_, rfl⟩

end Under

theorem domainMatches_ok [SuffixList] (domain : Text) {document : Text}
    (noEndDot : document.getLast? ≠ some '.') :
    ∃ found, domainMatches domain document = .ok found :=
  domainMatchesUnder_ok SuffixList.labels_pos domain noEndDot

end Host

namespace DomainLists

variable [Host.SuffixList]

theorem anyMatches_ok (names : List Text) {document : Text}
    (noEndDot : document.getLast? ≠ some '.') :
    ∃ found, anyMatches names document = .ok found := by
  rw [anyMatches]
  induction names with
  | nil => exact ⟨false, rfl⟩
  | cons name rest ih =>
    obtain ⟨first, matched⟩ := Host.domainMatches_ok name noEndDot
    rw [List.anyM_cons, matched]
    cases first with
    | false => exact ih
    | true => exact ⟨true, rfl⟩

/-- Whether a filter is active on a document whose name does not end in a dot is always decided. -/
theorem isActiveFor_ok (lists : DomainLists) (sitekey : Text) {document : Text}
    (noEndDot : document.getLast? ≠ some '.') :
    ∃ active, lists.isActiveFor document sitekey = .ok active := by
  rw [isActiveFor, isActiveOn, isExcludedOn]
  split
  · exact ⟨_, rfl⟩
  split
  · exact ⟨_, rfl⟩
  obtain ⟨excluded, decided⟩ := anyMatches_ok lists.excluded noEndDot
  rw [decided]
  cases excluded with
  | true => exact ⟨false, rfl⟩
  | false =>
    simp only [bind, Except.bind, Bool.false_eq_true, if_false]
    split
    · exact ⟨true, rfl⟩
    · exact anyMatches_ok _ noEndDot

end DomainLists

end ContentBlocker
