import ContentBlocker.Proofs.Filter.Parsed
import ContentBlocker.Proofs.Text.Ascii
import ContentBlocker.Proofs.Text.Cutting
/-!
# What reading guarantees of filters on elements

A filter on elements names its domains in small letters. If it does more than hide elements, or keep
others from hiding them, it names a domain on which it applies.
-/

namespace ContentBlocker

namespace DomainSet

/-- A domain is kept in small letters. -/
theorem lower_normalize (domain : Text) : (normalize domain).lower = normalize domain := by
  have small := Text.lower_eq_self_iff.1 (Text.lower_lower domain.trim)
  have within : normalize domain ⊆ domain.trim.lower := by
    unfold normalize
    dsimp only
    cases dropped : Text.dropLast? '*' domain.trim.lower with
    | some rest =>
      rw [Text.dropLast?_eq_some.1 dropped]
      exact List.subset_append_left _ _
    | none =>
      exact ((Text.dropEndWhile_sublist _ _).trans (Text.dropEndWhile_sublist _ _)).subset
  exact Text.lower_eq_self_iff.2 fun c member => small c (within member)

theorem lower_of_mem_ofEntries {entries : List Text} {name : Text}
    (member : name ∈ (ofEntries entries).included ∨ name ∈ (ofEntries entries).excluded) :
    name.lower = name := by
  simp only [ofEntries, mem_orderedSet, List.mem_map, List.mem_filter] at member
  have read : ∃ entry, (readEntry entry).2 = name := by
    rcases member with ⟨_, ⟨⟨⟨entry, -, rfl⟩, -⟩, -⟩, rfl⟩ | ⟨_, ⟨⟨⟨entry, -, rfl⟩, -⟩, -⟩, rfl⟩
    · exact ⟨entry, rfl⟩
    · exact ⟨entry, rfl⟩
  obtain ⟨entry, rfl⟩ := read
  unfold readEntry
  split
  · exact lower_normalize _
  · exact lower_normalize _

end DomainSet

theorem ContentFilter.kind_ofSelector {kind : ContentKind} {domains : DomainSet}
    {selector : Text} {filter : ContentFilter} (h : ofSelector kind domains selector = .ok filter) :
    filter.kind = kind := by
  rw [ofSelector] at h
  split at h <;> cases h
  rfl

namespace Filter

theorem Separated.content {privileged : Bool} {domains : DomainSet} {body : Text}
    {separator : Separator} {filter : ContentFilter}
    (made : Separated privileged domains body separator (.content filter)) :
    filter.domains = domains ∧
      (filter.domains.included = [] → filter.kind = .hide ∨ filter.kind = .hideException) := by
  cases made with
  | hide selected =>
    exact ⟨ContentFilter.domains_ofSelector selected,
      fun _ => .inl (ContentFilter.kind_ofSelector selected)⟩
  | hideException selected =>
    exact ⟨ContentFilter.domains_ofSelector selected,
      fun _ => .inr (ContentFilter.kind_ofSelector selected)⟩
  | emulation named emulated =>
    have same := ContentFilter.domains_ofEmulation emulated
    refine ⟨same, fun nothing => ?_⟩
    rw [same] at nothing
    exact absurd nothing named

theorem lower_of_mem_domainsBefore {separator : Separator} {before name : Text}
    (member : name ∈ (domainsBefore separator before).included) : name.lower = name := by
  unfold domainsBefore at member
  dsimp only at member
  split at member
  · exact DomainSet.lower_of_mem_ofEntries (.inl (List.mem_filter.1 member).1)
  · exact DomainSet.lower_of_mem_ofEntries (.inl member)

/-- A filter on elements that was read from a line names its domains in small letters. Only one that
hides, or keeps others from it, may do without. -/
theorem content_of_parse [RegexEngine] {privileged : Bool} {line : Text} {filter : ContentFilter}
    (h : parse privileged line = .ok (.content filter)) :
    (∀ name ∈ filter.domains.included, name.lower = name) ∧
      (filter.domains.included = [] → filter.kind = .hide ∨ filter.kind = .hideException) := by
  rcases cases_of_parse h with ⟨before, separator, after, -, made⟩ | ⟨-, made, -, same⟩
  · obtain ⟨domains, bound⟩ := made.content
    rw [domains] at bound ⊢
    exact ⟨fun name member => lower_of_mem_domainsBefore member, bound⟩
  · cases same

end Filter

end ContentBlocker
