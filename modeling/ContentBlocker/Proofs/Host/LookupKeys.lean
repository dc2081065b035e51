import ContentBlocker.Proofs.Host.Walk
import ContentBlocker.Proofs.Text.Ascii
import ContentBlocker.Reference.Suffixes
/-!
# Lookup keys are the names that match

The names under which filters for a document are looked up are just the names in small letters that
match the document: the host and the names above it and, with a dot at the end, those that match
without the registry. That both ways agree rests on the registry standing behind a dot, and so on
every public suffix being made of whole labels.
-/

namespace ContentBlocker.Host

theorem dotSuffixes_eq_cons (t : Text) : dotSuffixes t = t :: (dotSuffixes t).tail := by
  cases t <;> rfl

theorem mem_tail_dotSuffixes {name t : Text} :
    name ∈ (dotSuffixes t).tail ↔ '.' :: name <:+ t := by
  induction t with
  | nil => simp [dotSuffixes]
  | cons c rest ih =>
    rw [dotSuffixes, List.tail_cons, List.suffix_cons_iff, List.cons.injEq, ← ih]
    by_cases dot : c = '.'
    · rw [if_pos dot, dotSuffixes_eq_cons, List.mem_cons, List.tail_cons, dot]
      simp
    · rw [if_neg dot]
      simp [Ne.symm dot]

/-- The text itself, and all that it ends in behind a dot. -/
theorem mem_dotSuffixes {name t : Text} :
    name ∈ dotSuffixes t ↔ name = t ∨ '.' :: name <:+ t := by
  rw [dotSuffixes_eq_cons, List.mem_cons, mem_tail_dotSuffixes]

theorem mem_dotSuffixes_concat {name t : Text} {c : Char} :
    name ++ [c] ∈ dotSuffixes (t ++ [c]) ↔ name ∈ dotSuffixes t := by
  have behind : '.' :: (name ++ [c]) <:+ t ++ [c] ↔ '.' :: name <:+ t := by
    rw [← List.cons_append, List.suffix_append_inj_of_length_eq rfl, and_iff_left rfl]
  rw [mem_dotSuffixes, mem_dotSuffixes, List.append_left_inj, behind]

theorem suffix_of_mem_dotSuffixes {name t : Text} (member : name ∈ dotSuffixes t) : name <:+ t := by
  rcases mem_dotSuffixes.1 member with rfl | behind
  · exact List.suffix_rfl
  · exact (List.suffix_cons _ _).trans behind

/-- A name in `dotSuffixes` ends as the text does. -/
theorem getLast?_of_mem_dotSuffixes {name t : Text} (named : name ≠ [])
    (member : name ∈ dotSuffixes t) : name.getLast? = t.getLast? := by
  obtain ⟨front, rfl⟩ := suffix_of_mem_dotSuffixes member
  obtain ⟨start, last, rfl⟩ := (List.eq_nil_or_concat name).resolve_left named
  rw [List.concat_eq_append, ← List.append_assoc, List.getLast?_concat, List.getLast?_concat]

/-- Each name is shorter than those in front of it. -/
theorem pairwise_dotSuffixes (t : Text) :
    (dotSuffixes t).Pairwise fun a b => b.length < a.length := by
  induction t with
  | nil => simp [dotSuffixes]
  | cons c rest ih =>
    have shorter : ∀ name ∈ dotSuffixes rest, name.length < rest.length + 1 := by
      intro name member
      exact Nat.lt_succ_of_le (suffix_of_mem_dotSuffixes member).length_le
    rw [dotSuffixes]
    split
    · exact List.pairwise_cons.2 ⟨shorter, ih⟩
    · refine List.pairwise_cons.2 ⟨?_, ih.sublist (List.tail_sublist _)⟩
      intro name member
      exact shorter name (List.mem_of_mem_tail member)

theorem isAtOrBelow_iff {name document : Text} (small : name.lower = name)
    (smallDocument : document.lower = document) :
    isAtOrBelow name document ↔ name ∈ dotSuffixes document := by
  have dotted : Text.lower ('.' :: name) = '.' :: name := congrArg ('.' :: ·) small
  rw [mem_dotSuffixes, isAtOrBelow, Text.sameIgnoringCase, Text.endsIgnoringCase, dotted, small,
    smallDocument]
  simp

section Under

variable {suffixOf : List Text → PublicSuffix} {name document : Text}

/-- Without a dot at its end a name matches the document and the names below it. -/
theorem domainMatchesUnder_iff_of_plain (small : name.lower = name)
    (smallDocument : document.lower = document) (plain : name.getLast? ≠ some '.') :
    domainMatchesUnder suffixOf name document = .ok true ↔ name ∈ dotSuffixes document := by
  rw [domainMatchesUnder, if_neg plain, Except.ok.injEq, isAtOrBelow_iff small smallDocument]

/-- With a dot at its end a name matches what is left in front of the registry. -/
theorem domainMatchesUnder_iff_of_stem {stem registry : Text} (small : name.lower = name)
    (smallDocument : document.lower = document)
    (found : registryUnder? suffixOf document = some registry)
    (cut : document = stem ++ '.' :: registry) :
    domainMatchesUnder suffixOf (name ++ ['.']) document = .ok true ↔ name ∈ dotSuffixes stem := by
  have parts : document = (stem ++ ['.']) ++ registry := by
    rw [cut, List.append_assoc, List.singleton_append]
  have shorter : registry.byteLength < document.byteLength := by
    have dot : ('.' : Char).utf8Size = 1 := rfl
    rw [cut, Text.byteLength_append, Text.byteLength_cons, dot]
    omega
  have rest : document.dropBytesEnd? registry.byteLength = some (stem ++ ['.']) := by
    rw [parts, Text.dropBytesEnd?_append]
  have smallName : Text.lower (name ++ ['.']) = name ++ ['.'] := by
    rw [Text.lower, List.map_append, ← Text.lower, small]
    rfl
  have smallStem : Text.lower (stem ++ ['.']) = stem ++ ['.'] := by
    rw [parts, Text.lower, List.map_append] at smallDocument
    exact (List.append_inj smallDocument (List.length_map _)).1
  rw [domainMatchesUnder, if_pos (List.getLast?_concat), found]
  simp only [if_pos shorter, rest]
  rw [Except.ok.injEq, isAtOrBelow_iff smallName smallStem, mem_dotSuffixes_concat]

/-- With a dot at its end a name matches no host that is a registry or has none. -/
theorem domainMatchesUnder_of_no_stem (dotted : name.getLast? = some '.')
    (bare : ∀ registry, registryUnder? suffixOf document = some registry → registry = document) :
    domainMatchesUnder suffixOf name document = .ok false := by
  rw [domainMatchesUnder, if_pos dotted]
  cases found : registryUnder? suffixOf document with
  | none => rfl
  | some registry => simp [bare registry found]

/-- A name with a dot at its end stands in no host that has none there. -/
theorem not_mem_dotSuffixes (noEndDot : document.getLast? ≠ some '.')
    (dotted : name.getLast? = some '.') : name ∉ dotSuffixes document := by
  intro member
  have named : name ≠ [] := by
    rintro rfl
    cases dotted
  rw [getLast?_of_mem_dotSuffixes named member] at dotted
  exact noEndDot dotted

variable (labelled : ∀ labels, 0 < (suffixOf labels).labels)
include labelled

/-- Either a host has no name in front of a registry, or a dot stands between the two. -/
theorem stem_cases (noEndDot : document.getLast? ≠ some '.') :
    (∀ registry, registryUnder? suffixOf document = some registry → registry = document) ∨
      ∃ stem registry, registryUnder? suffixOf document = some registry ∧
        document = stem ++ '.' :: registry := by
  cases found : registryUnder? suffixOf document with
  | none =>
    left
    intro registry same
    cases same
  | some registry =>
    have whole := registryUnder?_whole labelled found
    rw [withoutEndDots_eq_self noEndDot] at whole
    rcases whole with same | ⟨stem, cut⟩
    · left
      rintro _ ⟨⟩
      exact same.symm
    · exact .inr ⟨stem, registry, rfl, cut⟩

/-- The keys of a host: the host and what follows its dots, then the same of the stem in front of
its registry. -/
theorem keys_start (noEndDot : document.getLast? ≠ some '.') :
    (document = [] ∧ (KeyWalk.start suffixOf document).keys = []) ∨
      (document ≠ [] ∧ (KeyWalk.start suffixOf document).keys = dotSuffixes document ∧
        ∀ registry, registryUnder? suffixOf document = some registry → registry = document) ∨
      ∃ stem registry, registryUnder? suffixOf document = some registry ∧
        document = stem ++ '.' :: registry ∧ (KeyWalk.start suffixOf document).keys =
          dotSuffixes document ++ (dotSuffixes stem).map (· ++ ['.']) := by
  by_cases blank : document = []
  · subst blank
    exact .inl ⟨rfl, KeyWalk.keys_start_nil⟩
  · rcases stem_cases labelled noEndDot with bare | ⟨stem, registry, found, cut⟩
    · exact .inr (.inl ⟨blank, KeyWalk.keys_start_of_no_stem blank noEndDot bare, bare⟩)
    · exact .inr (.inr ⟨stem, registry, found, cut, KeyWalk.keys_start_of_stem noEndDot found cut⟩)

/-- The keys of a host are just the names that match it. -/
theorem mem_keys_start (named : name ≠ []) (small : name.lower = name)
    (smallDocument : document.lower = document) (noEndDot : document.getLast? ≠ some '.') :
    name ∈ (KeyWalk.start suffixOf document).keys ↔
      domainMatchesUnder suffixOf name document = .ok true := by
  have wildcard : ∀ stem : Text, stem ++ ['.'] = name → name.getLast? = some '.' := by
    rintro stem rfl
    exact List.getLast?_concat
  by_cases dotted : name.getLast? = some '.'
  · have notAbove := not_mem_dotSuffixes noEndDot dotted
    obtain ⟨start, rfl⟩ := List.getLast?_eq_some_iff.1 dotted
    have smallStart : Text.lower start = start := by
      rw [Text.lower, List.map_append] at small
      exact (List.append_inj small (List.length_map _)).1
    rcases keys_start labelled noEndDot with ⟨blank, keys⟩ | ⟨-, keys, bare⟩ |
        ⟨stem, registry, found, cut, keys⟩
    · have bare : ∀ registry, registryUnder? suffixOf document = some registry →
          registry = document := by
        subst blank
        rintro registry ⟨⟩
      simp [keys, domainMatchesUnder_of_no_stem dotted bare]
    · simp [keys, notAbove, domainMatchesUnder_of_no_stem dotted bare]
    · rw [keys, domainMatchesUnder_iff_of_stem smallStart smallDocument found cut]
      simp [notAbove]
  · rw [domainMatchesUnder_iff_of_plain small smallDocument dotted]
    rcases keys_start labelled noEndDot with ⟨blank, keys⟩ | ⟨-, keys, -⟩ |
        ⟨stem, registry, -, -, keys⟩
    · rw [keys, blank]
      simp [dotSuffixes, named]
    · rw [keys]
    · rw [keys, List.mem_append, or_iff_left]
      intro member
      obtain ⟨start, -, same⟩ := List.mem_map.1 member
      exact dotted (wildcard start same)

/-- The keys of a host fall into those above it and, behind them, those with a dot at the end. In
either group each key is shorter than the one in front of it. -/
theorem keys_start_groups (noEndDot : document.getLast? ≠ some '.') : ∃ plain wild : List Text,
    (KeyWalk.start suffixOf document).keys = plain ++ wild ∧
      (∀ key ∈ plain, key <:+ document ∧ key.getLast? ≠ some '.') ∧
      (∀ key ∈ wild, key.getLast? = some '.') ∧
      (plain.Pairwise fun a b => b.length < a.length) ∧
      wild.Pairwise fun a b => b.length < a.length := by
  have above : ∀ key ∈ dotSuffixes document, key <:+ document ∧ key.getLast? ≠ some '.' := by
    intro key member
    refine ⟨suffix_of_mem_dotSuffixes member, ?_⟩
    intro dotted
    exact not_mem_dotSuffixes noEndDot dotted member
  rcases keys_start labelled noEndDot with ⟨-, keys⟩ | ⟨-, keys, -⟩ | ⟨stem, -, -, -, keys⟩
  · exact ⟨[], [], keys, by simp, by simp, .nil, .nil⟩
  · refine ⟨dotSuffixes document, [], ?_, above, by simp, pairwise_dotSuffixes _, .nil⟩
    rw [keys, List.append_nil]
  · refine ⟨_, _, keys, above, ?_, pairwise_dotSuffixes _, ?_⟩
    · intro key member
      obtain ⟨start, -, rfl⟩ := List.mem_map.1 member
      exact List.getLast?_concat
    · apply (pairwise_dotSuffixes stem).map
      intro a b shorter
      simpa using shorter

/-- No key of a host is found twice. -/
theorem nodup_keys_start (noEndDot : document.getLast? ≠ some '.') :
    (KeyWalk.start suffixOf document).keys.Nodup := by
  obtain ⟨plain, wild, keys, above, dotted, falling, falling'⟩ :=
    keys_start_groups labelled noEndDot
  have distinct : ∀ a b : Text, b.length < a.length → a ≠ b := by
    rintro a _ shorter rfl
    exact Nat.lt_irrefl _ shorter
  rw [keys, List.nodup_append]
  refine ⟨falling.imp (distinct _ _), falling'.imp (distinct _ _), ?_⟩
  rintro key inPlain _ inWild rfl
  exact (above key inPlain).2 (dotted key inWild)

/-- A walk over the keys of a host finds just the names that match the host, none of them twice:
first suffixes of the host, then names with a dot at the end, each group getting shorter. Behind the
last key it finds nothing any more. -/
theorem answer_start (small : document.lower = document) (noEndDot : document.getLast? ≠ some '.') :
    ∃ plain wild : List Text,
      (∀ n, (KeyWalk.start suffixOf document).answer n = (plain ++ wild)[n]?) ∧
      (plain ++ wild).Nodup ∧
      (∀ key ∈ plain, key <:+ document ∧ key.getLast? ≠ some '.') ∧
      (∀ key ∈ wild, key.getLast? = some '.') ∧
      (plain.Pairwise fun a b => b.length < a.length) ∧
      (wild.Pairwise fun a b => b.length < a.length) ∧
      ∀ domain : Text, domain ≠ [] → domain.lower = domain →
        domainMatchesUnder suffixOf domain document = .ok (decide (domain ∈ plain ++ wild)) := by
  obtain ⟨plain, wild, keys, above, dotted, falling, falling'⟩ :=
    keys_start_groups labelled noEndDot
  refine ⟨plain, wild, ?_, ?_, above, dotted, falling, falling', ?_⟩
  · intro n
    rw [KeyWalk.answer_eq, keys]
  · rw [← keys]
    exact nodup_keys_start labelled noEndDot
  · intro domain named smallDomain
    obtain ⟨found, decided⟩ := domainMatchesUnder_ok labelled domain noEndDot
    have iff := mem_keys_start labelled named smallDomain small noEndDot
    rw [keys, decided, Except.ok.injEq] at iff
    have same : decide (domain ∈ plain ++ wild) = found := by
      rw [Bool.eq_iff_iff, decide_eq_true_iff]
      exact iff
    rw [decided, same]

end Under

/-- Below a registry of two labels the walk ends with names in front of both. -/
theorem answer_start_co_uk :
    let document : Text := "www.example.co.uk"
    (∀ labels, 0 < (publicSuffix labels).labels) ∧ document.lower = document ∧
      document.getLast? ≠ some '.' ∧ ∃ plain wild : List Text,
        (∀ n, (KeyWalk.start publicSuffix document).answer n = (plain ++ wild)[n]?) ∧
        (plain ++ wild).Nodup ∧
        (∀ key ∈ plain, key <:+ document ∧ key.getLast? ≠ some '.') ∧
        (∀ key ∈ wild, key.getLast? = some '.') ∧
        (plain.Pairwise fun a b => b.length < a.length) ∧
        (wild.Pairwise fun a b => b.length < a.length) ∧
        ∀ domain : Text, domain ≠ [] → domain.lower = domain →
          domainMatchesUnder publicSuffix domain document =
            .ok (decide (domain ∈ plain ++ wild)) := by
  intro document
  have small : document.lower = document := by decide
  have noEndDot : document.getLast? ≠ some '.' := by decide
  exact ⟨publicSuffix_labels_pos, small, noEndDot,
    answer_start publicSuffix_labels_pos small noEndDot⟩

section LookupKeys

variable [SuffixList] {name document : Text}

/-- Filters for a document are looked up under just the names that match it. -/
theorem mem_lookupKeys (named : name ≠ []) (small : name.lower = name)
    (smallDocument : document.lower = document) (noEndDot : document.getLast? ≠ some '.') :
    name ∈ lookupKeys document ↔ domainMatches name document = .ok true :=
  mem_keys_start SuffixList.labels_pos named small smallDocument noEndDot

/-- No name is looked up twice for a document. -/
theorem nodup_lookupKeys (noEndDot : document.getLast? ≠ some '.') : (lookupKeys document).Nodup :=
  nodup_keys_start SuffixList.labels_pos noEndDot

/-- The empty name is no lookup key. -/
theorem nil_not_mem_lookupKeys (noEndDot : document.getLast? ≠ some '.') :
    [] ∉ lookupKeys document := by
  have notAbove : document ≠ [] → [] ∉ dotSuffixes document := by
    intro named member
    rcases mem_dotSuffixes.1 member with same | ⟨front, rfl⟩
    · exact named same.symm
    · exact noEndDot List.getLast?_concat
  rw [lookupKeys]
  rcases keys_start SuffixList.labels_pos noEndDot with ⟨-, keys⟩ | ⟨named, keys, -⟩ |
      ⟨stem, registry, -, cut, keys⟩
  · rw [keys]
    exact List.not_mem_nil
  · rw [keys]
    exact notAbove named
  · rw [keys, List.mem_append, not_or]
    refine ⟨notAbove ?_, by simp⟩
    rw [cut]
    exact List.append_ne_nil_of_right_ne_nil _ (List.cons_ne_nil _ _)

end LookupKeys

end ContentBlocker.Host
