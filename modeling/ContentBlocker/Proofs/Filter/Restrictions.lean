import ContentBlocker.Proofs.Filter.Elements
import ContentBlocker.Proofs.Filter.Entries
import ContentBlocker.Proofs.Filter.Options
import ContentBlocker.Proofs.Filter.Patterns
import Mathlib.Data.List.DropRight
import Mathlib.Data.List.Induction
/-!
# What is left of restrictions

A filter on addresses is bound to domains by its domain options and to keys by its sitekey options.
Of the options of either name only the last one counts, and what it writes counts only as far as it
names something: entries of white space, of a single asterisk, or of asterisks in front of dots name
no domain, and nothing but bars names no key. A filter is generic exactly if neither last option
names anything, however many restrictions its line writes.
-/

namespace ContentBlocker

/-- Of the steps that set a field the last one counts. -/
theorem foldlM_last {α β γ ε : Type} {f : β → α → Except ε β} (field : β → γ) (sets : α → Bool)
    (value : α → γ)
    (step : ∀ b a b', f b a = .ok b' → field b' = if sets a then value a else field b)
    {as : List α} {b b' : β} (run : as.foldlM f b = .ok b') :
    field b' = ((as.filter sets).getLast?.map value).getD (field b) := by
  rw [foldlM_field field (g := fun c a => if sets a then value a else c) step run]
  clear run
  induction as using List.reverseRec with
  | nil => rfl
  | append_singleton as a ih =>
    rw [List.foldl_concat, ih, List.filter_append]
    by_cases set : sets a <;> simp [set]

theorem orderedSet_eq_nil {α : Type} [LT α] [DecidableLT α] [DecidableEq α] {as : List α} :
    orderedSet as = [] ↔ as = [] := by
  simp only [List.eq_nil_iff_forall_not_mem, mem_orderedSet]

namespace Text

theorem eq_of_lower_eq {t u : Text} (noLetter : ∀ c ∈ u, c.isLower = false)
    (same : t.lower = u) : t = u := by
  rw [← same]
  refine (lower_eq_self_iff.2 fun c member => ?_).symm
  have kept : c.toLower ∈ u := same ▸ List.mem_map_of_mem member
  exact (eq_of_toLower_eq (noLetter _ kept) rfl).symm

/-- The bar is the capital of nothing but itself. -/
theorem toUpper_eq_bar {c : Char} : c.toUpper = '|' ↔ c = '|' := by
  rw [← Char.toNat_inj, ← Char.toNat_inj, toNat_toUpper]
  change _ = 124 ↔ _ = 124
  split <;> omega

theorem exists_piece_ne_nil {sep : Char} {t : Text} :
    (∃ piece ∈ pieces sep t, piece ≠ []) ↔ ∃ c ∈ t, c ≠ sep := by
  induction t with
  | nil => simp [pieces]
  | cons c t ih =>
    rw [pieces]
    split
    · rename_i same
      simpa [same] using ih
    · rename_i other
      cases pieces sep t <;> simp [other]

end Text

namespace DomainSet

/-- A text without a name: nothing, one asterisk, or asterisks in front of dots. -/
def Nameless (text : Text) : Prop :=
  text = ['*'] ∨ ∃ stars dots, text = stars ++ dots ∧ (∀ c ∈ stars, c = '*') ∧
    (∀ c ∈ dots, c = '.') ∧ (dots = [] → stars = [])

theorem nameless_lower {text : Text} : Nameless text.lower ↔ Nameless text := by
  -- asterisks and dots are no letters
  have lowered {u : Text} (marks : ∀ c ∈ u, c = '*' ∨ c = '.') : text.lower = u ↔ text = u := by
    constructor
    · apply Text.eq_of_lower_eq
      intro c member
      rcases marks c member with rfl | rfl <;> decide
    · intro same
      rw [same, Text.lower_eq_self_iff]
      intro c member
      rcases marks c member with rfl | rfl <;> decide
  unfold Nameless
  apply or_congr
  · apply lowered
    simp
  · apply exists₂_congr
    intro stars dots
    apply and_congr_left
    rintro ⟨areStars, areDots, _⟩
    apply lowered
    intro c member
    exact (List.mem_append.1 member).imp (areStars c) (areDots c)

/-- Nothing is left of a text without the dots and then the asterisks at its end exactly if it is
made of asterisks in front of dots. -/
theorem rdropWhile_rdropWhile_eq_nil {t : Text} :
    (t.rdropWhile (· = '.')).rdropWhile (· = '*') = [] ↔
      ∃ stars dots, t = stars ++ dots ∧ (∀ c ∈ stars, c = '*') ∧ ∀ c ∈ dots, c = '.' := by
  rw [List.rdropWhile_eq_nil_iff]
  constructor
  · intro stars
    refine ⟨t.rdropWhile (· = '.'), t.rtakeWhile (· = '.'), ?_, ?_, ?_⟩
    · exact (List.rdropWhile_append_rtakeWhile ..).symm
    · simpa using stars
    · intro c member
      simpa using List.mem_rtakeWhile_imp member
  · rintro ⟨stars, dots, split, areStars, areDots⟩ c member
    have dropped : t.rdropWhile (· = '.') = stars.rdropWhile (· = '.') := by
      rw [split, List.rdropWhile, List.reverse_append, List.dropWhile_append_of_pos]
      · rfl
      · simpa using areDots
    rw [dropped] at member
    have within := (List.rdropWhile_prefix (· = '.') stars).subset member
    simpa using areStars c within

theorem eq_nil_of_starEnd {rest stars dots : Text} (split : rest ++ ['*'] = stars ++ dots)
    (areDots : ∀ c ∈ dots, c = '.') : dots = [] := by
  rcases List.eq_nil_or_concat dots with none | ⟨front, c, rfl⟩
  · exact none
  · rw [List.concat_eq_append, ← List.append_assoc] at split
    have last := (List.append_inj' split rfl).2
    have isDot := areDots c (by simp)
    rw [isDot] at last
    cases last

/-- A domain is kept unless it has no name. -/
theorem normalize_eq_nil {text : Text} : normalize text = [] ↔ Nameless text.trim := by
  rw [← nameless_lower]
  unfold normalize
  dsimp only
  cases dropped : Text.dropLast? '*' text.trim.lower with
  | some rest =>
    rw [Text.dropLast?_eq_some] at dropped
    rw [dropped]
    constructor
    · rintro rfl
      exact .inl rfl
    · rintro (one | ⟨stars, dots, split, -, areDots, noStars⟩)
      · simpa using one
      · have noDots := eq_nil_of_starEnd split areDots
        rw [noDots, noStars noDots] at split
        simp at split
  | none =>
    have noEndStar (rest : Text) : text.trim.lower ≠ rest ++ ['*'] := by
      intro ending
      rw [Text.dropLast?_eq_some.2 ending] at dropped
      cases dropped
    apply rdropWhile_rdropWhile_eq_nil.trans
    constructor
    · rintro ⟨stars, dots, split, areStars, areDots⟩
      refine .inr ⟨stars, dots, split, areStars, areDots, fun noDots => ?_⟩
      rcases List.eq_nil_or_concat stars with none | ⟨front, c, rfl⟩
      · exact none
      · rw [noDots, List.append_nil, List.concat_eq_append, areStars c (by simp)] at split
        exact absurd split (noEndStar front)
    · rintro (one | ⟨stars, dots, split, areStars, areDots, -⟩)
      · exact absurd one (noEndStar [])
      · exact ⟨stars, dots, split, areStars, areDots⟩

theorem isEmpty_ofEntries {entries : List Text} :
    (ofEntries entries).isEmpty = true ↔ ∀ entry ∈ entries, (readEntry entry).2 = [] := by
  simp only [isEmpty, ofEntries, Bool.and_eq_true, List.isEmpty_iff, orderedSet_eq_nil,
    List.map_eq_nil_iff, List.filter_eq_nil_iff, List.mem_filter, List.mem_map, decide_eq_true_eq,
    Bool.not_eq_true']
  constructor
  · rintro ⟨included, excluded⟩ entry member
    by_contra named
    cases excludes : (readEntry entry).1 with
    | false => exact included _ ⟨⟨entry, member, rfl⟩, named⟩ excludes
    | true => exact excluded _ ⟨⟨entry, member, rfl⟩, named⟩ excludes
  · intro nameless
    constructor
    all_goals
      rintro _ ⟨⟨entry, member, rfl⟩, named⟩
      exact absurd (nameless entry member) named

theorem readEntry_snd (entry : Text) :
    (readEntry entry).2 = normalize ((Text.dropFirst? '~' entry).getD entry) := by
  unfold readEntry
  cases Text.dropFirst? '~' entry <;> rfl

end DomainSet

namespace Options

/-- The value of a domain option names a domain: behind its `~`, if it has one, and white space some
entry has a name. -/
def NamesDomain (value : Text) : Prop :=
  ∃ entry ∈ Text.pieces '|' value,
    ¬ DomainSet.Nameless ((Text.dropFirst? '~' entry).getD entry).trim

/-- The value of a sitekey option names a key: it is not made of bars alone. -/
def NamesKey (value : Text) : Prop := ∃ c ∈ value, c ≠ '|'

/-- The last option of a name, which is the one that counts. -/
def last? (name : Text) (entries : List Entry) : Option Entry :=
  (entries.filter (·.name = name)).getLast?

theorem isEmpty_domains_iff (value : Text) :
    (DomainSet.ofEntries (Text.pieces '|' value)).isEmpty = false ↔ NamesDomain value := by
  rw [← Bool.not_eq_true, DomainSet.isEmpty_ofEntries]
  simp only [DomainSet.readEntry_snd, DomainSet.normalize_eq_nil, not_forall, exists_prop]
  rfl

theorem sitekeysOf_ne_nil_iff (value : Text) : sitekeysOf value ≠ [] ↔ NamesKey value := by
  have sorted : sitekeysOf value = [] ↔ (Text.pieces '|' value.upper).filter (· ≠ []) = [] := by
    rw [sitekeysOf, ← List.length_eq_zero_iff, List.length_mergeSort, List.length_eq_zero_iff]
  have pieces : sitekeysOf value ≠ [] ↔ ∃ piece ∈ Text.pieces '|' value.upper, piece ≠ [] := by
    rw [ne_eq, sorted, List.filter_eq_nil_iff]
    simp
  rw [pieces, Text.exists_piece_ne_nil, NamesKey]
  simp [Text.upper, Text.toUpper_eq_bar]

section Reading

variable {entries : List Entry} {options : Options}
  (read : entries.foldlM add .absent = .ok options)
include read

theorem domains_of_read : options.domains =
    ((last? "domain" entries).map fun entry => .ofEntries (Text.pieces '|' entry.value)).getD
      .empty := by
  apply foldlM_last Options.domains (fun entry => entry.name = ("domain" : Text)) _ _ read
  intro _ _ _ added
  simp only [decide_eq_true_eq]
  exact (adds_of_add added).domains

theorem sitekeys_of_read : options.sitekeys =
    ((last? "sitekey" entries).map fun entry => sitekeysOf entry.value).getD [] := by
  apply foldlM_last Options.sitekeys (fun entry => entry.name = ("sitekey" : Text)) _ _ read
  intro _ _ _ added
  simp only [decide_eq_true_eq]
  exact (adds_of_add added).sitekeys

/-- Options bind a filter just if its last domain option or its last sitekey option names
something. -/
theorem restricts_iff_of_read :
    ¬ (options.sitekeys.isEmpty && options.domains.isEmpty) ↔
      (∃ entry ∈ last? "domain" entries, NamesDomain entry.value) ∨
        ∃ entry ∈ last? "sitekey" entries, NamesKey entry.value := by
  have domains : options.domains.isEmpty = false ↔
      ∃ entry ∈ last? "domain" entries, NamesDomain entry.value := by
    rw [domains_of_read read]
    cases last? "domain" entries with
    | none => simp [DomainSet.empty, DomainSet.isEmpty]
    | some entry => simp [isEmpty_domains_iff]
  have sitekeys : options.sitekeys.isEmpty = false ↔
      ∃ entry ∈ last? "sitekey" entries, NamesKey entry.value := by
    rw [sitekeys_of_read read]
    cases last? "sitekey" entries with
    | none => simp
    | some entry => simpa using sitekeysOf_ne_nil_iff entry.value
  rw [← domains, ← sitekeys, Bool.and_eq_true, not_and_or, Bool.not_eq_true, Bool.not_eq_true]
  exact or_comm

end Reading

end Options

namespace UrlFilter

/-- A filter on addresses has the domains and the keys that the options of its line say. -/
theorem options_of_parse [RegexEngine] {privileged : Bool} {line : Text} {filter : UrlFilter}
    (h : Filter.parse privileged line = .ok (.url filter)) :
    ∃ options, (entriesOf line).foldlM Options.add .absent = .ok options ∧
      filter.domains = options.domains ∧ filter.sitekeys = options.sitekeys := by
  obtain ⟨hasOptions, options, folded, made⟩ := made_of_parse h
  obtain rfl := of_ofParts_eq_ok made
  exact ⟨options, folded, rfl, rfl⟩

/-- A filter on addresses is bound to domains or keys exactly if the last domain option of its line
names a domain or the last sitekey option names a key. -/
theorem isGeneric_eq_false_iff [RegexEngine] {privileged : Bool} {line : Text}
    {filter : UrlFilter} (read : Filter.parse privileged line = .ok (.url filter)) :
    filter.isGeneric = false ↔
      (∃ entry ∈ Options.last? "domain" (entriesOf line), Options.NamesDomain entry.value) ∨
        ∃ entry ∈ Options.last? "sitekey" (entriesOf line), Options.NamesKey entry.value := by
  obtain ⟨options, folded, domains, sitekeys⟩ := options_of_parse read
  rw [isGeneric, domains, sitekeys, ← Bool.not_eq_true]
  exact Options.restricts_iff_of_read folded

theorem ofParts_host (domains : DomainSet) :
    ofParts false .blocking "||ads.example^" true { Options.absent with domains } =
      .ok { plain .blocking "||ads.example^" with domains } := by
  apply ofParts_restricted domains [] (by decide) (by decide) (by decide)
  show isValidPattern (Pattern.source "||ads.example^") = true
  rw [Pattern.source_of_not_isExpression (by decide)]
  exact AddressPattern.isValid_compile_source referenceEngine_ordinarySearch
    (AddressPattern.tooLarge_source (by decide))

/-- The second of two domain options counts. -/
theorem isGeneric_eq_false_iff_two_options :
    let line : Text := "||ads.example^$domain=|,domain=~Shop.example"
    let filter := { plain .blocking "||ads.example^" with domains := ⟨[], ["shop.example"]⟩ }
    Filter.parse false line = .ok (.url filter) ∧
      (filter.isGeneric = false ↔
        (∃ entry ∈ Options.last? "domain" (entriesOf line), Options.NamesDomain entry.value) ∨
          ∃ entry ∈ Options.last? "sitekey" (entriesOf line), Options.NamesKey entry.value) := by
  intro line filter
  have options : Options.parse "domain=|,domain=~Shop.example" =
      .ok { Options.absent with domains := ⟨[], ["shop.example"]⟩ } := by decide
  have read : Filter.parse false line = .ok (.url filter) := by
    apply parse_of_ofParts _ _ _ _ options (ofParts_host _)
    all_goals decide
  exact ⟨read, isGeneric_eq_false_iff read⟩

/-- A value that is made of bars restricts nothing. -/
theorem not_isGeneric_eq_false :
    ¬ ∀ privileged line filter, Filter.parse privileged line = .ok (.url filter) →
      (∃ entry ∈ entriesOf line, entry.name = ("domain" : Text) ∨ entry.name = ("sitekey" : Text)) →
        filter.isGeneric = false := by
  intro claimed
  have options : Options.parse "domain=|" = .ok { Options.absent with domains := .empty } := by
    decide
  have read : Filter.parse false "||ads.example^$domain=|" =
      .ok (.url { plain .blocking "||ads.example^" with domains := .empty }) := by
    apply parse_of_ofParts _ _ _ _ options (ofParts_host .empty)
    all_goals decide
  have restricts : ∃ entry ∈ entriesOf "||ads.example^$domain=|",
      entry.name = ("domain" : Text) ∨ entry.name = ("sitekey" : Text) := by decide
  have bound := claimed false _ _ read restricts
  cases bound

-- A later option may also take back what an earlier one restricts.
example : (Options.parse "domain=shop.example,domain=~").toOption.map (·.domains.isEmpty) =
    some true := by
  decide

end UrlFilter

end ContentBlocker
