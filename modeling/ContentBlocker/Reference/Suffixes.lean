import ContentBlocker.Host.PublicSuffix
/-!
# A short list of public suffixes

A list for the program when it runs by itself, and for examples: some suffixes of every kind, which
a list in use has by the thousand. Rules name suffixes by their labels; `*` at the left end stands
for any one label, and an exception takes a name out of such a rule. Of the rules that match a host
an exception wins, otherwise the one with most labels. A host that no rule matches has its last
label as a suffix that is not known.
-/

namespace ContentBlocker.Host

/-- Which hosts a rule concerns: those that end in its labels, those with one more label in front,
or those that it takes out of such a rule. -/
inductive RuleKind where
  | exact
  | anyLabel
  | exception
  deriving DecidableEq, Repr

/-- A rule about suffixes, with the labels it names from left to right. -/
structure SuffixRule where
  labels : List Text
  kind : RuleKind
  authority : Authority

/-- A rule of the registries for exactly these labels. -/
def registryRule (name : Text) : SuffixRule := ⟨Text.pieces '.' name, .exact, .icann⟩

/-- A rule of a private owner for exactly these labels. -/
def ownerRule (name : Text) : SuffixRule := ⟨Text.pieces '.' name, .exact, .privateOwner⟩

/-- The rules of the list. -/
def suffixRules : List SuffixRule :=
  [registryRule "com", registryRule "net", registryRule "org", registryRule "info",
    registryRule "de", registryRule "fr", registryRule "io", registryRule "co",
    registryRule "com.co", registryRule "org.co", registryRule "uk", registryRule "co.uk",
    registryRule "gov.uk", registryRule "org.uk", registryRule "br", registryRule "com.br",
    registryRule "jp", registryRule "co.jp", registryRule "рф", registryRule "xn--p1ai",
    ⟨["kawasaki", "jp"], .anyLabel, .icann⟩,
    ⟨["city", "kawasaki", "jp"], .exception, .icann⟩,
    ⟨["ck"], .anyLabel, .icann⟩,
    ⟨["www", "ck"], .exception, .icann⟩,
    ownerRule "blogspot.com", ownerRule "appspot.com", ownerRule "github.io", ownerRule "uk.com",
    ownerRule "co.com"]

namespace SuffixRule

/-- Whether the rule concerns a host with these labels. -/
def concerns (rule : SuffixRule) (labels : List Text) : Bool :=
  rule.labels.isSuffixOf labels &&
    (rule.kind != .anyLabel || rule.labels.length < labels.length)

/-- How many labels the suffix has under this rule. -/
def suffixLabels (rule : SuffixRule) : Nat :=
  match rule.kind with
  | .exact => rule.labels.length
  | .anyLabel => rule.labels.length + 1
  | .exception => rule.labels.length - 1

/-- Of two rules that concern a host, the one that decides. -/
def stronger (a b : SuffixRule) : SuffixRule :=
  if a.kind = .exception then a
  else if b.kind = .exception then b
  else if a.suffixLabels < b.suffixLabels then b
  else a

end SuffixRule

/-- The rule that decides about a host with these labels, if any concerns it. -/
def decidingRule? (labels : List Text) : Option SuffixRule :=
  match suffixRules.filter (·.concerns labels) with
  | [] => none
  | rule :: rest => some (rest.foldl SuffixRule.stronger rule)

/-- The public suffix of a host with these labels under the list. -/
def publicSuffix (labels : List Text) : PublicSuffix :=
  match decidingRule? labels with
  | some rule => ⟨rule.suffixLabels, some rule.authority⟩
  | none => ⟨1, none⟩

/-- Every rule takes in a label. -/
theorem suffixLabels_pos : ∀ rule ∈ suffixRules, 0 < rule.suffixLabels := by
  decide

theorem mem_of_decidingRule? {labels : List Text} {rule : SuffixRule}
    (decides : decidingRule? labels = some rule) : rule ∈ suffixRules := by
  have one_of : ∀ (rest : List SuffixRule) (first : SuffixRule),
      rest.foldl SuffixRule.stronger first ∈ first :: rest := by
    intro rest
    induction rest with
    | nil =>
      intro first
      exact List.mem_cons_self
    | cons next rest ih =>
      intro first
      have stronger : first.stronger next = first ∨ first.stronger next = next := by
        unfold SuffixRule.stronger
        repeat' split
        all_goals simp
      rw [List.foldl_cons]
      rcases List.mem_cons.1 (ih (first.stronger next)) with same | later
      · rw [same]
        rcases stronger with eq | eq <;> simp [eq]
      · exact List.mem_cons_of_mem _ (List.mem_cons_of_mem _ later)
  unfold decidingRule? at decides
  split at decides
  · cases decides
  · rename_i first rest concerned
    cases decides
    have member := one_of rest first
    rw [← concerned] at member
    exact (List.mem_filter.1 member).1

/-- A public suffix has a label. -/
theorem publicSuffix_labels_pos (labels : List Text) : 0 < (publicSuffix labels).labels := by
  unfold publicSuffix
  cases decides : decidingRule? labels with
  | none => exact Nat.one_pos
  | some rule => exact suffixLabels_pos rule (mem_of_decidingRule? decides)

instance referenceSuffixes : SuffixList where
  suffixOf := publicSuffix
  labels_pos := publicSuffix_labels_pos

end ContentBlocker.Host
