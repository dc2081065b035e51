import ContentBlocker.Text.Basic
/-!
# Public suffixes

A public suffix is a run of whole labels under which names are registered. Which suffixes there are
is settled by a list that changes from month to month and is no part of this library: the list is a
parameter of whatever asks for the suffix of a host. Case matters, and labels may be empty.
-/

namespace ContentBlocker.Host

/-- Who runs a suffix: the registries of the domain name system, or an owner of a name below one. -/
inductive Authority where
  | icann
  | privateOwner
  deriving DecidableEq, Repr

/-- The public suffix of a host. -/
structure PublicSuffix where
  /-- how many labels it has -/
  labels : Nat
  /-- who runs it; `none` if no rule of the list names it -/
  authority : Option Authority
  deriving DecidableEq, Repr

/-- A list of public suffixes. A suffix has at least one label. -/
class SuffixList where
  /-- the public suffix of a host with these labels -/
  suffixOf : List Text → PublicSuffix
  labels_pos : ∀ labels, 0 < (suffixOf labels).labels

/-- The labels of a host. -/
def labelsOf (host : Text) : List Text := Text.pieces '.' host

/-- The host with these labels. -/
def ofLabels (labels : List Text) : Text := List.intercalate ['.'] labels

/-- The last `n` labels. -/
def lastLabels (n : Nat) (labels : List Text) : List Text := labels.drop (labels.length - n)

end ContentBlocker.Host
