import ContentBlocker.Text.Blank
import ContentBlocker.Text.Ordered
/-!
# Domains of a filter

A filter may name domains on which it applies and, each behind a `~`, domains on which it does not.
Both lists hold small letters, in order and without repetition.
-/

namespace ContentBlocker

/-- The domains on which a filter applies and those on which it does not. -/
structure DomainSet where
  included : List Text
  excluded : List Text
  deriving DecidableEq, Repr

namespace DomainSet

/-- No domain at all. -/
def empty : DomainSet := ⟨[], []⟩

/-- Whether neither list holds a domain. -/
def isEmpty (domains : DomainSet) : Bool := domains.included.isEmpty && domains.excluded.isEmpty

/-- A domain as it is compared: in small letters, without a last `*`, so that `example.*` stands for
`example` under any registry; without that, the dots and then the asterisks at the end are
dropped. -/
def normalize (domain : Text) : Text :=
  let name := domain.trim.lower
  match Text.dropLast? '*' name with
  | some rest => rest
  | none => Text.dropEndWhile (· = '*') (Text.dropEndWhile (· = '.') name)

/-- Whether an entry excludes, and the domain it names. -/
def readEntry (entry : Text) : Bool × Text :=
  match Text.dropFirst? '~' entry with
  | some domain => (true, normalize domain)
  | none => (false, normalize entry)

/-- The set that entries write; an entry that names no domain is passed over. -/
def ofEntries (entries : List Text) : DomainSet :=
  let read := (entries.map readEntry).filter fun (_, domain) => domain ≠ []
  { included := orderedSet ((read.filter fun (excludes, _) => !excludes).map Prod.snd)
    excluded := orderedSet ((read.filter fun (excludes, _) => excludes).map Prod.snd) }

/-- Whether a domain can hold documents: it has a dot or is the local host. -/
def isSite (domain : Text) : Bool := domain = ("localhost" : Text) || domain.contains '.'

/-- The domains that can hold documents. -/
def sites (domains : DomainSet) : DomainSet :=
  ⟨domains.included.filter isSite, domains.excluded.filter isSite⟩

end DomainSet

end ContentBlocker
