import ContentBlocker.Host.Domain
import ContentBlocker.Index.Pool
/-!
# Where a filter is active

A filter is not active on the domains it avoids, and otherwise on the domains it needs, or
everywhere if it needs none. A filter bound to keys of sites is active only for one of those keys.
-/

namespace ContentBlocker.DomainLists

variable [Host.SuffixList]

/-- Whether one of several names applies to a document's domain. -/
def anyMatches (names : List Text) (document : Text) : Except Host.Fault Bool :=
  names.anyM fun name => Host.domainMatches name document

/-- Whether the filter avoids a document's domain. -/
def isExcludedOn (lists : DomainLists) (document : Text) : Except Host.Fault Bool :=
  anyMatches lists.excluded document

/-- Whether the filter is active on a document's domain, all keys aside. -/
def isActiveOn (lists : DomainLists) (document : Text) : Except Host.Fault Bool :=
  if lists.isGeneric then .ok true
  else do
    if ← lists.isExcludedOn document then return false
    else
      match lists.included.filter (· ≠ []) with
      | [] => return true
      | names => anyMatches names document

/-- Whether the filter is active on a document's domain for a key in capitals. -/
def isActiveFor (lists : DomainLists) (document sitekey : Text) : Except Host.Fault Bool :=
  if lists.sitekeys ≠ [] ∧ !lists.sitekeys.contains sitekey then .ok false
  else lists.isActiveOn document

end ContentBlocker.DomainLists
