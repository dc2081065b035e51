import ContentBlocker.Host.Address
import ContentBlocker.Host.PublicSuffix
import ContentBlocker.Url
/-!
# Sites and domains

The registry of a host is its longest suffix run by a registry, and its site is one label more than
its public suffix. A filter names a domain or, with a dot at the end, a domain under any registry.

What registries there are depends on a list of public suffixes. What is said `under` a list takes it
as a function from the labels of a host to its public suffix; the rest is said of the list in use.
-/

namespace ContentBlocker.Host

/-- A host without dots at its end. -/
def withoutEndDots (host : Text) : Text := Text.dropEndWhile (· = '.') host

/-- The longest run of last labels that is itself a suffix run by a registry. -/
def registryLabelsUnder? (suffixOf : List Text → PublicSuffix) : List Text → Option (List Text)
  | [] => none
  | label :: rest =>
    let labels := label :: rest
    if suffixOf labels = ⟨labels.length, some .icann⟩ then some labels
    else registryLabelsUnder? suffixOf rest

/-- The registry under which a host is named. A host under a suffix that no rule names has none, and
neither has a numeric address. Dots at the end do not count. -/
def registryUnder? (suffixOf : List Text → PublicSuffix) (host : Text) : Option Text :=
  let host := withoutEndDots host
  if host = [] ∨ isNumericAddress host then none
  else
    let labels := labelsOf host
    match suffixOf labels with
    | ⟨_, none⟩ => none
    | ⟨n, some .icann⟩ => some (ofLabels (lastLabels n labels))
    | ⟨n, some .privateOwner⟩ =>
      (registryLabelsUnder? suffixOf (lastLabels (n - 1) labels)).map ofLabels

/-- The registry of a host under the list in use. -/
def registry? [SuffixList] (host : Text) : Option Text := registryUnder? SuffixList.suffixOf host

/-- The site of a host: its public suffix, known or not, with one label more. A host without such a
label, and a numeric address, is its own site. -/
def site [SuffixList] (host : Text) : Text :=
  let host := withoutEndDots host
  if host = [] ∨ isNumericAddress host then host
  else
    let labels := labelsOf host
    ofLabels (lastLabels ((SuffixList.suffixOf labels).labels + 1) labels)

/-- Whether `document` is `domain` or lies below it, whatever the case of ASCII letters. -/
def isAtOrBelow (domain document : Text) : Bool :=
  Text.sameIgnoringCase domain document || Text.endsIgnoringCase ('.' :: domain) document

/-- The way a comparison of domains can break off: the bytes of the registry, counted from the end
of the document's name, start inside a character. -/
inductive Fault where
  | cutInsideCharacter
  deriving DecidableEq, Repr

/-- Whether a filter for `domain` applies to `document`. With a dot at its end `domain` stands for
any registry: as many bytes as the document's registry has are first cut from the end of the
document's name, which must be longer. -/
def domainMatchesUnder (suffixOf : List Text → PublicSuffix) (domain document : Text) :
    Except Fault Bool :=
  if domain.getLast? = some '.' then
    match registryUnder? suffixOf document with
    | none => .ok false
    | some registry =>
      if registry.byteLength < document.byteLength then
        match document.dropBytesEnd? registry.byteLength with
        | some stem => .ok (isAtOrBelow domain stem)
        | none => .error .cutInsideCharacter
      else .ok false
  else .ok (isAtOrBelow domain document)

/-- Whether a filter for `domain` applies to `document` under the list in use. -/
def domainMatches [SuffixList] (domain document : Text) : Except Fault Bool :=
  domainMatchesUnder SuffixList.suffixOf domain document

/-- Whether a request for `url` from a document on `document` leaves the document's site. Without a
host or a document it counts as leaving. -/
def isThirdParty [SuffixList] (url document : Text) : Bool :=
  match Url.host? url with
  | none => true
  | some host => document = [] || site host.lower != site document.lower

end ContentBlocker.Host
