import ContentBlocker.Text.Basic
/-!
# The host of an address

An address with a host is a scheme, `://`, an authority and the rest. The authority ends before the
first `/`, `?` or `#`; what follows its last `@` is the host, perhaps with a number behind a colon.
A host in square brackets keeps its colons. `locate?` splits the address around the host; nothing is
decoded, and the case of the host is kept.
-/

namespace ContentBlocker.Url

/-- The characters a scheme may hold. -/
def isSchemeChar (c : Char) : Bool := c.isAlphanum || c = '+' || c = '-' || c = '.'

/-- The characters that end an authority. -/
def endsAuthority (c : Char) : Bool := c = '/' || c = '?' || c = '#'

/-- The scheme and what follows `://`. -/
def splitScheme? (url : Text) : Option (Text × Text) :=
  match Text.splitFirst? ':' url with
  | some (scheme, '/' :: '/' :: rest) =>
    if scheme ≠ [] ∧ scheme.all isSchemeChar then some (scheme, rest) else none
  | _ => none

/-- The part of an authority up to and including its last `@`, and the part after it. -/
def splitUser (authority : Text) : Text × Text :=
  match Text.splitLast? '@' authority with
  | some (user, rest) => (user ++ ['@'], rest)
  | none => ([], authority)

/-- The host at the start of an authority without user information. A bracket that is not closed
makes the address unreadable. -/
def readHost? : Text → Option Text
  | '[' :: rest => (Text.splitFirst? ']' rest).map fun (inner, _) => '[' :: (inner ++ [']'])
  | authority => some (authority.takeWhile (· != ':'))

/-- A host in its address. -/
structure Location where
  /-- everything in front of the host -/
  before : Text
  host : Text
  deriving DecidableEq, Repr

/-- Finds the host of an address. -/
def locate? (url : Text) : Option Location := do
  let (scheme, rest) ← splitScheme? url
  let (user, hostAndPort) := splitUser (rest.takeWhile fun c => !endsAuthority c)
  let host ← readHost? hostAndPort
  return { before := scheme ++ "://" ++ user, host }

/-- The host of an address, if it has one. -/
def host? (url : Text) : Option Text := (locate? url).map Location.host

/-- The host of an address, empty if it has none. -/
def hostOrEmpty (url : Text) : Text := (host? url).getD []

/-- Where the text after `://` starts, in bytes. -/
def schemeEnd? (url : Text) : Option Nat :=
  (splitScheme? url).map fun (scheme, _) => scheme.byteLength + 3

/-- Where the host starts and ends, in bytes. -/
def hostPosition? (url : Text) : Option (Nat × Nat) :=
  (locate? url).map fun found =>
    (found.before.byteLength, found.before.byteLength + found.host.byteLength)

end ContentBlocker.Url
