import ContentBlocker.Text.Basic
/-!
# Content types

What kinds of resource a filter applies to, as a set of bits. The positions of the bits are part of
the index format.
-/

namespace ContentBlocker

/-- A set of kinds of resource. -/
structure ContentTypes where
  bits : UInt32
  deriving DecidableEq, Repr

namespace ContentTypes

/-- No kind at all. -/
def none : ContentTypes := ⟨0⟩

/-- The set of the kind with bit `n` alone. -/
def single (n : UInt32) : ContentTypes := ⟨1 <<< n⟩

/-- The kinds of either set. -/
def union (a b : ContentTypes) : ContentTypes := ⟨a.bits ||| b.bits⟩

/-- The kinds of `a` that are not in `b`. -/
def without (a b : ContentTypes) : ContentTypes := ⟨a.bits &&& ~~~b.bits⟩

/-- The kinds of both sets. -/
def inter (a b : ContentTypes) : ContentTypes := ⟨a.bits &&& b.bits⟩

/-- Whether two sets share a kind. -/
def meets (a b : ContentTypes) : Bool := a.inter b != none

/-- The kinds by the names that options give them. -/
def named : List (Text × ContentTypes) :=
  [("other", single 0), ("xbl", single 0), ("dtd", single 0), ("script", single 1),
    ("image", single 2), ("background", single 2), ("stylesheet", single 3), ("object", single 4),
    ("subdocument", single 5), ("websocket", single 7), ("webrtc", single 8), ("ping", single 10),
    ("xmlhttprequest", single 11), ("media", single 14), ("font", single 15)]

/-- The kind of a name. -/
def ofName? (name : Text) : Option ContentTypes := named.lookup name

/-- Every kind, which is what a filter applies to if its options name none. -/
def all : ContentTypes := (named.map Prod.snd).foldl union none

/-- The kinds among the given bits; bits of no kind are dropped. -/
def ofBits (bits : UInt32) : ContentTypes := inter ⟨bits⟩ all

end ContentTypes

end ContentBlocker
