import ContentBlocker.Index.Section
import ContentBlocker.Text.Utf8
import Std.Data.TreeMap
/-!
# Pools

Texts and domain lists are stored once and shared. A pool holds the bytes stored so far and where
each text or list starts; storing something a second time yields the place of the first.
-/

namespace ContentBlocker

/-- A text in the string section, by position and length in bytes. -/
structure StringRef where
  start : UInt32
  length : UInt32
  deriving DecidableEq, Repr

namespace StringRef

/-- The empty text, which takes no room. -/
def empty : StringRef := ⟨0, 0⟩

/-- A reference in bytes. -/
def bytes (r : StringRef) : List UInt8 := Bytes.le32 r.start ++ Bytes.le32 r.length

/-- The reference at a position, if it lies in the array. -/
def read? (data : ByteArray) (i : Nat) : Option StringRef := do
  let start ← Bytes.u32At? data i
  let length ← Bytes.u32At? data (i + 4)
  return { start, length }

end StringRef

/-- Texts on their way to the string section. -/
structure StringPool where
  bytes : ByteArray
  /-- where each text starts -/
  starts : Std.TreeMap Text Nat

namespace StringPool

/-- A pool without texts. -/
def empty : StringPool := ⟨ByteArray.empty, ∅⟩

/-- A reference to a text, which is stored unless it is there already, and the pool with it. -/
def intern (pool : StringPool) (t : Text) : StringRef × StringPool :=
  if t = [] then (.empty, pool)
  else
    let encoded := t.encode
    let length := UInt32.ofNat encoded.size
    match pool.starts[t]? with
    | some start => (⟨UInt32.ofNat start, length⟩, pool)
    | none =>
      let start := pool.bytes.size
      (⟨UInt32.ofNat start, length⟩, ⟨pool.bytes ++ encoded, pool.starts.insert t start⟩)

/-- References to several texts in turn. -/
def internAll (pool : StringPool) : List Text → List StringRef × StringPool
  | [] => ([], pool)
  | t :: ts =>
    let (r, pool) := pool.intern t
    let (rs, pool) := pool.internAll ts
    (r :: rs, pool)

/-- The string section: the number of bytes, then the bytes. -/
def toBytes (pool : StringPool) : List UInt8 :=
  Bytes.le32 (UInt32.ofNat pool.bytes.size) ++ pool.bytes.data.toList

end StringPool

/-- Where a filter applies: domains it needs, domains it avoids, and keys of sites. -/
structure DomainLists where
  included : List Text
  excluded : List Text
  sitekeys : List Text
  deriving DecidableEq, Repr

namespace DomainLists

/-- No domain and no key. -/
def empty : DomainLists := ⟨[], [], []⟩

/-- The lists one after the other. -/
def all (lists : DomainLists) : List Text := lists.included ++ lists.excluded ++ lists.sitekeys

/-- Whether the filter is bound to no domain and no key; blank names do not bind it. -/
def isGeneric (lists : DomainLists) : Bool :=
  lists.sitekeys.isEmpty && lists.included.all List.isEmpty && lists.excluded.all List.isEmpty

end DomainLists

/-- Domain lists on their way to their section. -/
structure ListPool where
  bytes : ByteArray
  /-- where each triple of lists starts -/
  starts : Std.TreeMap (List (List Text)) Nat

namespace ListPool

/-- A pool without lists. -/
def empty : ListPool := ⟨ByteArray.empty, ∅⟩

/-- The place of domain lists, which are stored unless they are there already, and the pools with
them. Empty lists take no room. -/
def intern (pool : ListPool) (strings : StringPool) (lists : DomainLists) :
    UInt32 × ListPool × StringPool :=
  if lists = .empty then (Layout.noLists, pool, strings)
  else
    let key := [lists.included, lists.excluded, lists.sitekeys]
    match pool.starts[key]? with
    | some start => (UInt32.ofNat start, pool, strings)
    | none =>
      let start := pool.bytes.size
      let (refs, strings) := strings.internAll lists.all
      let block := key.flatMap (fun names => Bytes.le32 (UInt32.ofNat names.length)) ++
        refs.flatMap StringRef.bytes
      (UInt32.ofNat start, ⟨pool.bytes ++ block.toByteArray, pool.starts.insert key start⟩, strings)

end ListPool

end ContentBlocker
