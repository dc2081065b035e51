import ContentBlocker.Filter.Basic
import ContentBlocker.Index.Pool
/-!
# Records

Filters of each kind are stored as records of one size, which refer to texts, domain lists, calls
and arguments by place. Each record is written to bytes and read back from them.
-/

namespace ContentBlocker

/-- A stored filter on addresses. -/
structure UrlRecord where
  pattern : StringRef
  contentTypes : UInt32
  /-- bit 0 is set if case counts -/
  flags : UInt8
  party : UInt8
  substitute : UInt8
  /-- the policy or the header condition of the filter -/
  payload : StringRef
  lists : UInt32
  deriving DecidableEq, Repr

namespace UrlRecord

/-- A record in bytes. -/
def bytes (r : UrlRecord) : List UInt8 :=
  r.pattern.bytes ++ Bytes.le32 r.contentTypes ++ [r.flags, r.party, r.substitute, 0] ++
    r.payload.bytes ++ Bytes.le32 r.lists ++ [0, 0, 0, 0]

/-- The record at a position, if it lies in the array. -/
def read? (data : ByteArray) (i : Nat) : Option UrlRecord := do
  let pattern ← StringRef.read? data i
  let contentTypes ← Bytes.u32At? data (i + 8)
  let flags ← data[i + 12]?
  let party ← data[i + 13]?
  let substitute ← data[i + 14]?
  let payload ← StringRef.read? data (i + 16)
  let lists ← Bytes.u32At? data (i + 24)
  return { pattern, contentTypes, flags, party, substitute, payload, lists }

end UrlRecord

/-- A stored filter on elements. -/
structure ContentRecord where
  selector : StringRef
  lists : UInt32
  css : StringRef
  deriving DecidableEq, Repr

namespace ContentRecord

/-- A record in bytes. -/
def bytes (r : ContentRecord) : List UInt8 := r.selector.bytes ++ Bytes.le32 r.lists ++ r.css.bytes

/-- The record at a position, if it lies in the array. -/
def read? (data : ByteArray) (i : Nat) : Option ContentRecord := do
  let selector ← StringRef.read? data i
  let lists ← Bytes.u32At? data (i + 8)
  let css ← StringRef.read? data (i + 12)
  return { selector, lists, css }

end ContentRecord

/-- A stored filter that runs calls. -/
structure SnippetRecord where
  lists : UInt32
  firstCall : UInt32
  callCount : UInt32
  deriving DecidableEq, Repr

namespace SnippetRecord

/-- A record in bytes. -/
def bytes (r : SnippetRecord) : List UInt8 :=
  Bytes.le32 r.lists ++ Bytes.le32 r.firstCall ++ Bytes.le32 r.callCount

/-- The record at a position, if it lies in the array. -/
def read? (data : ByteArray) (i : Nat) : Option SnippetRecord := do
  let lists ← Bytes.u32At? data i
  let firstCall ← Bytes.u32At? data (i + 4)
  let callCount ← Bytes.u32At? data (i + 8)
  return { lists, firstCall, callCount }

end SnippetRecord

/-- A stored call. -/
structure CallRecord where
  command : StringRef
  firstArgument : UInt32
  argumentCount : UInt32
  deriving DecidableEq, Repr

namespace CallRecord

/-- A record in bytes. -/
def bytes (r : CallRecord) : List UInt8 :=
  r.command.bytes ++ Bytes.le32 r.firstArgument ++ Bytes.le32 r.argumentCount

/-- The record at a position, if it lies in the array. -/
def read? (data : ByteArray) (i : Nat) : Option CallRecord := do
  let command ← StringRef.read? data i
  let firstArgument ← Bytes.u32At? data (i + 8)
  let argumentCount ← Bytes.u32At? data (i + 12)
  return { command, firstArgument, argumentCount }

end CallRecord

end ContentBlocker
