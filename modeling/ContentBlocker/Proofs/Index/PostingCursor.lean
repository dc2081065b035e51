import ContentBlocker.Proofs.Index.GuardedTables
import ContentBlocker.Proofs.Index.Postings
/-!
# Posting lists read number by number

A word that was written in groups reads back wherever it stands, and takes as many bytes as were
written. A posting list reads back in the same way: its numbers come one by one as they were
written, in whatever order they are, and then no more.
-/

namespace ContentBlocker.Guarded

open Access Bytes

/-- At a position a word is read that takes `length` bytes, also by the loop over its groups. -/
structure ReadsWord (data : ByteArray) (start : Nat) (word : UInt32) (length : Nat) : Prop where
  decoded : Varint.decode (bytesFrom data start) = (word, bytesFrom data (start + length))
  looped : data.size < limit → decodeVarint data start 0 0 0 = .ok (word, length)

/-- At a position a posting list is read, also if its numbers are asked for one by one. -/
structure ReadsList (data : ByteArray) (start : Nat) (ids : List UInt32) : Prop where
  decoded : PostingList.decodeAt data start = ids
  asked : data.size < limit → ∃ list, Postings.startAt data start = .ok list ∧
    Postings.items.all list = .ok ids

theorem length_bytesFrom (data : ByteArray) (i : Nat) :
    (bytesFrom data i).length = data.size - i := by
  rw [bytesFrom, List.length_drop, length_toList]

/-- A position is known by what follows it. -/
theorem eq_of_bytesFrom_eq {data : ByteArray} {i j : Nat} (left : i ≤ data.size)
    (right : j ≤ data.size) (same : bytesFrom data i = bytesFrom data j) : i = j := by
  have lengths := congrArg List.length same
  rw [length_bytesFrom, length_bytesFrom] at lengths
  omega

theorem bytesFrom_of_standsAt {data : ByteArray} {i : Nat} {part : List UInt8}
    (stands : StandsAt data i part) :
    bytesFrom data i = part ++ bytesFrom data (i + part.length) := by
  obtain ⟨after, whole⟩ := stands.drop_eq
  rw [bytesFrom, bytesFrom, ← List.drop_drop, whole, List.drop_left]

theorem readsWord_of_standsAt {data : ByteArray} {start : Nat} {word : UInt32}
    (stands : StandsAt data start (Varint.encode word)) :
    ReadsWord data start word (Varint.encode word).length := by
  have decoded : Varint.decode (bytesFrom data start) =
      (word, bytesFrom data (start + (Varint.encode word).length)) := by
    rw [bytesFrom_of_standsAt stands, Varint.decode_encode]
  refine ⟨decoded, fun fits => ?_⟩
  obtain ⟨read, loops, inside, behind⟩ :=
    decodeVarint_first fits (Nat.le_of_add_right_le stands.end_le)
  rw [decoded] at loops behind
  have taken := eq_of_bytesFrom_eq inside stands.end_le behind
  rw [loops, Nat.add_left_cancel taken]

theorem readsList_of_standsAt {data : ByteArray} {start : Nat} {ids : List UInt32}
    (stands : StandsAt data start (PostingList.encode ids)) (fits : ids.length < 2 ^ 32) :
    ReadsList data start ids := by
  have decoded := PostingList.decodeAt_of_standsAt stands fits
  refine ⟨decoded, fun fits => ⟨_, Postings.startAt_eq fits start, ?_⟩⟩
  rw [Postings.all_opened fits, decoded]

/-- A word reads back with the number of its bytes, and the numbers behind their count read back and
end, whatever stands before and after them. -/
theorem reads_written (before after : List UInt8) :
    (∀ word, ReadsWord (before ++ Varint.encode word ++ after).toByteArray before.length word
        (Varint.encode word).length) ∧
      ∀ (count : UInt32) (ids : List UInt32), count.toNat = ids.length →
        ReadsList (before ++ (le32 count ++ PostingList.encodeIds 0 ids) ++ after).toByteArray
          before.length ids := by
  have stands (part : List UInt8) :
      StandsAt (before ++ part ++ after).toByteArray before.length part :=
    ⟨before, after, by rw [List.toList_data_toByteArray, List.append_assoc], rfl⟩
  constructor
  · exact fun word => readsWord_of_standsAt (stands _)
  · intro count ids counted
    have written : le32 count ++ PostingList.encodeIds 0 ids = PostingList.encode ids := by
      rw [PostingList.encode, ← counted, UInt32.ofNat_toNat]
    rw [written]
    exact readsList_of_standsAt (stands _) (counted ▸ count.toNat_lt)

/-- Numbers that fall, repeat and reach both ends of their type, between bytes that look like groups
of a word. The first difference below zero takes five groups. -/
theorem reads_written_falling :
    let ids : List UInt32 := [5, 0, 0xffffffff, 0xffffffff, 0]
    let written : List UInt8 := [5, 0xfb, 0xff, 0xff, 0xff, 0x0f, 0xff, 0xff, 0xff, 0xff, 0x0f, 0, 1]
    let data := ([0x80] ++ ([5, 0, 0, 0] ++ written) ++ [0x80]).toByteArray
    PostingList.encodeIds 0 ids = written ∧ ∃ list, Postings.startAt data 1 = .ok list ∧
      Postings.items.all list = .ok ids := by
  intro ids written data
  have encoded : PostingList.encodeIds 0 ids = written := by decide +kernel
  have reads := (reads_written [0x80] [0x80]).2 5 ids rfl
  rw [encoded] at reads
  exact ⟨encoded, reads.asked (by decide)⟩

end ContentBlocker.Guarded
