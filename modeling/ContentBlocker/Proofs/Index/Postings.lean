import ContentBlocker.Index.Postings
import ContentBlocker.Proofs.Bytes.Placement
/-!
# Posting lists read back

Five groups of seven bits are enough for every word, so a difference reads back as it was written,
whatever follows it. The numbers of a posting list read back because the differences, taken and
added modulo `2 ^ 32`, cancel in whatever order the numbers come.
-/

namespace ContentBlocker

open Bytes

namespace Varint

theorem last_group {k : Nat} (h : k < 128) :
    UInt8.ofNat k &&& 0x80 = 0 ∧ (UInt8.ofNat k &&& 0x7f).toUInt32 = UInt32.ofNat k := by
  have all : ∀ k : Fin 128, UInt8.ofNat k &&& 0x80 = 0 ∧
      (UInt8.ofNat k &&& 0x7f).toUInt32 = UInt32.ofNat k := by
    decide
  exact all ⟨k, h⟩

theorem marked_group {k : Nat} (h : k < 128) :
    UInt8.ofNat (k + 128) &&& 0x80 ≠ 0 ∧
      (UInt8.ofNat (k + 128) &&& 0x7f).toUInt32 = UInt32.ofNat k := by
  have all : ∀ k : Fin 128, UInt8.ofNat (k + 128) &&& 0x80 ≠ 0 ∧
      (UInt8.ofNat (k + 128) &&& 0x7f).toUInt32 = UInt32.ofNat k := by
    decide
  exact all ⟨k, h⟩

/-- The lowest group and the number that the others write. -/
theorem or_shiftLeft_groups {n : Nat} (h : n < 2 ^ 32) :
    UInt32.ofNat (n % 128) ||| UInt32.ofNat (n / 128) <<< 7 = UInt32.ofNat n := by
  apply UInt32.toNat_inj.1
  have low : n % 128 < 2 ^ 7 := Nat.mod_lt _ (by decide)
  have lowValue : (UInt32.ofNat (n % 128)).toNat = n % 128 := toNat_ofNat_of_lt (by omega)
  have highValue : (UInt32.ofNat (n / 128)).toNat = n / 128 := toNat_ofNat_of_lt (by omega)
  have shifted : (n / 128) <<< 7 % 2 ^ 32 = (n / 128) <<< 7 := by
    rw [Nat.shiftLeft_eq]
    omega
  rw [UInt32.toNat_or, UInt32.toNat_shiftLeft, lowValue, highValue, toNat_ofNat_of_lt h,
    show UInt32.toNat 7 % 32 = 7 from rfl, shifted, Nat.or_comm,
    ← Nat.shiftLeft_add_eq_or_of_lt low, Nat.shiftLeft_eq]
  omega

/-- The groups of a number read back as the number, and leave what follows them. -/
theorem decodeGroups_encodeNat (groups n : Nat) (rest : List UInt8) (fits : n < 2 ^ 32)
    (enough : n < 128 ^ (groups + 1)) :
    decodeGroups (groups + 1) (encodeNat n ++ rest) = (UInt32.ofNat n, rest) := by
  induction groups generalizing n with
  | zero =>
    have small : n < 128 := enough
    obtain ⟨last, low⟩ := last_group small
    rw [encodeNat, if_pos small, List.singleton_append, decodeGroups, if_pos last, low]
  | succ groups ih =>
    rw [encodeNat]
    split
    · rename_i small
      obtain ⟨last, low⟩ := last_group small
      rw [List.singleton_append, decodeGroups, if_pos last, low]
    · obtain ⟨marked, low⟩ := marked_group (Nat.mod_lt n (by decide : 0 < 128))
      have high := ih (n / 128) (by omega) (by
        rw [Nat.pow_succ] at enough
        exact Nat.div_lt_of_lt_mul (by omega))
      rw [List.cons_append, decodeGroups, if_neg marked, low, high]
      dsimp only
      rw [or_shiftLeft_groups fits]

/-- A word reads back from its groups. -/
theorem decode_encode (n : UInt32) (rest : List UInt8) : decode (encode n ++ rest) = (n, rest) := by
  have fits := n.toNat_lt
  rw [decode, encode, decodeGroups_encodeNat 4 _ _ fits (by omega), UInt32.ofNat_toNat]

theorem encode_ne_nil (n : UInt32) : encode n ≠ [] := by
  rw [encode, encodeNat]
  split <;> exact List.cons_ne_nil _ _

end Varint

namespace PostingList

/-- Numbers read back from their differences. -/
theorem decodeIds_encodeIds (previous : UInt32) (ids : List UInt32) (rest : List UInt8) :
    decodeIds previous ids.length (encodeIds previous ids ++ rest) = ids := by
  induction ids generalizing previous with
  | nil => rfl
  | cons id ids ih =>
    obtain ⟨byte, more, encoded⟩ :=
      List.exists_cons_of_ne_nil (Varint.encode_ne_nil (id - previous))
    have first := Varint.decode_encode (id - previous) (encodeIds id ids ++ rest)
    have sum : previous + (id - previous) = id := by rw [UInt32.add_comm, UInt32.sub_add_cancel]
    rw [encoded, List.cons_append] at first
    rw [encodeIds, List.append_assoc, encoded, List.cons_append, List.length_cons, decodeIds, first]
    dsimp only
    rw [sum, ih]

/-- A posting list reads back where it stands. -/
theorem decodeAt_of_standsAt {data : ByteArray} {start : Nat} {ids : List UInt32}
    (stands : StandsAt data start (encode ids)) (fits : ids.length < 2 ^ 32) :
    decodeAt data start = ids := by
  rw [encode] at stands
  obtain ⟨rest, behind⟩ := (stands.right_of_length (length_le32 _)).drop_eq
  have following := (toList_extract_size data (start + 4)).trans behind
  rw [decodeAt, u32At?_of_standsAt stands.left]
  dsimp only
  rw [toNat_ofNat_of_lt fits, following, decodeIds_encodeIds]

/-- A posting list has a byte for every number at least. -/
theorem length_le_length_encode (ids : List UInt32) : ids.length ≤ (encode ids).length := by
  have groups : ∀ previous, ids.length ≤ (encodeIds previous ids).length := by
    induction ids with
    | nil => intro previous; exact Nat.zero_le _
    | cons id ids ih =>
      intro previous
      have one := List.length_pos_iff.2 (Varint.encode_ne_nil (id - previous))
      have others := ih id
      rw [encodeIds, List.length_append, List.length_cons]
      omega
  have := groups 0
  rw [encode, List.length_append]
  omega

end PostingList

end ContentBlocker
