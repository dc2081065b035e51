import ContentBlocker.Index.Table
import ContentBlocker.Proofs.Bytes.Placement
import Mathlib.Data.List.ReduceOption
import Mathlib.Data.Nat.Find
/-!
# Keys of a lookup table are found

`Table.Holds slots keys` is the invariant of open addressing: the occupied slots are the keys, and
each key is reached from the slot that its hash names by passing only occupied ones. An insertion
into a table with room preserves it, and a table of the capacity that is chosen for its keys always
has room. A search then finds exactly what searching the list of keys finds.
-/

namespace ContentBlocker.Table

section Search

variable {α : Type} {capacity : Nat} {visit : Nat → Option α}

theorem probe_eq_some {left i : Nat} {a : α} (start : i < capacity) :
    probe capacity visit left i = some a ↔
      ∃ d < left, visit ((i + d) % capacity) = some a ∧
        ∀ e < d, visit ((i + e) % capacity) = none := by
  induction left generalizing i with
  | zero => simp [probe]
  | succ left ih =>
    have here : (i + 0) % capacity = i := Nat.mod_eq_of_lt start
    have next : ∀ d, ((i + 1) % capacity + d) % capacity = (i + (d + 1)) % capacity := by
      intro d
      rw [Nat.mod_add_mod, Nat.add_assoc, Nat.add_comm 1]
    rw [probe]
    cases visited : visit i with
    | some b =>
      constructor
      · intro same
        exact ⟨0, Nat.succ_pos _, by rwa [here, visited], fun _ impossible => by omega⟩
      · rintro ⟨d, -, found, passed⟩
        cases d with
        | zero => rwa [here, visited] at found
        | succ d =>
          have first := passed 0 (Nat.succ_pos _)
          rw [here, visited] at first
          cases first
    | none =>
      dsimp only
      rw [ih (Nat.mod_lt _ (by omega))]
      simp only [next]
      constructor
      · rintro ⟨d, bound, found, passed⟩
        refine ⟨d + 1, by omega, found, fun e before => ?_⟩
        cases e with
        | zero => rwa [here]
        | succ e => exact passed e (by omega)
      · rintro ⟨d, bound, found, passed⟩
        cases d with
        | zero =>
          rw [here, visited] at found
          cases found
        | succ d => exact ⟨d, by omega, found, fun e before => passed (e + 1) (by omega)⟩

theorem search_eq_some {hash : UInt32} {a : α} (positive : 0 < capacity) :
    search capacity hash visit = some a ↔
      ∃ d < capacity, visit ((hash.toNat + d) % capacity) = some a ∧
        ∀ e < d, visit ((hash.toNat + e) % capacity) = none := by
  rw [search, probe_eq_some (Nat.mod_lt _ positive)]
  simp only [Nat.mod_add_mod]

/-- Every slot is visited in a search that nothing ends. -/
theorem exists_distance (hash : UInt32) {i : Nat} (inside : i < capacity) :
    ∃ d < capacity, (hash.toNat + d) % capacity = i := by
  have start : hash.toNat % capacity < capacity := Nat.mod_lt _ (by omega)
  refine ⟨(i + (capacity - hash.toNat % capacity)) % capacity, Nat.mod_lt _ (by omega), ?_⟩
  rw [Nat.add_mod_mod, ← Nat.mod_add_mod, show hash.toNat % capacity +
    (i + (capacity - hash.toNat % capacity)) = i + capacity by omega, Nat.add_mod_right,
    Nat.mod_eq_of_lt inside]

theorem search_isSome (visit : Nat → Option α) (hash : UInt32) {i : Nat} (inside : i < capacity)
    (answers : (visit i).isSome) : (search capacity hash visit).isSome := by
  have least : ∃ d, (visit ((hash.toNat + d) % capacity)).isSome := by
    obtain ⟨d, -, place⟩ := exists_distance hash inside
    exact ⟨d, place.symm ▸ answers⟩
  obtain ⟨d, bound, place⟩ := exists_distance hash inside
  obtain ⟨a, found⟩ := Option.isSome_iff_exists.1 (Nat.find_spec least)
  refine Option.isSome_iff_exists.2
    ⟨a, (search_eq_some (by omega)).2 ⟨Nat.find least, ?_, found, ?_⟩⟩
  · exact Nat.lt_of_le_of_lt (Nat.find_min' least (place.symm ▸ answers)) bound
  · intro e before
    exact Option.not_isSome_iff_eq_none.1 (Nat.find_min least before)

theorem search_congr {visit' : Nat → Option α} {hash : UInt32}
    (same : ∀ i < capacity, visit i = visit' i) :
    search capacity hash visit = search capacity hash visit' := by
  rcases Nat.eq_zero_or_pos capacity with rfl | positive
  · rfl
  apply Option.ext
  intro a
  rw [search_eq_some positive, search_eq_some positive]
  simp only [same _ (Nat.mod_lt _ positive)]

end Search

section Capacity

theorem powerFrom_spec (start n : Nat) (positive : 0 < start) :
    start ≤ powerFrom start n ∧ n ≤ powerFrom start n ∧ ∃ k, powerFrom start n = start * 2 ^ k := by
  induction start using powerFrom.induct (n := n) with
  | case1 start reached =>
    rw [powerFrom, if_pos reached]
    exact ⟨Nat.le_refl _, by omega, 0, (Nat.mul_one _).symm⟩
  | case2 start small ih =>
    obtain ⟨least, enough, k, power⟩ := ih (by omega)
    rw [powerFrom, if_neg small]
    refine ⟨by omega, enough, k + 1, ?_⟩
    rw [power, Nat.pow_succ]
    ac_rfl

theorem capacity_eq_two_pow (count : Nat) : ∃ k, capacity count = 2 ^ (k + 1) := by
  obtain ⟨-, -, k, power⟩ := powerFrom_spec 2 ((10 * count + 6) / 7) (by decide)
  exact ⟨k, by rw [capacity, power, Nat.pow_succ, Nat.mul_comm]⟩

/-- At least three slots in ten stay free. -/
theorem ten_mul_le_capacity (count : Nat) : 10 * count ≤ 7 * capacity count := by
  obtain ⟨-, enough, -⟩ := powerFrom_spec 2 ((10 * count + 6) / 7) (by decide)
  rw [← capacity] at enough
  omega

theorem lt_capacity (count : Nat) : count < capacity count := by
  obtain ⟨least, -, -⟩ := powerFrom_spec 2 ((10 * count + 6) / 7) (by decide)
  rw [← capacity] at least
  have := ten_mul_le_capacity count
  omega

end Capacity

/-- The slot with number `i` is occupied. -/
def Occupied (slots : Array (Option Slot)) (i : Nat) : Prop := ∃ slot, slots[i]? = some (some slot)

/-- The occupied slots are the keys, and the search for each key passes only occupied slots before
it comes to it. -/
structure Holds (slots : Array (Option Slot)) (keys : List Slot) : Prop where
  members : slots.toList.reduceOption.Perm keys
  reached : ∀ i slot, slots[i]? = some (some slot) →
    ∃ d < slots.size, (slot.hash.toNat + d) % slots.size = i ∧
      ∀ e < d, Occupied slots ((slot.hash.toNat + e) % slots.size)

namespace Holds

variable {slots : Array (Option Slot)} {keys : List Slot}

theorem replicate (n : Nat) : Holds (Array.replicate n none) [] where
  members := by simp [List.reduceOption]
  reached := by
    intro i slot there
    simp [Array.getElem?_replicate] at there

theorem mem_iff (h : Holds slots keys) {slot : Slot} :
    slot ∈ keys ↔ ∃ i : Nat, slots[i]? = some (some slot) := by
  rw [← h.members.mem_iff, List.reduceOption_mem_iff, List.mem_iff_getElem?]
  simp only [Array.getElem?_toList]

/-- A table with more slots than keys has a free one. -/
theorem exists_free (h : Holds slots keys) (room : keys.length < slots.size) :
    ∃ i < slots.size, slots[i]? = some none := by
  rw [← h.members.length_eq, ← Array.length_toList, List.reduceOption_length_lt_iff] at room
  obtain ⟨i, bound, free⟩ := List.mem_iff_getElem.1 room
  rw [Array.length_toList] at bound
  exact ⟨i, bound, by rw [← Array.getElem?_toList, List.getElem?_eq_getElem (by simpa), free]⟩

/-- An insertion takes a free slot, to which the search for the key leads. -/
theorem insert_eq (h : Holds slots keys) (slot : Slot) (room : keys.length < slots.size) :
    ∃ d < slots.size, Table.insert slots slot =
        slots.setIfInBounds ((slot.hash.toNat + d) % slots.size) (some slot) ∧
      slots[(slot.hash.toNat + d) % slots.size]? = some none ∧
      ∀ e < d, Occupied slots ((slot.hash.toNat + e) % slots.size) := by
  obtain ⟨i, bound, free⟩ := h.exists_free room
  let visit := fun i : Nat => if slots[i]? = some none then some i else none
  obtain ⟨a, found⟩ := Option.isSome_iff_exists.1
    (search_isSome visit slot.hash bound (by simp [visit, free]))
  obtain ⟨d, inside, taken, passed⟩ := (search_eq_some (by omega)).1 found
  have isFree : slots[(slot.hash.toNat + d) % slots.size]? = some none := by
    by_contra other
    simp only [visit, if_neg other] at taken
    cases taken
  simp only [visit, if_pos isFree, Option.some.injEq] at taken
  refine ⟨d, inside, ?_, isFree, fun e before => ?_⟩
  · rw [Table.insert, show search slots.size slot.hash _ = some a from found, taken]
  · have place : (slot.hash.toNat + e) % slots.size < slots.size := Nat.mod_lt _ (by omega)
    have there := Array.getElem?_eq_getElem place
    have notFree := passed e before
    cases content : slots[(slot.hash.toNat + e) % slots.size] with
    | none => simp [visit, there, content] at notFree
    | some other => exact ⟨other, by rw [there, content]⟩

theorem reduceOption_set {slots : List (Option Slot)} {i : Nat} (free : slots[i]? = some none)
    (slot : Slot) :
    (slots.set i (some slot)).reduceOption.Perm (slot :: slots.reduceOption) := by
  obtain ⟨bound, free⟩ := List.getElem?_eq_some_iff.1 free
  obtain ⟨before, after, whole, -, changed⟩ := @List.exists_of_set _ _ (some slot) _ bound
  rw [changed, whole, free, List.reduceOption_append, List.reduceOption_append,
    List.reduceOption_cons_of_some, List.reduceOption_cons_of_none]
  exact List.perm_middle

theorem insert (h : Holds slots keys) (slot : Slot) (room : keys.length < slots.size) :
    Holds (Table.insert slots slot) (slot :: keys) := by
  obtain ⟨d, inside, inserted, free, passed⟩ := h.insert_eq slot room
  have kept : ∀ i, Occupied slots i →
      Occupied (slots.setIfInBounds ((slot.hash.toNat + d) % slots.size) (some slot)) i := by
    rintro i ⟨other, there⟩
    rw [Occupied, Array.getElem?_setIfInBounds_ne]
    · exact ⟨other, there⟩
    · rintro rfl
      rw [free] at there
      cases there
  rw [inserted]
  refine ⟨?_, fun i other there => ?_⟩
  · rw [Array.toList_setIfInBounds]
    exact (reduceOption_set (by rwa [Array.getElem?_toList]) slot).trans (h.members.cons slot)
  · rw [Array.size_setIfInBounds]
    rw [Array.getElem?_setIfInBounds] at there
    split at there
    · rename_i same
      split at there
      · cases there
        exact ⟨d, inside, same, fun e before => kept _ (passed e before)⟩
      · cases there
    · obtain ⟨d', inside', place, passed'⟩ := h.reached i other there
      exact ⟨d', inside', place, fun e before => kept _ (passed' e before)⟩

theorem perm {keys' : List Slot} (h : Holds slots keys) (same : keys.Perm keys') :
    Holds slots keys' := ⟨h.members.trans same, h.reached⟩

end Holds

theorem size_insert (slots : Array (Option Slot)) (slot : Slot) :
    (insert slots slot).size = slots.size := by
  unfold insert
  split
  · rw [Array.size_setIfInBounds]
  · rfl

theorem size_foldl_insert (slots : Array (Option Slot)) (keys : List Slot) :
    (keys.foldl insert slots).size = slots.size := by
  induction keys generalizing slots with
  | nil => rfl
  | cons slot rest ih => rw [List.foldl_cons, ih, size_insert]

theorem size_ofKeys (keys : List Slot) : (ofKeys keys).size = capacity keys.length := by
  rw [ofKeys, size_foldl_insert, Array.size_replicate]

/-- A table for several keys holds all of them. -/
theorem holds_ofKeys (keys : List Slot) : Holds (ofKeys keys) keys := by
  have step : ∀ (rest taken : List Slot) (slots : Array (Option Slot)), Holds slots taken →
      taken.length + rest.length < slots.size →
        Holds (rest.foldl insert slots) (taken ++ rest) := by
    intro rest
    induction rest with
    | nil =>
      intro taken slots h _
      rwa [List.append_nil]
    | cons slot rest ih =>
      intro taken slots h room
      rw [List.length_cons] at room
      have one := (h.insert slot (by omega)).perm (List.perm_append_singleton slot taken).symm
      have all := ih _ _ one (by
        rw [size_insert, List.length_append, List.length_singleton]
        omega)
      rwa [List.append_assoc, List.singleton_append] at all
  refine step keys [] _ (.replicate _) ?_
  rw [List.length_nil, Nat.zero_add, Array.size_replicate]
  exact lt_capacity _

/-- What a search makes of a slot: it ends at a free slot and at the slot of the key. -/
def visitSlot (isKey : Slot → Bool) : Option Slot → Option (Option Slot)
  | none => some none
  | some slot => if isKey slot then some (some slot) else none

theorem visitSlot_eq_some {isKey : Slot → Bool} {slots : Array (Option Slot)} {i : Nat}
    {slot : Slot} : visitSlot isKey slots[i]?.join = some (some slot) ↔
      slots[i]? = some (some slot) ∧ isKey slot := by
  cases there : slots[i]?.join with
  | none =>
    refine iff_of_false nofun fun h => ?_
    rw [Option.join_eq_some_iff.2 h.1] at there
    cases there
  | some other =>
    have same : slots[i]? = some (some slot) ↔ some other = some slot := by
      rw [← there]
      exact Option.join_eq_some_iff.symm
    rw [visitSlot, same]
    cases isOther : isKey other with
    | true =>
      constructor
      · rintro ⟨⟩
        exact ⟨rfl, isOther⟩
      · rintro ⟨⟨⟩, -⟩
        rfl
    | false =>
      refine iff_of_false nofun ?_
      rintro ⟨⟨⟩, isSlot⟩
      exact Bool.false_ne_true (isOther.symm.trans isSlot)

/-- A search for a key that the table holds ends at its slot. -/
theorem Holds.search_of_mem {slots : Array (Option Slot)} {keys : List Slot}
    (h : Holds slots keys) {hash : UInt32} {isKey : Slot → Bool} {slot : Slot}
    (member : slot ∈ keys) (isSlot : isKey slot) (hashed : slot.hash = hash)
    (unique : ∀ other ∈ keys, isKey other → other = slot) :
    (search slots.size hash fun i => visitSlot isKey slots[i]?.join).join = some slot := by
  let visit : Nat → Option (Option Slot) := fun i => visitSlot isKey slots[i]?.join
  obtain ⟨i, there⟩ := h.mem_iff.1 member
  obtain ⟨d, inside, place, passed⟩ := h.reached i slot there
  rw [hashed] at place passed
  have answers : (visit i).isSome := by
    rw [show visit i = some (some slot) from visitSlot_eq_some.2 ⟨there, isSlot⟩]
    rfl
  have bound := (Array.getElem?_eq_some_iff.1 there).1
  have positive : 0 < slots.size := Nat.zero_lt_of_lt bound
  obtain ⟨a, ends⟩ := Option.isSome_iff_exists.1 (search_isSome visit hash bound answers)
  obtain ⟨d', inside', stops, before⟩ := (search_eq_some positive).1 ends
  have early : d' ≤ d := by
    by_contra late
    have silent := before d (by omega)
    rw [place] at silent
    rw [silent] at answers
    cases answers
  -- no slot on the way is empty, so what ends the search is the slot of a key
  have occupied : Occupied slots ((hash.toNat + d') % slots.size) := by
    rcases Nat.lt_or_eq_of_le early with sooner | rfl
    · exact passed d' sooner
    · exact ⟨slot, place.symm ▸ there⟩
  obtain ⟨other, holds⟩ := occupied
  have isOther : visit ((hash.toNat + d') % slots.size) = some (some other) := by
    simp only [visit, visitSlot, holds, Option.join_some] at stops ⊢
    split at stops
    · rename_i isOther
      rw [if_pos isOther]
    · cases stops
  have same := unique other (h.mem_iff.2 ⟨_, holds⟩) (visitSlot_eq_some.1 isOther).2
  show (search slots.size hash visit).join = _
  rw [ends, ← stops, isOther, same]
  rfl

/-- A search among the slots of a table for a key finds what a search among the keys finds. -/
theorem Holds.search_eq_find? {slots : Array (Option Slot)} {keys : List Slot}
    (h : Holds slots keys) (hash : UInt32) (isKey : Slot → Bool)
    (hashes : ∀ slot ∈ keys, isKey slot → slot.hash = hash)
    (unique : ∀ a ∈ keys, ∀ b ∈ keys, isKey a → isKey b → a = b) :
    (search slots.size hash fun i => visitSlot isKey slots[i]?.join).join = keys.find? isKey := by
  rcases Nat.eq_zero_or_pos slots.size with none | positive
  · have noKeys : keys = [] := by
      rw [Array.eq_empty_of_size_eq_zero none] at h
      exact h.members.nil_eq.symm
    rw [noKeys, none]
    rfl
  cases found : keys.find? isKey with
  | none =>
    -- whatever ends the search is no occupied slot, since no key is the one looked for
    rw [List.find?_eq_none] at found
    apply Option.eq_none_iff_forall_ne_some.2
    intro slot ends
    obtain ⟨d, -, stops, -⟩ := (search_eq_some positive).1 (Option.join_eq_some_iff.1 ends)
    obtain ⟨there, isSlot⟩ := visitSlot_eq_some.1 stops
    exact found slot (h.mem_iff.2 ⟨_, there⟩) isSlot
  | some slot =>
    have isSlot := List.find?_some found
    have member := List.mem_of_find?_eq_some found
    exact h.search_of_mem member isSlot (hashes slot member isSlot)
      fun other there isOther => unique other there slot member isOther isSlot

/-- The occupied slots in the order of their places. -/
theorem filterMap_range_slots (slots : Array (Option Slot)) :
    (List.range slots.size).filterMap (fun i => slots[i]?.join) = slots.toList.reduceOption := by
  have all := congrArg List.reduceOption (Bytes.filterMap_getElem?_range slots.toList)
  rw [List.reduceOption, List.filterMap_filterMap, Array.length_toList] at all
  simp only [Array.getElem?_toList, Option.bind_id_eq_join] at all
  exact all

end ContentBlocker.Table
