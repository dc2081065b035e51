import ContentBlocker.Index.Builder
import ContentBlocker.Index.View
import ContentBlocker.Proofs.Bytes.Placement
import Mathlib.Data.List.Forall2
/-!
# Texts and domain lists in their pools

A reference that a pool has handed out leads to its text in that pool and in every later one, since
pools only grow. Positions are kept modulo `2 ^ 32`; where the grown pool is smaller than that,
reading through the reference gives the text back. The same holds of the places of domain lists.
-/

namespace ContentBlocker

open Bytes

/-- The reference leads to `t` in `texts`. -/
def StringRef.LeadsTo (texts : ByteArray) (r : StringRef) (t : Text) : Prop :=
  ∃ start, r = ⟨UInt32.ofNat start, UInt32.ofNat t.encode.size⟩ ∧
    StandsAt texts start t.encode.data.toList

namespace StringRef

theorem length_bytes (r : StringRef) : r.bytes.length = Layout.stringRefSize := rfl

theorem read?_of_standsAt {data : ByteArray} {i : Nat} {r : StringRef}
    (h : StandsAt data i r.bytes) : read? data i = some r := by
  have first := u32At?_of_standsAt h.left
  have second := u32At?_of_standsAt (h.right_of_length (length_le32 _))
  simp only [read?, first, second]
  rfl

namespace LeadsTo

theorem empty (texts : ByteArray) : LeadsTo texts .empty [] :=
  ⟨0, rfl, [], texts.data.toList, rfl, rfl⟩

theorem mono {texts whole : ByteArray} {r : StringRef} {t : Text} (h : LeadsTo texts r t)
    (more : Extends whole texts) : LeadsTo whole r t := by
  obtain ⟨start, eq, stands⟩ := h
  exact ⟨start, eq, stands.mono more⟩

theorem resolve {texts : ByteArray} {r : StringRef} {t : Text} (h : LeadsTo texts r t)
    (fits : texts.size < 2 ^ 32) : Snapshot.resolve texts r = t := by
  obtain ⟨start, rfl, stands⟩ := h
  have bound := stands.end_le
  rw [length_toList] at bound
  have startValue : (UInt32.ofNat start).toNat = start := toNat_ofNat_of_lt (by omega)
  have lengthValue : (UInt32.ofNat t.encode.size).toNat = t.encode.data.toList.length := by
    rw [toNat_ofNat_of_lt (by omega), length_toList]
  simp only [Snapshot.resolve, startValue, lengthValue, stands.slice?, toByteArray_toList,
    Option.bind_some, Text.decode?_encode, Option.getD_some]

end LeadsTo

theorem resolveAt_of_standsAt {texts data : ByteArray} {i : Nat} {r : StringRef} {t : Text}
    (stands : StandsAt data i r.bytes) (leads : LeadsTo texts r t) (fits : texts.size < 2 ^ 32) :
    Snapshot.resolveAt texts data i = t := by
  rw [Snapshot.resolveAt, read?_of_standsAt stands, Option.map_some, Option.getD_some,
    leads.resolve fits]

end StringRef

namespace StringPool

/-- The pool's record of where each text starts agrees with its bytes. -/
def Sound (pool : StringPool) : Prop :=
  ∀ (t : Text) start, pool.starts[t]? = some start → StandsAt pool.bytes start t.encode.data.toList

theorem sound_empty : empty.Sound := by
  intro t start h
  simp [empty] at h

/-- What storing a text does to a pool. -/
theorem intern_spec {pool : StringPool} (sound : pool.Sound) (t : Text) :
    (pool.intern t).2.Sound ∧ Extends (pool.intern t).2.bytes pool.bytes ∧
      (pool.intern t).1.LeadsTo (pool.intern t).2.bytes t := by
  unfold intern
  split
  · rename_i blank
    subst blank
    exact ⟨sound, .refl _, .empty _⟩
  · dsimp only
    split
    · rename_i start known
      exact ⟨sound, .refl _, start, rfl, sound t start known⟩
    · have stored := StandsAt.append pool.bytes t.encode.data.toList
      rw [toByteArray_toList] at stored
      refine ⟨?_, .append _ _, _, rfl, stored⟩
      intro u start found
      dsimp only at found ⊢
      rw [Std.TreeMap.getElem?_insert] at found
      split at found
      · rename_i same
        cases found
        rw [← Std.LawfulEqCmp.eq_of_compare same]
        exact stored
      · exact (sound u start found).mono (.append _ _)

theorem internAll_spec {pool : StringPool} (sound : pool.Sound) (ts : List Text) :
    (pool.internAll ts).2.Sound ∧ Extends (pool.internAll ts).2.bytes pool.bytes ∧
      List.Forall₂ (StringRef.LeadsTo (pool.internAll ts).2.bytes) (pool.internAll ts).1 ts := by
  induction ts generalizing pool with
  | nil => exact ⟨sound, .refl _, .nil⟩
  | cons t ts ih =>
    obtain ⟨sound', more, leads⟩ := intern_spec sound t
    obtain ⟨sound'', more', allLead⟩ := ih sound'
    exact ⟨sound'', more'.trans more, .cons (leads.mono more') allLead⟩

end StringPool

namespace DomainLists

/-- Domain lists as they are stored: the lengths of the three lists, then references to all
texts. -/
def block (lists : DomainLists) (refs : List StringRef) : List UInt8 :=
  [lists.included, lists.excluded, lists.sitekeys].flatMap
    (fun names => le32 (UInt32.ofNat names.length)) ++ refs.flatMap StringRef.bytes

/-- The lists stand in `blocks` from position `start` on. -/
def StandAt (texts blocks : ByteArray) (start : Nat) (lists : DomainLists) : Prop :=
  ∃ refs, List.Forall₂ (StringRef.LeadsTo texts) refs lists.all ∧
    StandsAt blocks start (lists.block refs)

theorem StandAt.mono {texts texts' blocks blocks' : ByteArray} {start : Nat} {lists : DomainLists}
    (h : StandAt texts blocks start lists) (more : Extends texts' texts)
    (more' : Extends blocks' blocks) : StandAt texts' blocks' start lists := by
  obtain ⟨refs, leads, stands⟩ := h
  exact ⟨refs, leads.imp fun _ _ h => h.mono more, stands.mono more'⟩

/-- A filter's record of its lists leads to them. -/
def Placed (texts blocks : ByteArray) (place : UInt32) (lists : DomainLists) : Prop :=
  (lists = .empty ∧ place = Layout.noLists) ∨
    ∃ start, place = UInt32.ofNat start ∧ StandAt texts blocks start lists

theorem Placed.mono {texts texts' blocks blocks' : ByteArray} {place : UInt32}
    {lists : DomainLists} (h : Placed texts blocks place lists) (more : Extends texts' texts)
    (more' : Extends blocks' blocks) : Placed texts' blocks' place lists := by
  obtain none | ⟨start, eq, stands⟩ := h
  · exact .inl none
  · exact .inr ⟨start, eq, stands.mono more more'⟩

end DomainLists

namespace ListPool

/-- The pool's record of where each triple of lists starts agrees with its bytes. -/
def Sound (texts : ByteArray) (pool : ListPool) : Prop :=
  ∀ (lists : DomainLists) start,
    pool.starts[[lists.included, lists.excluded, lists.sitekeys]]? = some start →
      lists.StandAt texts pool.bytes start

theorem sound_empty (texts : ByteArray) : empty.Sound texts := by
  intro lists start h
  simp [empty] at h

theorem Sound.mono {texts texts' : ByteArray} {pool : ListPool} (sound : pool.Sound texts)
    (more : Extends texts' texts) : pool.Sound texts' :=
  fun lists start found => (sound lists start found).mono more (.refl _)

/-- What storing domain lists does to the pools. -/
theorem intern_spec {pool : ListPool} {strings : StringPool} (sound : pool.Sound strings.bytes)
    (soundStrings : strings.Sound) (lists : DomainLists) :
    let result := pool.intern strings lists
    result.2.1.Sound result.2.2.bytes ∧ result.2.2.Sound ∧
      Extends result.2.1.bytes pool.bytes ∧ Extends result.2.2.bytes strings.bytes ∧
      lists.Placed result.2.2.bytes result.2.1.bytes result.1 := by
  unfold intern
  split
  · rename_i blank
    exact ⟨sound, soundStrings, .refl _, .refl _, .inl ⟨blank, rfl⟩⟩
  · dsimp only
    split
    · rename_i start known
      exact ⟨sound, soundStrings, .refl _, .refl _, .inr ⟨start, rfl, sound lists start known⟩⟩
    · obtain ⟨soundStrings', more, leads⟩ := StringPool.internAll_spec soundStrings lists.all
      have stored : lists.StandAt (strings.internAll lists.all).2.bytes
          (pool.bytes ++ (lists.block (strings.internAll lists.all).1).toByteArray)
          pool.bytes.size :=
        ⟨_, leads, .append _ _⟩
      refine ⟨?_, soundStrings', .append _ _, more, .inr ⟨_, rfl, stored⟩⟩
      intro other start found
      dsimp only at found
      rw [Std.TreeMap.getElem?_insert] at found
      split at found
      · rename_i same
        cases found
        have eq := Std.LawfulEqCmp.eq_of_compare same
        simp only [List.cons.injEq, and_true] at eq
        obtain ⟨included, excluded, sitekeys⟩ := eq
        have : other = lists := by
          cases other
          cases lists
          simp_all
        rw [this]
        exact stored
      · exact (sound other start found).mono more (.append _ _)

end ListPool

namespace Snapshot

/-- Reading as many references as stand at a position gives the texts to which they lead. -/
theorem resolveList_of_standsAt {texts data : ByteArray} {start : Nat} {refs : List StringRef}
    {ts : List Text} (leads : List.Forall₂ (StringRef.LeadsTo texts) refs ts)
    (stands : StandsAt data start (refs.flatMap StringRef.bytes)) (fits : texts.size < 2 ^ 32) :
    resolveList texts data start ts.length = ts := by
  have length := leads.length_eq
  have bound := stands.end_le
  rw [length_flatMap_of_width StringRef.length_bytes, length] at bound
  rw [resolveList, if_neg (by omega)]
  apply List.ext_getElem (by simp)
  intro k h₁ h₂
  have read := StandsAt.of_flatMap StringRef.length_bytes stands
    (List.getElem?_eq_getElem (by omega : k < refs.length))
  rw [List.getElem_map, List.getElem_range]
  exact StringRef.resolveAt_of_standsAt read (leads.get (by omega) h₂) fits

/-- Of references to several lists of texts, one list after the other, reading takes the first list
and leaves the others in their place. -/
theorem resolveList_append {texts data : ByteArray} {start : Nat} {refs : List StringRef}
    {ts more : List Text} (leads : List.Forall₂ (StringRef.LeadsTo texts) refs (ts ++ more))
    (stands : StandsAt data start (refs.flatMap StringRef.bytes)) (fits : texts.size < 2 ^ 32) :
    resolveList texts data start ts.length = ts ∧
      ∃ rest, List.Forall₂ (StringRef.LeadsTo texts) rest more ∧
        StandsAt data (start + ts.length * Layout.stringRefSize)
          (rest.flatMap StringRef.bytes) := by
  have first := List.forall₂_take_append _ _ _ leads
  have last := List.forall₂_drop_append _ _ _ leads
  rw [← List.take_append_drop ts.length refs, List.flatMap_append] at stands
  refine ⟨resolveList_of_standsAt first stands.left fits, _, last, stands.right_of_length ?_⟩
  rw [length_flatMap_of_width StringRef.length_bytes, first.length_eq]

/-- Reading domain lists at the place where a pool has put them gives them back. -/
theorem listsAt_of_placed {s : Snapshot} {place : UInt32} {lists : DomainLists}
    (placed : lists.Placed s.textBytes (s.sectionBytes .domainLists) place)
    (fits : s.textBytes.size < 2 ^ 32) (blocksFit : (s.sectionBytes .domainLists).size < 2 ^ 32) :
    s.listsAt place = lists := by
  obtain ⟨rfl, rfl⟩ | ⟨start, rfl, refs, leads, stands⟩ := placed
  · rfl
  · have bound := stands.end_le
    simp only [DomainLists.block, List.flatMap_cons, List.flatMap_nil, List.append_nil,
      List.append_assoc] at stands bound
    have length := leads.length_eq
    simp only [DomainLists.all, List.length_append, length_le32,
      length_flatMap_of_width StringRef.length_bytes, Layout.stringRefSize] at length bound
    have startValue : (UInt32.ofNat start).toNat = start := toNat_ofNat_of_lt (by omega)
    have present : UInt32.ofNat start ≠ Layout.noLists := by
      intro same
      have value := congrArg UInt32.toNat same
      rw [startValue, show Layout.noLists.toNat = 0xffffffff from rfl] at value
      omega
    have included := natAt_of_standsAt stands.left
    have excluded := natAt_of_standsAt stands.right.left
    have sitekeys := natAt_of_standsAt stands.right.right.left
    have references := stands.right.right.right
    rw [toNat_ofNat_of_lt (by omega)] at included excluded sitekeys
    simp only [length_le32, Nat.add_assoc] at included excluded sitekeys references
    rw [DomainLists.all, List.append_assoc] at leads
    obtain ⟨first, rest, leads, standsRest⟩ := resolveList_append leads references fits
    obtain ⟨second, rest', leads, standsRest'⟩ := resolveList_append leads standsRest fits
    have third := resolveList_of_standsAt leads standsRest' fits
    simp only [Nat.add_assoc, Nat.reduceAdd] at first second third included excluded sitekeys
    simp only [listsAt, if_neg present, startValue, included, excluded, sitekeys, first, second,
      third, Nat.add_assoc]

end Snapshot

end ContentBlocker
