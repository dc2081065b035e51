import ContentBlocker.Proofs.Regex.Spans
import ContentBlocker.Reference.Search
import Mathlib.Data.Finset.Card
/-!
# Searching finds what the spans say

The image of a set of positions under a located expression is where spans that start in the set end.
Repetition is the delicate part: stopping early loses nothing, since a set that one more turn does
not change is not changed by any number of turns, and without an upper bound each turn that does not
stop adds one of finitely many positions.
-/

namespace ContentBlocker.Regex

/-- The positions that `x` stands for lie in a text of `n` characters. -/
def Within (n x : Nat) : Prop := ∀ i, x.testBit i = true → i ≤ n

/-- Between positions up to `n`, `f` takes a set to where the relation leads from its members. -/
structure Follows (n : Nat) (f : Nat → Nat) (leads : Nat → Nat → Prop) : Prop where
  inside : ∀ i j, leads i j → j ≤ n
  reaches : ∀ x, Within n x → ∀ j,
    (f x).testBit j = true ↔ ∃ i, x.testBit i = true ∧ leads i j

namespace Follows

variable {n : Nat} {f g : Nat → Nat} {leads leads' : Nat → Nat → Prop}

theorem within (h : Follows n f leads) {x : Nat} (inside : Within n x) : Within n (f x) := by
  intro j there
  obtain ⟨i, -, step⟩ := (h.reaches x inside j).1 there
  exact h.inside i j step

theorem comp (hg : Follows n g leads') (hf : Follows n f leads) :
    Follows n (g ∘ f) fun i k => ∃ j, leads i j ∧ leads' j k where
  inside := fun i k ⟨j, _, step⟩ => hg.inside j k step
  reaches := by
    intro x within k
    rw [Function.comp_apply, hg.reaches _ (hf.within within)]
    constructor
    · rintro ⟨j, there, last⟩
      obtain ⟨i, start, first⟩ := (hf.reaches x within j).1 there
      exact ⟨i, start, j, first, last⟩
    · rintro ⟨i, start, j, first, last⟩
      exact ⟨j, (hf.reaches x within j).2 ⟨i, start, first⟩, last⟩

theorem congr (h : Follows n f leads) (same : ∀ i j, i ≤ n → (leads i j ↔ leads' i j))
    (inside : ∀ i j, leads' i j → j ≤ n) : Follows n f leads' where
  inside := inside
  reaches := by
    intro x within j
    rw [h.reaches x within j]
    refine exists_congr fun i => and_congr_right fun there => ?_
    exact same i j (within i there)

end Follows

theorem iterate_eq (f : Nat → Nat) (count x : Nat) : iterate f count x = f^[count] x := by
  induction count generalizing x with
  | zero => rfl
  | succ count ih =>
    rw [iterate]
    split
    · rename_i fixed
      exact (Function.iterate_fixed fixed (count + 1)).symm
    · rw [ih, Function.iterate_succ_apply]

section Repetition

variable {n : Nat} {f : Nat → Nat} {leads : Nat → Nat → Prop}

/-- Turns stay among the positions. -/
theorem Turns.inside (h : Follows n f leads) {count i j : Nat} (turns : Turns leads count i j)
    (start : i ≤ n) : j ≤ n := by
  induction turns with
  | done => exact start
  | more step _ ih => exact ih (h.inside _ _ step)

theorem testBit_iterate (h : Follows n f leads) (count : Nat) {x : Nat} (within : Within n x)
    (j : Nat) :
    (iterate f count x).testBit j = true ↔ ∃ i, x.testBit i = true ∧ Turns leads count i j := by
  rw [iterate_eq]
  induction count generalizing x with
  | zero =>
    constructor
    · exact fun there => ⟨j, there, .done⟩
    · rintro ⟨i, there, turns⟩
      cases turns
      exact there
  | succ count ih =>
    rw [Function.iterate_succ_apply, ih (h.within within)]
    constructor
    · rintro ⟨m, there, rest⟩
      obtain ⟨i, start, first⟩ := (h.reaches x within m).1 there
      exact ⟨i, start, .more first rest⟩
    · rintro ⟨i, start, turns⟩
      cases turns with
      | more first rest => exact ⟨_, (h.reaches x within _).2 ⟨i, start, first⟩, rest⟩

/-- No number of turns leaves a set to which one turn adds nothing. -/
theorem Turns.closed (h : Follows n f leads) {x : Nat} (within : Within n x)
    (closed : x ||| f x = x) {count i j : Nat} (turns : Turns leads count i j)
    (start : x.testBit i = true) : x.testBit j = true := by
  induction turns with
  | done => exact start
  | more step _ ih =>
    refine ih ?_
    rw [← closed, Nat.testBit_or, (h.reaches x within _).2 ⟨_, start, step⟩, Bool.or_true]

theorem within_or (h : Follows n f leads) {x : Nat} (within : Within n x) :
    Within n (x ||| f x) := by
  intro i there
  rw [Nat.testBit_or, Bool.or_eq_true] at there
  exact there.elim (within i) (h.within within i)

theorem testBit_spread (h : Follows n f leads) (bound : Nat) {x : Nat} (within : Within n x)
    (j : Nat) : (spread f bound x).testBit j = true ↔
      ∃ i, x.testBit i = true ∧ ∃ count ≤ bound, Turns leads count i j := by
  induction bound generalizing x with
  | zero =>
    constructor
    · exact fun there => ⟨j, there, 0, Nat.le_refl 0, .done⟩
    · rintro ⟨i, there, count, few, turns⟩
      obtain rfl := Nat.le_zero.1 few
      cases turns
      exact there
  | succ bound ih =>
    rw [spread]
    split
    · rename_i closed
      constructor
      · exact fun there => ⟨j, there, 0, Nat.zero_le _, .done⟩
      · rintro ⟨i, there, count, -, turns⟩
        exact turns.closed h within closed there
    · rw [ih (within_or h within)]
      constructor
      · rintro ⟨m, there, count, few, rest⟩
        rw [Nat.testBit_or, Bool.or_eq_true] at there
        rcases there with there | there
        · exact ⟨m, there, count, Nat.le_succ_of_le few, rest⟩
        · obtain ⟨i, start, first⟩ := (h.reaches x within m).1 there
          exact ⟨i, start, count + 1, Nat.succ_le_succ few, .more first rest⟩
      · rintro ⟨i, start, count, few, turns⟩
        cases turns with
        | done => exact ⟨j, by rw [Nat.testBit_or, start, Bool.true_or], 0, Nat.zero_le _, .done⟩
        | more first rest =>
          refine ⟨_, ?_, _, Nat.le_of_succ_le_succ few, rest⟩
          rw [Nat.testBit_or, (h.reaches x within _).2 ⟨i, start, first⟩, Bool.or_true]

/-- How many of the positions up to `n` a number stands for. -/
def size (n x : Nat) : Nat := ((Finset.range (n + 1)).filter (x.testBit ·)).card

/-- Spreading either comes to rest or adds a position at each turn. -/
theorem spread_closed (h : Follows n f leads) (bound : Nat) {x : Nat} (within : Within n x) :
    Within n (spread f bound x) ∧ (spread f bound x ||| f (spread f bound x) = spread f bound x ∨
      bound + size n x ≤ size n (spread f bound x)) := by
  induction bound generalizing x with
  | zero => exact ⟨within, .inr (Nat.le_of_eq (Nat.zero_add _))⟩
  | succ bound ih =>
    rw [spread]
    split
    · rename_i closed
      exact ⟨within, .inl closed⟩
    · rename_i more
      have wider := within_or h within
      obtain ⟨inside, rest⟩ := ih wider
      refine ⟨inside, rest.imp_right fun grown => ?_⟩
      have added : size n x < size n (x ||| f x) := by
        obtain ⟨i, differs⟩ := Nat.exists_testBit_ne_of_ne more
        rw [Nat.testBit_or] at differs
        have new : x.testBit i = false ∧ (f x).testBit i = true := by
          cases old : x.testBit i <;> simp [old] at differs ⊢
          exact differs
        refine Finset.card_lt_card ⟨fun k there => ?_, fun subset => ?_⟩
        · obtain ⟨range, there⟩ := Finset.mem_filter.1 there
          exact Finset.mem_filter.2 ⟨range, by rw [Nat.testBit_or, there, Bool.true_or]⟩
        · have range := Finset.mem_range.2 (Nat.lt_succ_of_le (h.within within i new.2))
          have old := Finset.mem_filter.1 (subset (Finset.mem_filter.2
            ⟨range, by rw [Nat.testBit_or, new.2, Bool.or_true]⟩))
          exact Bool.false_ne_true (new.1 ▸ old.2)
      omega

/-- With one turn more than there are positions, spreading reaches all that can be reached. -/
theorem testBit_spread_all (h : Follows n f leads) {x : Nat} (within : Within n x) (j : Nat) :
    (spread f (n + 1) x).testBit j = true ↔
      ∃ i, x.testBit i = true ∧ ∃ count, Turns leads count i j := by
  constructor
  · intro there
    obtain ⟨i, start, count, -, turns⟩ := (testBit_spread h (n + 1) within j).1 there
    exact ⟨i, start, count, turns⟩
  · rintro ⟨i, start, count, turns⟩
    obtain ⟨inside, closed | full⟩ := spread_closed h (n + 1) within
    · refine turns.closed h inside closed ?_
      exact (testBit_spread h (n + 1) within i).2 ⟨i, start, 0, Nat.zero_le _, .done⟩
    · have most : size n (spread f (n + 1) x) ≤ n + 1 :=
        (Finset.card_filter_le _ _).trans_eq (Finset.card_range _)
      have every := Finset.filter_card_eq (s := Finset.range (n + 1))
        (p := ((spread f (n + 1) x).testBit · = true))
        (by rw [Finset.card_range]; unfold size at full most; omega)
      exact every j (Finset.mem_range.2 (Nat.lt_succ_of_le (turns.inside h (within i start))))

theorem follows_iterate (h : Follows n f leads) (count : Nat) :
    Follows n (iterate f count) fun i j => i ≤ n ∧ Turns leads count i j := by
  refine ⟨fun i j turns => turns.2.inside h turns.1, fun x within j => ?_⟩
  rw [testBit_iterate h count within]
  exact exists_congr fun i => and_congr_right fun there => (and_iff_right (within i there)).symm

/-- The turns that are made above the least number of them. -/
theorem follows_spread (h : Follows n f leads) (least : Nat) (most : Option Nat) :
    Follows n (spread f ((most.map (· - least)).getD (n + 1))) fun i j => i ≤ n ∧
      ∃ count, Turns leads count i j ∧ ∀ bound, most = some bound → count ≤ bound - least := by
  refine ⟨fun i j ⟨start, _, turns, _⟩ => turns.inside h start, fun x within j => ?_⟩
  have reached : (spread f ((most.map (· - least)).getD (n + 1)) x).testBit j = true ↔
      ∃ i, x.testBit i = true ∧ ∃ count, Turns leads count i j ∧
        ∀ bound, most = some bound → count ≤ bound - least := by
    cases most with
    | none => simpa using testBit_spread_all h within j
    | some bound => simpa [and_comm] using testBit_spread h (bound - least) within j
  rw [reached]
  exact exists_congr fun i => and_congr_right fun there => (and_iff_right (within i there)).symm

end Repetition

theorem testBit_positions (p : Char → Bool) (s : Text) (i : Nat) :
    (positions p s).testBit i = s[i]?.any p := by
  induction s generalizing i with
  | nil => rw [positions, Nat.zero_testBit, List.getElem?_nil, Option.any_none]
  | cons c s ih =>
    rw [positions]
    cases i with
    | zero =>
      rw [Nat.testBit_zero, List.getElem?_cons_zero, Option.any_some]
      cases p c <;> simp
    | succ i =>
      have half : (2 * positions p s + if p c then 1 else 0) / 2 = positions p s := by
        split <;> omega
      rw [Nat.testBit_succ, half, ih, List.getElem?_cons_succ]

theorem testBit_anchorPositions (condition : Anchor) (before : Option Char) (s : Text) (i : Nat) :
    (anchorPositions condition before s).testBit i = true ↔ i ≤ s.length ∧
      condition.holds (if i = 0 then before else s[i - 1]?) s[i]? = true := by
  induction s generalizing i before with
  | nil =>
    rw [anchorPositions]
    cases i with
    | zero => cases holds : condition.holds before none <;> simp [holds]
    | succ i =>
      have none : (if condition.holds before none then 1 else 0).testBit (i + 1) = false := by
        split
        · exact Nat.testBit_lt_two_pow (Nat.one_lt_two_pow (Nat.succ_ne_zero i))
        · exact Nat.zero_testBit _
      simp [none]
  | cons c s ih =>
    rw [anchorPositions]
    cases i with
    | zero =>
      rw [Nat.testBit_zero]
      cases holds : condition.holds before (some c) <;> simp [holds]
    | succ i =>
      have half : (2 * anchorPositions condition (some c) s +
          if condition.holds before (some c) then 1 else 0) / 2 =
            anchorPositions condition (some c) s := by
        split <;> omega
      rw [Nat.testBit_succ, half, ih, List.length_cons, Nat.add_le_add_iff_right]
      cases i <;> simp

/-- The image under a located expression is where its spans end. -/
theorem follows_image (s : Text) {r : Regex} (wellFormed : r.WellFormed) :
    Follows s.length ((locate s r).image s.length) (Spans s r) := by
  induction r with
  | empty =>
    refine ⟨fun i j h => h.bounds.2, fun x within j => ⟨fun there => ?_, ?_⟩⟩
    · exact ⟨j, there, .empty (within j there)⟩
    · rintro ⟨i, there, ⟨⟩⟩
      exact there
  | set members =>
    refine ⟨fun i j h => h.bounds.2, fun x within j => ?_⟩
    rw [locate, Located.image, Nat.testBit_shiftLeft, Nat.testBit_and, testBit_positions]
    simp only [Bool.and_eq_true, decide_eq_true_eq, Option.any_eq_true]
    constructor
    · rintro ⟨positive, there, c, at_, member⟩
      have step := Spans.set at_ member
      rw [Nat.sub_add_cancel positive] at step
      exact ⟨j - 1, there, step⟩
    · rintro ⟨i, there, span⟩
      cases span with
      | @set _ _ c at_ member => exact ⟨Nat.le_add_left 1 i, there, c, at_, member⟩
  | anchor condition =>
    refine ⟨fun i j h => h.bounds.2, fun x within j => ?_⟩
    rw [locate, Located.image, Nat.testBit_and, Bool.and_eq_true, testBit_anchorPositions]
    constructor
    · rintro ⟨there, inside, holds⟩
      exact ⟨j, there, .anchor inside holds⟩
    · rintro ⟨i, there, span⟩
      cases span with
      | anchor inside holds => exact ⟨there, inside, holds⟩
  | cat a b iha ihb =>
    refine ((ihb wellFormed.2).comp (iha wellFormed.1)).congr (fun i k _ => ?_)
      fun i j h => h.bounds.2
    constructor
    · rintro ⟨j, first, last⟩
      exact .cat first last
    · intro span
      cases span with
      | @cat _ _ _ j _ first last => exact ⟨j, first, last⟩
  | alt a b iha ihb =>
    refine ⟨fun i j h => h.bounds.2, fun x within j => ?_⟩
    rw [locate, Located.image, Nat.testBit_or, Bool.or_eq_true,
      (iha wellFormed.1).reaches x within, (ihb wellFormed.2).reaches x within]
    constructor
    · rintro (⟨i, there, span⟩ | ⟨i, there, span⟩)
      · exact ⟨i, there, .left span⟩
      · exact ⟨i, there, .right span⟩
    · rintro ⟨i, there, span⟩
      cases span with
      | left span => exact .inl ⟨i, there, span⟩
      | right span => exact .inr ⟨i, there, span⟩
  | repeated r least most ih =>
    have turn := ih wellFormed.1
    refine ((follows_spread turn least most).comp (follows_iterate turn least)).congr
      (fun i k inside => ?_) fun i j h => h.bounds.2
    rw [spans_repeated]
    constructor
    · rintro ⟨j, ⟨-, first⟩, -, count, rest, few⟩
      refine ⟨inside, least + count, first.append rest, Nat.le_add_right _ _, ?_⟩
      intro bound bounded
      have := few bound bounded
      have := wellFormed.2 bound bounded
      omega
    · rintro ⟨-, count, turns, enough, few⟩
      rw [← Nat.add_sub_cancel' enough] at turns
      obtain ⟨j, first, rest⟩ := turns.split
      refine ⟨j, ⟨inside, first⟩, first.inside turn inside, _, rest, fun bound bounded => ?_⟩
      exact Nat.sub_le_sub_right (few bound bounded) least

/-- A search finds a match exactly if there is one. -/
theorem occursIn_iff {r : Regex} (wellFormed : r.WellFormed) (s : Text) :
    r.occursIn s = true ↔ Occurs s r := by
  have within : Within s.length (allPositions s.length) := by
    intro i there
    rw [allPositions, Nat.one_shiftLeft, Nat.testBit_two_pow_sub_one, decide_eq_true_eq] at there
    exact Nat.le_of_lt_succ there
  have reaches := (follows_image s wellFormed).reaches _ within
  rw [occursIn, decide_eq_true_eq]
  constructor
  · intro nonzero
    obtain ⟨j, there⟩ := Nat.exists_testBit_of_ne_zero nonzero
    obtain ⟨i, -, span⟩ := (reaches j).1 there
    exact ⟨i, j, span⟩
  · rintro ⟨i, j, span⟩ zero
    have start : (allPositions s.length).testBit i = true := by
      rw [allPositions, Nat.one_shiftLeft, Nat.testBit_two_pow_sub_one, decide_eq_true_eq]
      exact Nat.lt_succ_of_le (Nat.le_trans span.bounds.1 span.bounds.2)
    have there := (reaches j).2 ⟨i, start, span⟩
    rw [zero, Nat.zero_testBit] at there
    cases there

end ContentBlocker.Regex
