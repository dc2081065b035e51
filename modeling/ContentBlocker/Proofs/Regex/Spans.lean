import ContentBlocker.Regex.Basic
/-!
# Spans

What spans of each kind of expression consist of. A span of a repetition consists of spans of what
is repeated, one after the other, as many as its bounds allow.
-/

namespace ContentBlocker.Regex

/-- The bounds of every repetition are in order. -/
def WellFormed : Regex → Prop
  | cat a b => a.WellFormed ∧ b.WellFormed
  | alt a b => a.WellFormed ∧ b.WellFormed
  | repeated r least most => r.WellFormed ∧ ∀ bound, most = some bound → least ≤ bound
  | _ => True

theorem Spans.bounds {s : Text} {r : Regex} {i j : Nat} (h : Spans s r i j) :
    i ≤ j ∧ j ≤ s.length := by
  induction h with
  | empty inside => exact ⟨Nat.le_refl _, inside⟩
  | set there => exact ⟨Nat.le_succ _, (List.getElem?_eq_some_iff.1 there).1⟩
  | anchor inside => exact ⟨Nat.le_refl _, inside⟩
  | cat _ _ iha ihb => exact ⟨Nat.le_trans iha.1 ihb.1, ihb.2⟩
  | left _ ih => exact ih
  | right _ ih => exact ih
  | done inside => exact ⟨Nat.le_refl _, inside⟩
  | more _ _ _ first rest => exact ⟨Nat.le_trans first.1 rest.1, rest.2⟩

/-- What a relation leads to in a number of turns. -/
inductive Turns (leads : Nat → Nat → Prop) : Nat → Nat → Nat → Prop
  | done {i : Nat} : Turns leads 0 i i
  | more {count i j k : Nat} : leads i j → Turns leads count j k → Turns leads (count + 1) i k

namespace Turns

variable {leads : Nat → Nat → Prop}

theorem append {a b i j k : Nat} (first : Turns leads a i j) (rest : Turns leads b j k) :
    Turns leads (a + b) i k := by
  induction first with
  | done => rwa [Nat.zero_add]
  | more step _ ih =>
    rw [Nat.succ_add]
    exact .more step (ih rest)

theorem split {a b i k : Nat} (h : Turns leads (a + b) i k) :
    ∃ j, Turns leads a i j ∧ Turns leads b j k := by
  induction a generalizing i with
  | zero =>
    rw [Nat.zero_add] at h
    exact ⟨i, .done, h⟩
  | succ a ih =>
    rw [Nat.succ_add] at h
    cases h with
    | more step rest =>
      obtain ⟨j, first, last⟩ := ih rest
      exact ⟨j, .more step first, last⟩

end Turns

theorem spans_repeated {s : Text} {r : Regex} {least : Nat} {most : Option Nat} {i k : Nat} :
    Spans s (.repeated r least most) i k ↔ i ≤ s.length ∧ ∃ count, Turns (Spans s r) count i k ∧
      least ≤ count ∧ ∀ bound, most = some bound → count ≤ bound := by
  constructor
  · intro h
    refine ⟨Nat.le_trans h.bounds.1 h.bounds.2, ?_⟩
    generalize whole : Regex.repeated r least most = e at h
    induction h generalizing least most with
    | empty | set | anchor | cat | left | right => cases whole
    | done =>
      cases whole
      exact ⟨0, .done, Nat.le_refl 0, fun _ _ => Nat.zero_le _⟩
    | more nonzero first _ _ ih =>
      cases whole
      obtain ⟨count, turns, enough, few⟩ := ih rfl
      refine ⟨count + 1, .more first turns, by omega, ?_⟩
      rintro bound rfl
      have positive : bound ≠ 0 := fun zero => nonzero (congrArg some zero)
      have := few (bound - 1) rfl
      omega
  · rintro ⟨inside, count, turns, enough, few⟩
    induction turns generalizing least most with
    | done =>
      obtain rfl := Nat.le_zero.1 enough
      exact .done inside
    | @more count _ j _ first _ ih =>
      have nonzero : most ≠ some 0 := fun zero => absurd (few 0 zero) (Nat.not_succ_le_zero count)
      refine .more nonzero first (ih first.bounds.2 (by omega) ?_)
      intro bound bounded
      obtain ⟨bound', was, rfl⟩ := Option.map_eq_some_iff.1 bounded
      have := few bound' was
      omega

theorem wellFormed_catAll {rs : List Regex} (all : ∀ r ∈ rs, r.WellFormed) :
    (catAll rs).WellFormed := by
  induction rs with
  | nil => trivial
  | cons r rs ih =>
    cases rs with
    | nil => exact all r List.mem_cons_self
    | cons next rs =>
      exact ⟨all r List.mem_cons_self, ih fun other there => all other (.tail _ there)⟩

section Spans

variable {s : Text}

theorem spans_empty {i k : Nat} : Spans s .empty i k ↔ i = k ∧ i ≤ s.length := by
  constructor
  · rintro ⟨⟩
    exact ⟨rfl, ‹_›⟩
  · rintro ⟨rfl, inside⟩
    exact .empty inside

theorem spans_set {members : CharSet} {i k : Nat} : Spans s (.set members) i k ↔
    k = i + 1 ∧ ∃ c, s[i]? = some c ∧ members.mem c = true := by
  constructor
  · intro span
    cases span with
    | @set _ _ c there member => exact ⟨rfl, c, there, member⟩
  · rintro ⟨rfl, c, there, member⟩
    exact .set there member

theorem spans_anchor {condition : Anchor} {i k : Nat} : Spans s (.anchor condition) i k ↔
    k = i ∧ i ≤ s.length ∧ condition.holdsAt s i = true := by
  constructor
  · intro span
    cases span with
    | anchor inside holds => exact ⟨rfl, inside, holds⟩
  · rintro ⟨rfl, inside, holds⟩
    exact .anchor inside holds

theorem spans_catAll_cons {r : Regex} {rs : List Regex} {i k : Nat} :
    Spans s (catAll (r :: rs)) i k ↔ ∃ j, Spans s r i j ∧ Spans s (catAll rs) j k := by
  cases rs with
  | nil =>
    constructor
    · exact fun span => ⟨k, span, .empty span.bounds.2⟩
    · rintro ⟨j, span, last⟩
      obtain ⟨rfl, -⟩ := spans_empty.1 last
      exact span
  | cons next rs =>
    constructor
    · intro span
      cases span with
      | @cat _ _ _ j _ first rest => exact ⟨j, first, rest⟩
    · rintro ⟨j, first, rest⟩
      exact .cat first rest

theorem spans_catAll_append {rs rs' : List Regex} {i k : Nat} :
    Spans s (catAll (rs ++ rs')) i k ↔
      ∃ j, Spans s (catAll rs) i j ∧ Spans s (catAll rs') j k := by
  induction rs generalizing i with
  | nil =>
    constructor
    · exact fun span => ⟨i, .empty (Nat.le_trans span.bounds.1 span.bounds.2), span⟩
    · rintro ⟨j, first, span⟩
      obtain ⟨rfl, -⟩ := spans_empty.1 first
      exact span
  | cons r rs ih =>
    rw [List.cons_append, spans_catAll_cons]
    constructor
    · rintro ⟨m, first, rest⟩
      obtain ⟨j, middle, last⟩ := ih.1 rest
      exact ⟨j, spans_catAll_cons.2 ⟨m, first, middle⟩, last⟩
    · rintro ⟨j, front, last⟩
      obtain ⟨m, first, middle⟩ := spans_catAll_cons.1 front
      exact ⟨m, first, ih.2 ⟨j, middle, last⟩⟩

/-- A repetition that is not empty ends with one more turn. -/
theorem last_of_spans_repeated {r : Regex} {least : Nat} {most : Option Nat} {i k : Nat}
    (span : Spans s (.repeated r least most) i k) (positive : 0 < least ∨ i ≠ k) :
    ∃ j, Spans s r j k := by
  obtain ⟨-, count, turns, enough, -⟩ := spans_repeated.1 span
  cases count with
  | zero =>
    cases turns
    exact absurd rfl (positive.resolve_left (by omega))
  | succ count =>
    obtain ⟨j, -, last⟩ := turns.split
    cases last with
    | more step rest =>
      cases rest
      exact ⟨j, step⟩

end Spans

end ContentBlocker.Regex
