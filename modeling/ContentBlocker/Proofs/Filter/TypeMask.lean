import ContentBlocker.Proofs.Filter.Options
import Mathlib.Data.List.Induction
/-!
# The content types that options spell

Read from left to right, the options that name content types spell a set: a plain mention puts its
types in, a negated one takes its types out, and the set to begin with is that of all types if the
first mention is negated and the empty one if it is not. A filter applies to the set that its
options spell, unless this set becomes empty on the way: an empty set is taken for one of which
nothing has been said, so that a negated mention behind it, like the end of the options, starts
again from all types.
-/

namespace ContentBlocker

namespace ContentTypes

theorem union_inter_eq_none {a b c : ContentTypes} (ha : a.inter c = none)
    (hb : b.inter c = none) : (a.union b).inter c = none := by
  rw [inter_union, ha, hb]
  rfl

theorem without_inter_eq_none {a c : ContentTypes} (ha : a.inter c = none) (b : ContentTypes) :
    (a.without b).inter c = none := by
  have common : a.bits &&& c.bits = 0 := congrArg bits ha
  rw [inter, without, UInt32.and_assoc, UInt32.and_comm (~~~b.bits), ← UInt32.and_assoc, common,
    UInt32.zero_and]
  rfl

theorem without_inter_self (a b : ContentTypes) : (a.without b).inter b = none := by
  rw [inter, without, UInt32.and_assoc, UInt32.not_and_self, UInt32.and_zero]
  rfl

/-- The types of two names are the same, or they have nothing in common. -/
theorem inter_eq_none_of_ofName? {name name' : Text} {a b : ContentTypes}
    (ha : ofName? name = some a) (hb : ofName? name' = some b) (other : a ≠ b) :
    a.inter b = none := by
  have all : ∀ x ∈ named, ∀ y ∈ named, x.2 ≠ y.2 → x.2.inter y.2 = none := by decide
  exact all _ (mem_of_lookup_eq_some ha) _ (mem_of_lookup_eq_some hb) other

end ContentTypes

namespace Options

/-- The mentions of content types among options. -/
def mentionsIn (entries : List Entry) : List Mention := entries.filterMap Entry.mention?

/-- What a mention makes of a set of content types. -/
def Mention.applyTo (types : ContentTypes) (mention : Mention) : ContentTypes :=
  if mention.negated then types.without mention.types else types.union mention.types

/-- The content types that mentions spell. -/
def spelled : List Mention → ContentTypes
  | [] => .all
  | first :: rest =>
    (first :: rest).foldl Mention.applyTo (if first.negated then .all else .none)

/-- Mentions that keep some type wherever the next one is negated or there is no next one. -/
def KeepSome (mentions : List Mention) : Prop :=
  ∀ n ≤ mentions.length, n ≠ 0 → (∀ next ∈ mentions[n]?, next.negated = true) →
    spelled (mentions.take n) ≠ .none

instance (mentions : List Mention) : Decidable (KeepSome mentions) :=
  inferInstanceAs (Decidable (∀ n ≤ mentions.length, n ≠ 0 →
    (∀ next ∈ mentions[n]?, next.negated = true) → spelled (mentions.take n) ≠ .none))

variable {mentions : List Mention}

theorem spelled_singleton (mention : Mention) :
    spelled [mention] = mention.keep .none := by
  cases negated : mention.negated <;> simp [spelled, Mention.applyTo, Mention.keep, negated]

theorem spelled_concat (written : mentions ≠ []) (mention : Mention) :
    spelled (mentions ++ [mention]) = mention.applyTo (spelled mentions) := by
  obtain ⟨first, rest, rfl⟩ := List.exists_cons_of_ne_nil written
  rw [List.cons_append, spelled, spelled, ← List.cons_append, List.foldl_append]
  rfl

/-- A mention does to the types that are kept what it does to a set, unless none are kept. -/
theorem Mention.keep_eq_applyTo {types : ContentTypes} {mention : Mention}
    (some : mention.negated = true → types ≠ .none) :
    Mention.keep types mention = Mention.applyTo types mention := by
  unfold Mention.keep Mention.applyTo
  split
  · rename_i negated
    rw [if_neg (some negated)]
  · rfl

/-- As long as no negated mention finds an empty set, what is kept is what the mentions spell. -/
theorem keep_take_eq_spelled (keeps : KeepSome mentions) {n : Nat} (within : n ≤ mentions.length)
    (written : n ≠ 0) :
    (mentions.take n).foldl Mention.keep .none = spelled (mentions.take n) := by
  -- by the number of mentions, since those in front of a plain one need not keep any type
  induction n with
  | zero => exact absurd rfl written
  | succ n ih =>
    have there : mentions[n]? = some mentions[n] := List.getElem?_eq_getElem within
    rw [List.take_add_one, there, Option.toList_some, List.foldl_append]
    rcases Nat.eq_zero_or_pos n with rfl | later
    · exact (spelled_singleton _).symm
    · have some : mentions.take n ≠ [] := by
        intro none
        rw [List.take_eq_nil_iff] at none
        rcases none with rfl | rfl
        · exact Nat.lt_irrefl 0 later
        · exact absurd within (Nat.not_succ_le_zero n)
      rw [ih (Nat.le_of_succ_le within) (Nat.ne_of_gt later), spelled_concat some]
      apply Mention.keep_eq_applyTo
      intro negated
      apply keeps n (Nat.le_of_succ_le within) (Nat.ne_of_gt later)
      rw [there]
      rintro _ ⟨⟩
      exact negated

theorem spelled_concat_negated {mention : Mention} (negated : mention.negated = true) :
    ∃ before : ContentTypes, spelled (mentions ++ [mention]) = before.without mention.types := by
  by_cases written : mentions = []
  · refine ⟨.all, ?_⟩
    rw [written, List.nil_append, spelled_singleton, Mention.keep, if_pos negated, if_pos rfl]
  · refine ⟨spelled mentions, ?_⟩
    rw [spelled_concat written, Mention.applyTo, if_pos negated]

/-- What mentions spell has nothing of a kind that the last of them to name it takes out. -/
theorem spelled_inter_eq_none {types : ContentTypes} {last : Mention}
    (apart : ∀ mention ∈ mentions, mention.types ≠ types → mention.types.inter types = .none)
    (isLast : (mentions.filter (·.types = types)).getLast? = some last)
    (negated : last.negated = true) : (spelled mentions).inter types = .none := by
  induction mentions using List.reverseRec with
  | nil => cases isLast
  | append_singleton front mention ih =>
    rw [List.filter_append] at isLast
    by_cases same : mention.types = types
    · obtain rfl : mention = last := by simpa [same] using isLast
      obtain ⟨before, spells⟩ : ∃ before : ContentTypes,
          spelled (front ++ [mention]) = before.without mention.types :=
        spelled_concat_negated negated
      rw [spells, same]
      exact ContentTypes.without_inter_self before types
    · have before : (front.filter (·.types = types)).getLast? = some last := by
        simpa [same] using isLast
      have written : front ≠ [] := by
        rintro rfl
        cases before
      have nothing := ih (fun other member => apart other (List.mem_append_left _ member)) before
      rw [spelled_concat written, Mention.applyTo]
      split
      · exact ContentTypes.without_inter_eq_none nothing _
      · exact ContentTypes.union_inter_eq_none nothing (apart mention (by simp) same)

theorem of_mem_mentionsIn {entries : List Entry} {mention : Mention}
    (member : mention ∈ mentionsIn entries) :
    ∃ name, ContentTypes.ofName? name = some mention.types := by
  obtain ⟨entry, -, mentioned⟩ := List.mem_filterMap.1 member
  obtain ⟨types, named, rfl⟩ := Option.map_eq_some_iff.1 mentioned
  exact ⟨entry.name, named⟩

theorem types_of_read {entries : List Entry} {options : Options}
    (read : entries.foldlM add .absent = .ok options) :
    options.types = (mentionsIn entries).foldl Mention.keep .none := by
  rw [mentionsIn, List.foldl_filterMap]
  apply foldlM_field Options.types _ read
  intro _ entry _ added
  rw [(adds_of_add added).types]
  cases entry.mention? <;> rfl

/-- Options apply a filter to the content types that they spell, and to none whose last mention is
negated, provided that their mentions keep some. -/
theorem contentTypes_eq_spelled {text : Text} {options : Options}
    (read : parse text = .ok options) (keeps : KeepSome (mentionsIn (entries text))) :
    options.contentTypes = spelled (mentionsIn (entries text)) ∧
      ∀ types last, ((mentionsIn (entries text)).filter (·.types = types)).getLast? =
          some last → last.negated = true → options.contentTypes.meets types = false := by
  have spells : options.contentTypes = spelled (mentionsIn (entries text)) := by
    rw [contentTypes, types_of_read read]
    by_cases written : mentionsIn (entries text) = []
    · rw [written]
      rfl
    · have length : (mentionsIn (entries text)).length ≠ 0 := by simpa using written
      have whole := keep_take_eq_spelled keeps (Nat.le_refl _) length
      have some := keeps _ (Nat.le_refl _) length
      rw [List.take_length] at whole some
      rw [whole, if_neg (some (by simp))]
  refine ⟨spells, ?_⟩
  intro types last isLast negated
  rw [spells, ContentTypes.meets, bne_eq_false_iff_eq]
  refine spelled_inter_eq_none ?_ isLast negated
  intro mention member other
  obtain ⟨lastMember, same⟩ := List.mem_filter.1 (List.mem_of_getLast? isLast)
  obtain ⟨name, named⟩ := of_mem_mentionsIn member
  obtain ⟨lastName, lastNamed⟩ := of_mem_mentionsIn lastMember
  rw [of_decide_eq_true same] at lastNamed
  exact ContentTypes.inter_eq_none_of_ofName? named lastNamed other

/-- The set may become empty before a plain mention. -/
theorem contentTypes_eq_spelled_emptied :
    let text : Text := "script,~script,image,~font"
    let options := { absent with types := .single 2, namesTypes := true }
    parse text = .ok options ∧ KeepSome (mentionsIn (entries text)) ∧
      options.contentTypes = spelled (mentionsIn (entries text)) ∧
        ∀ types last, ((mentionsIn (entries text)).filter (·.types = types)).getLast? =
            some last → last.negated = true → options.contentTypes.meets types = false := by
  intro text options
  have read : parse text = .ok options := by decide
  have keeps : KeepSome (mentionsIn (entries text)) := by decide
  exact ⟨read, keeps, contentTypes_eq_spelled read keeps⟩

/-- The only type that is named is taken out again, and all types are left. -/
theorem not_contentTypes_eq_spelled :
    ¬ ∀ text options, parse text = .ok options →
      options.contentTypes = spelled (mentionsIn (entries text)) ∧
        ∀ types last, ((mentionsIn (entries text)).filter (·.types = types)).getLast? =
            some last → last.negated = true → options.contentTypes.meets types = false := by
  intro claimed
  have read : parse "script,~script" = .ok { absent with namesTypes := true } := by decide
  obtain ⟨spells, -⟩ := claimed _ _ read
  revert spells
  decide

-- A negated mention behind the empty set starts again from all types.
example : (parse "script,~script,~image").toOption.map contentTypes =
    some (ContentTypes.all.without (.single 2)) := by
  decide

end Options

end ContentBlocker
