import ContentBlocker.Proofs.Filter.Parsed
/-!
# Reading options one after the other

What an option does to the domains, the keys and the content types read so far depends on nothing
else that was read. Each of these can therefore be followed through a list of options by itself.
-/

namespace ContentBlocker

/-- A field that every step computes from itself is computed by the steps alone. -/
theorem foldlM_field {α β γ ε : Type} {f : β → α → Except ε β} (field : β → γ) {g : γ → α → γ}
    (step : ∀ b a b', f b a = .ok b' → field b' = g (field b) a) {as : List α} {b b' : β}
    (run : as.foldlM f b = .ok b') : field b' = as.foldl g (field b) := by
  induction as generalizing b with
  | nil =>
    cases run
    rfl
  | cons a rest ih =>
    rw [List.foldlM_cons] at run
    cases first : f b a with
    | error e =>
      rw [first] at run
      cases run
    | ok next =>
      rw [first] at run
      rw [List.foldl_cons, ← step b a next first]
      exact ih run

namespace Options

/-- An option that names content types. -/
structure Mention where
  negated : Bool
  types : ContentTypes
  deriving DecidableEq

/-- What an option says about content types, if it names some. -/
def Entry.mention? (entry : Entry) : Option Mention :=
  (ContentTypes.ofName? entry.name).map fun types => ⟨entry.negated, types⟩

/-- What is kept of content types behind a mention. Where nothing is kept, a negated mention takes
its types away from all of them. -/
def Mention.keep (types : ContentTypes) (mention : Mention) : ContentTypes :=
  if mention.negated then (if types = .none then .all else types).without mention.types
  else types.union mention.types

/-- What an option does to the domains, the keys and the content types. -/
structure Adds (entry : Entry) (options options' : Options) : Prop where
  domains : options'.domains =
    if entry.name = ("domain" : Text) then .ofEntries (Text.pieces '|' entry.value)
    else options.domains
  sitekeys : options'.sitekeys =
    if entry.name = ("sitekey" : Text) then sitekeysOf entry.value else options.sitekeys
  types : options'.types =
    match entry.mention? with
    | some mention => Mention.keep options.types mention
    | none => options.types

variable {options options' : Options} {entry : Entry}

/-- The names of the other options are told apart from those of content types by their spelling. -/
theorem adds_of_setNamed {name : Name} (known : named.lookup entry.name = some name)
    (set : options.setNamed name entry = .ok options') : Adds entry options options' := by
  have spelled : ∀ spelling ∈ named, ContentTypes.ofName? spelling.1 = none ∧
      (spelling.1 = ("domain" : Text) ↔ spelling.2 = .domain) ∧
      (spelling.1 = ("sitekey" : Text) ↔ spelling.2 = .sitekey) := by decide
  obtain ⟨noType, isDomain, isSitekey⟩ := spelled _ (mem_of_lookup_eq_some known)
  have noMention : entry.mention? = none := by rw [Entry.mention?, noType, Option.map_none]
  cases name with
  | matchCase | popup | thirdParty | header =>
    cases set
    constructor <;> simp_all
  | substitute | csp | domain | sitekey =>
    simp only [setNamed] at set
    split at set
    all_goals
      cases set
      try constructor <;> simp_all

/-- An option that can be read has a name of its own, names content types, or names a special
type. -/
theorem add_cases (added : options.add entry = .ok options') :
    (∃ name, named.lookup entry.name = some name ∧ options.setNamed name entry = .ok options') ∨
      named.lookup entry.name = none ∧
        ((∃ types, ContentTypes.ofName? entry.name = some types ∧
            options' = if entry.negated then options.removeType types else options.addType types) ∨
          ContentTypes.ofName? entry.name = none ∧ ∃ special,
            SpecialType.ofName? entry.name = some special ∧
              options' = options.addSpecial special) := by
  rw [add] at added
  cases known : named.lookup entry.name with
  | some name =>
    rw [known] at added
    exact .inl ⟨name, rfl, added⟩
  | none =>
    rw [known] at added
    refine .inr ⟨rfl, ?_⟩
    cases isType : ContentTypes.ofName? entry.name with
    | some types =>
      rw [isType] at added
      exact .inl ⟨types, rfl, (Except.ok.inj added).symm⟩
    | none =>
      rw [isType] at added
      refine .inr ⟨rfl, ?_⟩
      cases isSpecial : SpecialType.ofName? entry.name with
      | some special =>
        rw [isSpecial] at added
        exact ⟨special, rfl, (Except.ok.inj added).symm⟩
      | none =>
        rw [isSpecial] at added
        cases added

theorem ne_of_unnamed {name : Text} (unnamed : named.lookup entry.name = none)
    (isNamed : (named.lookup name).isSome = true) : entry.name ≠ name := by
  intro same
  rw [← same, unnamed] at isNamed
  cases isNamed

theorem adds_of_add (added : options.add entry = .ok options') : Adds entry options options' := by
  obtain ⟨name, known, set⟩ | ⟨unnamed, other⟩ := add_cases added
  · exact adds_of_setNamed known set
  have notDomain : entry.name ≠ ("domain" : Text) := ne_of_unnamed unnamed rfl
  have notSitekey : entry.name ≠ ("sitekey" : Text) := ne_of_unnamed unnamed rfl
  obtain ⟨mentioned, isType, rfl⟩ | ⟨noType, special, -, rfl⟩ := other
  · split
    · rename_i negated
      refine ⟨(if_neg notDomain).symm, (if_neg notSitekey).symm, ?_⟩
      rw [Entry.mention?, isType, removeType]
      exact (if_pos negated).symm
    · rename_i plain
      refine ⟨(if_neg notDomain).symm, (if_neg notSitekey).symm, ?_⟩
      rw [Entry.mention?, isType, addType]
      exact (if_neg plain).symm
  · obtain ⟨domains, sitekeys, types⟩ : (options.addSpecial special).domains = options.domains ∧
        (options.addSpecial special).sitekeys = options.sitekeys ∧
        (options.addSpecial special).types = options.types := by
      rw [addSpecial]
      split <;> exact ⟨rfl, rfl, rfl⟩
    refine ⟨domains.trans (if_neg notDomain).symm, sitekeys.trans (if_neg notSitekey).symm, ?_⟩
    rw [types, Entry.mention?, noType]
    rfl

end Options

end ContentBlocker
