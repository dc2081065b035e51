import ContentBlocker.Proofs.Pattern.Members
import ContentBlocker.Proofs.Pattern.Words
/-!
# The word a pattern is filed under

Whatever address a pattern matches, the word it is filed under is a whole word of that address. The
letters of the word match the same letters up to case; what remains is that the match does not begin
or end inside a longer word of the address, and this is seen from what stands next to the word in
the pattern.

Words are made of ASCII, and so is their case. An expression that ignores case takes the Kelvin sign
for `k` and the long s for `s`, which no word contains, so these two must occur neither in the
pattern nor in the address.
-/

namespace ContentBlocker

open Regex Keyword Text

/-- No word of `s` ends at position `i`. -/
def NoWordBefore (s : Text) (i : Nat) : Prop :=
  ∀ j c, i = j + 1 → s[j]? = some c → isKeywordChar c = false

/-- No word of `s` begins at position `i`. -/
def NoWordAfter (s : Text) (i : Nat) : Prop := ∀ c, s[i]? = some c → isKeywordChar c = false

theorem Keyword.ascii_of_isKeywordChar {c : Char} (isWord : isKeywordChar c = true) :
    c.toNat < 0x80 := by
  rcases Bool.or_eq_true_iff.1 isWord with alphanum | percent
  · rcases Bool.or_eq_true_iff.1 alphanum with letter | digit
    · rw [isAlpha_iff] at letter
      omega
    · rw [isDigit_iff] at digit
      omega
  · rw [of_decide_eq_true percent]
    decide

theorem Keyword.isKeywordChar_toLower (c : Char) : isKeywordChar c.toLower = isKeywordChar c := by
  by_cases ascii : c.toNat < 0x80
  · exact of_ascii (P := fun c => isKeywordChar c.toLower = isKeywordChar c)
      (by decide +kernel) ascii
  · rw [toLower_eq_self ascii]

/-- Letters into which no longer word reaches are a word. -/
theorem Keyword.lower_mem_words {s v w : Text} (nonempty : w ≠ [])
    (word : ∀ c ∈ w, isKeywordChar c = true) {i k : Nat} (inside : i < s.length)
    (split : s.drop i = v ++ s.drop k) (same : v.lower = w.lower) (before : NoWordBefore s i)
    (after : NoWordAfter s k) : w.lower ∈ (tokens none s.lower).map Token.word := by
  have whole : s.lower = Text.lower (s.take i) ++ (w.lower ++ Text.lower (s.drop k)) := by
    rw [← same]
    simp only [Text.lower, ← List.map_append, ← split, List.take_append_drop]
  have lowerWord : ∀ c ∈ w.lower, isKeywordChar c = true := by
    intro c there
    obtain ⟨d, member, rfl⟩ := List.mem_map.1 there
    rw [isKeywordChar_toLower, word d member]
  rw [whole]
  refine mem_words lowerWord (fun c first => ?_) none (fun none => ?_) fun c last => ?_
  · rw [Text.lower, List.head?_map, List.head?_drop] at first
    obtain ⟨d, there, rfl⟩ := Option.map_eq_some_iff.1 first
    rw [isKeywordChar_toLower, after d there]
  · exact nonempty (List.map_eq_nil_iff.1 none)
  · rw [Text.lower, List.getLast?_map] at last
    obtain ⟨d, there, rfl⟩ := Option.map_eq_some_iff.1 last
    rw [isKeywordChar_toLower]
    cases i with
    | zero => cases there
    | succ j =>
      have here := List.getElem?_eq_getElem (Nat.lt_of_succ_lt inside)
      rw [List.getLast?_take, if_neg (Nat.succ_ne_zero j), Nat.add_sub_cancel, here,
        Option.some_or, ← here] at there
      exact before j d rfl there

section Matching

variable {ignoreCase : Bool} {s : Text}

/-- A literal matches its own letter, up to case. -/
theorem toLower_of_mem_literal {b c : Char} (ascii : b.toNat < 0x80)
    (hc : Unmistaken ignoreCase c) (member : (Mode.literal { ignoreCase } b).mem c = true) :
    c.toLower = b.toLower := by
  cases ignoreCase with
  | false => rw [CharSet.mem_single.1 member]
  | true => exact toLower_eq_of_sameFold hc ascii (mem_literal_ignoreCase.1 member)

theorem isKeywordChar_of_mem_literal {b c : Char} (hb : Unmistaken ignoreCase b)
    (hc : Unmistaken ignoreCase c) (member : (Mode.literal { ignoreCase } b).mem c = true) :
    isKeywordChar c = isKeywordChar b := by
  cases ignoreCase with
  | false => rw [CharSet.mem_single.1 member]
  | true =>
    have same : sameFold b c = true := mem_literal_ignoreCase.1 member
    rw [Bool.eq_iff_iff]
    constructor
    · intro isWord
      rw [sameFold_comm] at same
      have agree := toLower_eq_of_sameFold hb (ascii_of_isKeywordChar isWord) same
      rwa [← isKeywordChar_toLower, agree, isKeywordChar_toLower]
    · intro isWord
      have agree := toLower_eq_of_sameFold hc (ascii_of_isKeywordChar isWord) same
      rwa [← isKeywordChar_toLower, agree, isKeywordChar_toLower]

theorem isKeywordChar_of_isSeparator {c : Char} (separator : Pattern.isSeparator c = true) :
    isKeywordChar c = false := by
  simp only [Pattern.isSeparator, Bool.and_eq_true, Bool.not_eq_true',
    Bool.or_eq_false_iff] at separator
  rw [isKeywordChar, separator.2.1.1.1.1, separator.2.1.1.1.2, Bool.or_false]

/-- A part that is neither a wildcard nor a character of words matches no part of a word. -/
theorem noWord_of_spans_part (clear : ∀ c ∈ s, Unmistaken ignoreCase c) {b : Char}
    (hb : Unmistaken ignoreCase b) (notWild : b ≠ '*') (plain : isKeywordChar b = false) {i k : Nat}
    (span : Spans s ((PatternPart.ofChar b).regex { ignoreCase }) i k) :
    NoWordAfter s i ∧ (k < s.length → NoWordBefore s k) := by
  have one : ∀ {members : CharSet}, (∀ c, Unmistaken ignoreCase c → members.mem c = true →
      isKeywordChar c = false) → Spans s (.set members) i k →
        NoWordAfter s i ∧ (k < s.length → NoWordBefore s k) := by
    intro members none span
    obtain ⟨rfl, c, there, member⟩ := spans_set.1 span
    have notWord := none c (clear c (List.mem_of_getElem? there)) member
    constructor
    · intro d same
      rw [there, Option.some_inj] at same
      exact same ▸ notWord
    · intro _ j d last same
      obtain rfl := Nat.succ.inj last
      rw [there, Option.some_inj] at same
      exact same ▸ notWord
  rw [PatternPart.ofChar, if_neg notWild] at span
  split at span
  · cases span with
    | left span =>
      exact one (fun c _ member => isKeywordChar_of_isSeparator (mem_separators.1 member)) span
    | right span =>
      obtain ⟨rfl, -, atEnd⟩ := spans_anchor.1 span
      have ended : s[k]? = none := by
        simpa [Anchor.holdsAt, Anchor.holds, Mode.lineStop] using atEnd
      refine ⟨fun c there => ?_, fun inside => ?_⟩
      · rw [ended] at there
        cases there
      · rw [List.getElem?_eq_none_iff] at ended
        exact absurd inside (Nat.not_lt.2 ended)
  · refine one (fun c hc member => ?_) span
    rw [isKeywordChar_of_mem_literal hb hc member, plain]

theorem noWordBefore_of_spans_opening {opening : Opening} (anchored : opening ≠ .anywhere)
    {i k : Nat} (span : Spans s (catAll (opening.regexes { ignoreCase })) i k) : NoWordBefore s k := by
  have ends : ∀ {b : Char} {j : Nat}, (b.toNat < 0x80 ∧ b.isAlpha = false) →
      isKeywordChar b = false → Spans s (.set (Mode.literal { ignoreCase } b)) j k →
        NoWordBefore s k := by
    intro b j mark plain span
    obtain ⟨rfl, c, there, member⟩ := spans_set.1 span
    intro j' d last same
    obtain rfl := Nat.succ.inj last
    obtain rfl := Option.some.inj (there.symm.trans same)
    rw [(mem_literal_of_mark mark.1 mark.2).1 member, plain]
  cases opening with
  | anywhere => exact absurd rfl anchored
  | address =>
    obtain ⟨rfl, -, atStart⟩ := spans_anchor.1 span
    rintro j c rfl there
    simp [Anchor.holdsAt, Anchor.holds, Mode.lineStart, there] at atStart
  | host =>
    simp only [Opening.regexes, spans_catAll_cons] at span
    obtain ⟨_, -, _, -, _, -, m, slashes, n, labels, last⟩ := span
    obtain ⟨rfl, -⟩ := spans_empty.1 last
    by_cases bare : m = n
    · rw [bare] at slashes
      obtain ⟨j, slash⟩ := last_of_spans_repeated slashes (.inl Nat.one_pos)
      exact ends (b := '/') (by decide) (by decide) slash
    · obtain ⟨j, label⟩ := last_of_spans_repeated labels (.inr bare)
      cases label with
      | cat _ dot => exact ends (b := '.') (by decide) (by decide) dot

/-- The letters of a word match as many letters, the same up to case. -/
theorem drop_of_spans_word (clear : ∀ c ∈ s, Unmistaken ignoreCase c) {w : Text}
    (word : ∀ c ∈ w, isKeywordChar c = true) {i k : Nat}
    (span : Spans s (catAll ((w.map .literal).map (PatternPart.regex { ignoreCase }))) i k) :
    ∃ v : Text, s.drop i = v ++ s.drop k ∧ v.lower = w.lower := by
  induction w generalizing i with
  | nil =>
    obtain ⟨rfl, -⟩ := spans_empty.1 span
    exact ⟨[], rfl, rfl⟩
  | cons b w ih =>
    obtain ⟨j, first, rest⟩ := spans_catAll_cons.1 span
    obtain ⟨rfl, c, there, member⟩ := spans_set.1 first
    obtain ⟨v, split, same⟩ := ih (fun d within => word d (.tail _ within)) rest
    refine ⟨c :: v, ?_, ?_⟩
    · obtain ⟨inside, rfl⟩ := List.getElem?_eq_some_iff.1 there
      rw [List.drop_eq_getElem_cons inside, split]
      rfl
    · have hc := clear c (List.mem_of_getElem? there)
      have agree := toLower_of_mem_literal (ascii_of_isKeywordChar (word b (.head _))) hc member
      exact List.cons_eq_cons.2 ⟨agree, same⟩

/-- A word that a pattern closes is a word of every address that the pattern matches. -/
theorem AddressPattern.Closes.lower_mem_words {p : AddressPattern} {w : Text} (closes : p.Closes w)
    (clear : ∀ c ∈ s, Unmistaken ignoreCase c)
    (letters : ∀ c, .literal c ∈ p.parts → Unmistaken ignoreCase c)
    (occurs : Occurs s (p.regex { ignoreCase })) :
    w.lower ∈ (tokens none s.lower).map Token.word := by
  obtain ⟨front, back, parts, before, after⟩ := closes.split
  have letter : ∀ c, PatternPart.ofChar c ∈ p.parts → c ≠ '*' → Unmistaken ignoreCase c := by
    intro c there notWild
    rw [PatternPart.ofChar, if_neg notWild] at there
    split at there
    · rename_i separator
      exact separator ▸ unmistaken_of_ascii (by decide)
    · exact letters c there
  obtain ⟨start, stop, span⟩ := occurs
  have regexes : p.regexes { ignoreCase } =
      (p.opening.regexes { ignoreCase } ++ front.map (PatternPart.regex { ignoreCase })) ++
        ((w.map .literal).map (PatternPart.regex { ignoreCase }) ++
          (back.map (PatternPart.regex { ignoreCase }) ++
            if p.endsHere then [.anchor (Mode.lineStop { ignoreCase })] else [])) := by
    simp only [AddressPattern.regexes, parts, List.map_append, List.append_assoc]
  rw [AddressPattern.regex, regexes, spans_catAll_append] at span
  obtain ⟨i, opened, rest⟩ := span
  obtain ⟨k, matched, ended⟩ := spans_catAll_append.1 rest
  obtain ⟨v, split, same⟩ := drop_of_spans_word clear closes.word matched
  have inside : i < s.length := by
    refine Nat.lt_of_not_le fun outside => closes.nonempty ?_
    rw [List.drop_eq_nil_of_le outside] at split
    rw [(List.append_eq_nil_iff.1 split.symm).1] at same
    exact List.map_eq_nil_iff.1 same.symm
  have noWordBefore : NoWordBefore s i := by
    rcases before with ⟨init, b, rfl, notWild, plain⟩ | ⟨rfl, anchored⟩
    · rw [List.map_append, ← List.append_assoc, spans_catAll_append] at opened
      obtain ⟨j, -, last⟩ := opened
      have hb := letter b (by rw [parts]; simp) notWild
      exact (noWord_of_spans_part clear hb notWild plain last).2 inside
    · rw [List.map_nil, List.append_nil] at opened
      exact noWordBefore_of_spans_opening anchored opened
  have noWordAfter : NoWordAfter s k := by
    rcases after with ⟨a, rest, rfl, notWild, plain⟩ | ⟨rfl, anchored⟩
    · obtain ⟨j, first, -⟩ := spans_catAll_cons.1 ended
      have ha := letter a (by rw [parts]; simp) notWild
      exact (noWord_of_spans_part clear ha notWild plain first).1
    · rw [if_pos anchored] at ended
      obtain ⟨-, -, atEnd⟩ := spans_anchor.1 ended
      intro c there
      simp [Anchor.holdsAt, Anchor.holds, Mode.lineStop, there] at atEnd
  exact Keyword.lower_mem_words closes.nonempty closes.word inside split same noWordBefore
    noWordAfter

end Matching

/-- A word that a pattern may be filed under, if any, is the small form of one that counts. -/
theorem Keyword.of_filing_ne_nil {pattern : Text} (filed : filing pattern ≠ []) :
    ∃ token ∈ tokens none pattern, token.isDelimited = true ∧ isUseful token.word = true ∧
      filing pattern = token.word.lower := by
  rw [filing] at filed ⊢
  cases first : (ofPattern pattern).head? with
  | none =>
    rw [first] at filed
    exact absurd rfl filed
  | some word =>
    have member := List.mem_of_head? first
    simp only [ofPattern, List.mem_map, List.mem_filter] at member
    obtain ⟨_, ⟨⟨token, ⟨there, delimited⟩, rfl⟩, useful⟩, rfl⟩ := member
    exact ⟨token, there, delimited, useful, rfl⟩

theorem Keyword.isUseful_lower (w : Text) : isUseful w.lower = isUseful w := by
  rw [isUseful, isUseful, Text.lower_lower, Text.lower, List.length_map]

variable [RegexEngine]

/-- The word a pattern is filed under is a word of every address that the pattern matches. -/
theorem Pattern.keyword_mem_of_unmistaken (ordinary : RegexEngine.OrdinarySearch)
    {pattern url : Text} {matchCase : Bool} (written : ∀ c ∈ pattern, Unmistaken (!matchCase) c)
    (clear : ∀ c ∈ url, Unmistaken (!matchCase) c)
    (matched : (CompiledPattern.compile (source pattern) matchCase).isMatch url = true) :
    keyword pattern = [] ∨ keyword pattern ∈ Keyword.ofUrl url.lower := by
  rw [keyword]
  split
  · exact .inl rfl
  · rename_i noExpression
    refine Classical.or_iff_not_imp_left.2 fun filed => ?_
    obtain ⟨token, there, delimited, useful, filing⟩ := Keyword.of_filing_ne_nil filed
    have closes := AddressPattern.closes_parse there delimited
    rw [source_of_not_isExpression (eq_false_of_ne_true noExpression),
      AddressPattern.isMatch_compile_source ordinary] at matched
    have word := closes.lower_mem_words clear
      (fun c member => written c (AddressPattern.mem_of_literal_mem_parts member)) matched.2
    rw [filing]
    refine List.mem_filter.2 ⟨word, ?_⟩
    rw [Keyword.isUseful_lower, useful]

/-- The word a pattern is filed under is looked up for every address that the pattern matches. -/
theorem Pattern.keyword_mem (ordinary : RegexEngine.OrdinarySearch) {pattern url : Text}
    (ascii : pattern.IsAscii) (urlAscii : url.IsAscii) {matchCase : Bool}
    (matched : (CompiledPattern.compile (source pattern) matchCase).isMatch url = true) :
    keyword pattern ∈ Keyword.ofUrl url.lower ++ [[]] := by
  have filed := keyword_mem_of_unmistaken ordinary
    (fun c there => unmistaken_of_ascii (ascii c there))
    (fun c there => unmistaken_of_ascii (urlAscii c there)) matched
  rcases filed with none | word
  · exact List.mem_append_right _ (List.mem_singleton.2 none)
  · exact List.mem_append_left _ word

end ContentBlocker
