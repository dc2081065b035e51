import ContentBlocker.Proofs.Pattern.Meaning
import Mathlib.Tactic.Common
/-!
# Reading a pattern whose bars stand at its ends

The bars of such a pattern are the only ones that the reader finds, so its parts are those of the
text between the bars, without the wildcards that say nothing. Where nothing else is left, a bar at
the end is read as one at the beginning: a pattern of wildcards and a bar behind them occurs in
every address, and so does its reading.
-/

namespace ContentBlocker.Pattern

open AddressPattern

variable {matchCase : Bool} {opening : Opening} {closed : Bool} {text middle pattern url : Text}

theorem splitOpening_bars (held : opening ≠ .host → text.head? ≠ some '|') :
    splitOpening (bars opening ++ text) = (opening, text) := by
  cases opening with
  | host => rfl
  | address =>
    rcases text with _ | ⟨c, text⟩
    · rfl
    · have other : c ≠ '|' := by simpa using held (by decide)
      simp [bars, splitOpening, other]
  | anywhere =>
    rcases text with _ | ⟨c, text⟩
    · rfl
    · have other : c ≠ '|' := by simpa using held (by decide)
      simp [bars, splitOpening, other]

theorem matches_iff_found : Matches matchCase pattern url ↔
    Found matchCase (splitOpening pattern).1 (splitOpening pattern).2 url := by
  rcases pattern with _ | ⟨c, _ | ⟨d, rest⟩⟩
  · exact Iff.rfl
  · by_cases bar : c = '|' <;> simp [Matches, splitOpening, bar]
  · by_cases bar : c = '|' <;> by_cases again : d = '|' <;>
      simp [Matches, splitOpening, bar, again]

theorem splitEnd_closing (noBar : '|' ∉ text) :
    splitEnd (text ++ closing closed) = (text, closed && text.getLast? != some '^') := by
  cases closed with
  | true =>
    rw [splitEnd, closing, if_pos rfl, Text.dropLast?_eq_some.2 rfl, Bool.true_and]
  | false =>
    have none : Text.dropLast? '|' text = none := by
      rw [Option.eq_none_iff_forall_ne_some]
      intro rest dropped
      rw [Text.dropLast?_eq_some.1 dropped] at noBar
      simp at noBar
    rw [closing, if_neg Bool.false_ne_true, List.append_nil, splitEnd, none, Bool.false_and]

theorem head?_append_closing (noBar : '|' ∉ text)
    (held : text = [] → closed = true → opening = .host) (other : opening ≠ .host) :
    (text ++ closing closed).head? ≠ some '|' := by
  intro bar
  rcases text with _ | ⟨c, text⟩
  · cases closed with
    | false => cases bar
    | true => exact other (held rfl rfl)
  · obtain rfl := Option.some.inj bar
    exact noBar List.mem_cons_self

theorem parse_of_body (noBar : '|' ∉ text) (held : text = [] → closed = true → opening = .host)
    (left : body pattern = bars opening ++ (text ++ closing closed)) :
    parse pattern = ⟨opening, text.map .ofChar, closed && text.getLast? != some '^'⟩ := by
  rw [parse, left, splitOpening_bars (head?_append_closing noBar held)]
  simp only [splitEnd_closing noBar]

theorem matches_bars (noBar : '|' ∉ middle) (held : middle = [] → closed = true → opening = .host) :
    Matches matchCase (bars opening ++ (middle ++ closing closed)) url ↔
      Found matchCase opening (middle ++ closing closed) url := by
  rw [matches_iff_found, splitOpening_bars (head?_append_closing noBar held)]

/-- What is left between the bars of a pattern when wildcards side by side count as one, and one at
the beginning that no bar stands in front of is gone. -/
def thinned (opening : Opening) (middle : Text) : Text :=
  if opening = .anywhere then (Text.dropFirst? '*' (collapse middle)).getD (collapse middle)
  else collapse middle

/-- What is left when a wildcard at the end that no bar stands behind is gone too. -/
def remaining (opening : Opening) (closed : Bool) (middle : Text) : Text :=
  if closed then thinned opening middle
  else (Text.dropLast? '*' (thinned opening middle)).getD (thinned opening middle)

theorem collapse_append_closing (t : Text) (closed : Bool) :
    collapse (t ++ closing closed) = collapse t ++ closing closed := by
  cases closed with
  | false => simp [closing]
  | true => exact collapse_append t [] (by decide)

theorem collapse_bars (opening : Opening) (t : Text) :
    collapse (bars opening ++ t) = bars opening ++ collapse t := by
  cases opening with
  | anywhere => rfl
  | address => exact collapse_cons t (by decide)
  | host =>
    refine (collapse_cons ('|' :: t) (by decide)).trans ?_
    rw [collapse_cons t (by decide)]
    rfl

theorem head?_closing (closed : Bool) : (closing closed).head? ≠ some '*' := by
  cases closed <;> decide

theorem getLast?_bars (opening : Opening) : (bars opening).getLast? ≠ some '*' := by
  cases opening <;> decide

theorem body_bars : body (bars opening ++ (middle ++ closing closed)) =
    bars opening ++ (remaining opening closed middle ++ closing closed) := by
  have first : (Text.dropFirst? '*' (bars opening ++ (collapse middle ++ closing closed))).getD
        (bars opening ++ (collapse middle ++ closing closed)) =
      bars opening ++ (thinned opening middle ++ closing closed) := by
    cases opening with
    | anywhere => exact Text.dropFirst?_append_getD (head?_closing closed)
    | address => rfl
    | host => rfl
  rw [body, collapse_bars, collapse_append_closing]
  simp only [first]
  rw [Text.dropLast?_append_getD (getLast?_bars opening), remaining]
  cases closed with
  | false => simp [closing]
  | true =>
    have other : Text.dropLast? '*' (thinned opening middle ++ ['|']) = none := by
      rw [Option.eq_none_iff_forall_ne_some]
      intro rest dropped
      simpa using Text.dropLast?_eq_some.1 dropped
    simp [closing, other]

theorem thinned_sublist (opening : Opening) (middle : Text) :
    (thinned opening middle).Sublist middle := by
  rw [thinned]
  split
  · exact (Text.getD_dropFirst?_sublist _ _).trans (collapse_sublist middle)
  · exact collapse_sublist middle

theorem remaining_sublist (opening : Opening) (closed : Bool) (middle : Text) :
    (remaining opening closed middle).Sublist middle := by
  rw [remaining]
  split
  · exact thinned_sublist opening middle
  · exact (Text.getD_dropLast?_sublist _ _).trans (thinned_sublist opening middle)

theorem found_thinned : Found matchCase opening (thinned opening middle ++ closing closed) url ↔
    Found matchCase opening (middle ++ closing closed) url := by
  have collapsed : Found matchCase opening (collapse middle ++ closing closed) url ↔
      Found matchCase opening (middle ++ closing closed) url := by
    simp only [Found, ← collapse_append_closing, reads_collapse]
  rw [thinned]
  split
  · rename_i any
    subst any
    rw [← Text.dropFirst?_append_getD (head?_closing closed), found_dropFirst?, collapsed]
  · exact collapsed

/-- Without the wildcards that say nothing a pattern says the same. -/
theorem found_remaining (noBar : '|' ∉ middle) :
    Found matchCase opening (remaining opening closed middle ++ closing closed) url ↔
      Found matchCase opening (middle ++ closing closed) url := by
  refine Iff.trans ?_ found_thinned
  cases closed with
  | true => exact Iff.rfl
  | false =>
    have noBar' : '|' ∉ thinned opening middle :=
      fun bar => noBar ((thinned_sublist opening middle).mem bar)
    simp [remaining, closing, Found, reads_dropLast? noBar']

/-- A pattern whose bars stand at its ends is read as parts that say what it says. -/
theorem parse_of_barsAtEnds (ends : BarsAtEnds pattern) : ∃ opening text closed, '|' ∉ text ∧
    parse pattern = ⟨opening, text.map .ofChar, closed && text.getLast? != some '^'⟩ ∧
    ∀ matchCase url, Matches matchCase pattern url ↔
      Found matchCase opening (text ++ closing closed) url := by
  obtain ⟨opening, middle, closed, rfl, noBar⟩ := ends
  have sublist := remaining_sublist opening closed middle
  have noBar' : '|' ∉ remaining opening closed middle := fun bar => noBar (sublist.mem bar)
  have parsed := fun held => parse_of_body noBar' held body_bars
  by_cases held : remaining opening closed middle = [] → closed = true → opening = .host
  · refine ⟨opening, _, closed, noBar', parsed held, ?_⟩
    intro matchCase url
    rw [found_remaining noBar, matches_bars noBar]
    rintro rfl
    exact held (List.sublist_nil.1 sublist)
  -- Only a bar behind is left, which is then read as if it stood in front.
  simp only [Classical.not_imp] at held
  obtain ⟨nothing, rfl, other⟩ := held
  cases opening with
  | host => exact absurd rfl other
  | address =>
    obtain rfl := collapse_eq_nil.1 nothing
    exact ⟨.host, [], false, by simp, rfl, fun _ _ => Iff.rfl⟩
  | anywhere =>
    refine ⟨.address, [], false, by simp, ?_, ?_⟩
    · refine parse_of_body (by simp) (by simp) (body_bars.trans ?_)
      rw [nothing]
      rfl
    · intro matchCase url
      refine iff_of_true ?_ ⟨[], url, rfl, rfl, .done⟩
      by_cases bare : middle = []
      · subst bare
        exact ⟨[], url, rfl, rfl, .done⟩
      · rw [matches_bars noBar (fun none => absurd none bare), ← found_remaining noBar, nothing]
        exact ⟨url, [], (List.append_nil url).symm, trivial, .bar⟩

end ContentBlocker.Pattern
