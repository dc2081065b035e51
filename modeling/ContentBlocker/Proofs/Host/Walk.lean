import ContentBlocker.Host.LookupKeys
import ContentBlocker.Proofs.Host.Domain
import Mathlib.Tactic.Common
/-!
# The keys that a walk finds

A walk along the dots of a host finds the host and what follows each of its dots. It then starts
again and finds the same of what stands in front of the registry, each time with the dot behind it.
Once no key is left, none is found again.
-/

namespace ContentBlocker.Host

/-- `name`, and what follows each of its dots. -/
def dotSuffixes : Text → List Text
  | [] => [[]]
  | c :: rest => (c :: rest) :: (if c = '.' then dotSuffixes rest else (dotSuffixes rest).tail)

theorem dotSuffixes_of_not_mem {t : Text} (noDot : '.' ∉ t) : dotSuffixes t = [t] := by
  induction t with
  | nil => rfl
  | cons c t ih =>
    simp only [List.mem_cons, not_or] at noDot
    simp [dotSuffixes, Ne.symm noDot.1, ih noDot.2]

theorem dotSuffixes_append {a : Text} (noDot : '.' ∉ a) (rest : Text) :
    dotSuffixes (a ++ '.' :: rest) = (a ++ '.' :: rest) :: dotSuffixes rest := by
  induction a with
  | nil => simp [dotSuffixes]
  | cons c a ih =>
    simp only [List.mem_cons, not_or] at noDot
    simp [dotSuffixes, Ne.symm noDot.1, ih noDot.2]

namespace KeyWalk

/-- What the `n`-th look for a key finds. -/
def answer : Nat → KeyWalk → Option Text
  | 0, w => w.next.1
  | n + 1, w => answer n w.next.2

theorem keys_of_next_some {w rest : KeyWalk} {key : Text} (step : w.next = (some key, rest)) :
    w.keys = key :: rest.keys := by
  rw [keys]
  split
  · rename_i ended
    rw [step] at ended
    cases ended
  · rename_i more
    rw [step] at more
    cases more
    rfl

theorem keys_of_next_none {w rest : KeyWalk} (step : w.next = (none, rest)) : w.keys = [] := by
  rw [keys]
  split
  · rfl
  · rename_i more
    rw [step] at more
    cases more

/-- A walk that finds no key stays where it is. -/
theorem next_of_none {w rest : KeyWalk} (step : w.next = (none, rest)) : rest = w := by
  unfold next at step
  split at step
  · split at step <;> cases step
  · split at step
    · cases step
      rfl
    · split at step <;> cases step
  · cases step
    rfl

/-- The keys are found one after the other, and nothing behind them. -/
theorem answer_eq (n : Nat) (w : KeyWalk) : w.answer n = w.keys[n]? := by
  induction n generalizing w with
  | zero =>
    rw [answer]
    rcases step : w.next with ⟨_ | key, rest⟩
    · rw [keys_of_next_none step]
      rfl
    · rw [keys_of_next_some step]
      rfl
  | succ n ih =>
    rw [answer, ih]
    rcases step : w.next with ⟨_ | key, rest⟩
    · rw [next_of_none step, keys_of_next_none step]
      rfl
    · rw [keys_of_next_some step]
      rfl

section Steps

variable {w : KeyWalk} {limit : Nat}

theorem nextLabel?_of_not_mem (noDot : '.' ∉ (w.host.take limit).drop w.cursor) :
    w.nextLabel? limit = none := by
  rw [nextLabel?, List.idxOf?_eq_none_iff.2 noDot]
  rfl

theorem nextLabel?_of_append {a rest : Text} (noDot : '.' ∉ a)
    (split : (w.host.take limit).drop w.cursor = a ++ '.' :: rest) :
    w.nextLabel? limit = some (w.cursor + a.length + 1) := by
  have first : (a ++ '.' :: rest).idxOf? '.' = some a.length := by
    apply List.idxOf?_eq_some_iff.2
    refine ⟨by simp, by simp, ?_⟩
    intro j inside same
    rw [List.getElem_append_left inside] at same
    exact noDot (same ▸ List.getElem_mem inside)
  rw [nextLabel?, split, first]
  rfl

/-- What is left behind a label and its dot. -/
theorem drop_behind {t a rest : Text} {i : Nat} (split : t.drop i = a ++ '.' :: rest) :
    t.drop (i + a.length + 1) = rest := by
  rw [Nat.add_assoc, ← List.drop_drop, split]
  simp

end Steps

/-- The host and the names above it are found first. -/
theorem keys_hosts {w : KeyWalk} (hosts : w.phase = .hosts) (inside : w.cursor < w.host.length)
    (noEndDot : w.host.getLast? ≠ some '.') :
    w.keys = dotSuffixes (w.host.drop w.cursor) ++ w.turned.keys := by
  induction left : w.host.length - w.cursor using Nat.strong_induction_on generalizing w with
  | _ n ih =>
    by_cases dot : '.' ∈ w.host.drop w.cursor
    · obtain ⟨a, rest, split, noDot⟩ := List.eq_append_cons_of_mem dot
      have label : w.nextLabel? w.host.length = some (w.cursor + a.length + 1) := by
        apply nextLabel?_of_append noDot
        rw [List.take_length, split]
      have behind := drop_behind split
      have named : rest ≠ [] := by
        rintro rfl
        apply noEndDot
        rw [← List.take_append_drop w.cursor w.host, split, ← List.append_assoc,
          List.getLast?_concat]
      have inside' : w.cursor + a.length + 1 < w.host.length := by
        apply Nat.lt_of_not_le
        intro outside
        rw [List.drop_eq_nil_of_le outside] at behind
        exact named behind.symm
      have step : w.next = (some (w.host.drop w.cursor),
          { w with cursor := w.cursor + a.length + 1 }) := by
        rw [next, hosts]
        simp only [label, if_pos inside']
      have more : ({ w with cursor := w.cursor + a.length + 1 } : KeyWalk).keys =
          dotSuffixes rest ++ w.turned.keys := by
        rw [← behind]
        exact ih (w.host.length - (w.cursor + a.length + 1)) (by omega) hosts inside' noEndDot rfl
      rw [keys_of_next_some step, more, split, dotSuffixes_append noDot]
      rfl
    · have label : w.nextLabel? w.host.length = none := by
        apply nextLabel?_of_not_mem
        rwa [List.take_length]
      have step : w.next = (some (w.host.drop w.cursor), w.turned) := by
        rw [next, hosts]
        simp only [label]
      rw [keys_of_next_some step, dotSuffixes_of_not_mem dot]
      rfl

/-- Then the names without the registry are found. -/
theorem keys_wildcards {w : KeyWalk} {last : Nat} (wildcards : w.phase = .wildcards)
    (ends : w.wildcardEnd = some last) (dotThere : w.host[last]? = some '.')
    (inside : w.cursor ≤ last) :
    w.keys = (dotSuffixes ((w.host.take last).drop w.cursor)).map (· ++ ['.']) := by
  induction left : last - w.cursor using Nat.strong_induction_on generalizing w with
  | _ n ih =>
    have whole : last < w.host.length := (List.getElem?_eq_some_iff.1 dotThere).1
    have key : (w.host.take (last + 1)).drop w.cursor =
        (w.host.take last).drop w.cursor ++ ['.'] := by
      rw [List.take_add_one, dotThere, List.drop_append_of_le_length]
      · rfl
      · rw [List.length_take]
        omega
    by_cases dot : '.' ∈ (w.host.take last).drop w.cursor
    · obtain ⟨a, rest, split, noDot⟩ := List.eq_append_cons_of_mem dot
      have label := nextLabel?_of_append noDot split
      have inside' : w.cursor + a.length + 1 ≤ last := by
        have length := congrArg List.length split
        simp at length
        omega
      have step : w.next = (some ((w.host.take (last + 1)).drop w.cursor),
          { w with cursor := w.cursor + a.length + 1 }) := by
        rw [next, wildcards]
        simp only [ends, label]
      have more : ({ w with cursor := w.cursor + a.length + 1 } : KeyWalk).keys =
          (dotSuffixes rest).map (· ++ ['.']) := by
        rw [← drop_behind split]
        exact ih (last - (w.cursor + a.length + 1)) (by omega) wildcards ends dotThere inside' rfl
      rw [keys_of_next_some step, more, key, split, dotSuffixes_append noDot]
      rfl
    · have label := nextLabel?_of_not_mem dot
      have step : w.next = (some ((w.host.take (last + 1)).drop w.cursor),
          { w with phase := .done }) := by
        rw [next, wildcards]
        simp only [ends, label]
      have ended : ({ w with phase := .done } : KeyWalk).keys = [] := keys_of_next_none rfl
      rw [keys_of_next_some step, ended, dotSuffixes_of_not_mem dot, key]
      rfl

section Start

variable {suffixOf : List Text → PublicSuffix} {host registry stem : Text}

theorem start_of_noEndDot (noEndDot : host.getLast? ≠ some '.') : start suffixOf host =
    { host, cursor := 0,
      wildcardEnd := ((registryUnder? suffixOf host).filter fun registry =>
        registry.length < host.length).map fun registry => host.length - registry.length - 1,
      phase := if host = [] then .done else .hosts } := by
  rw [start, withoutEndDots_eq_self noEndDot]

theorem keys_start_nil : (start suffixOf []).keys = [] := keys_of_next_none rfl

/-- The keys of a host without registry, or which is a registry. -/
theorem keys_start_of_no_stem (named : host ≠ []) (noEndDot : host.getLast? ≠ some '.')
    (bare : ∀ registry, registryUnder? suffixOf host = some registry → registry = host) :
    (start suffixOf host).keys = dotSuffixes host := by
  have noStem : ((registryUnder? suffixOf host).filter fun registry =>
      registry.length < host.length) = none := by
    rw [Option.filter_eq_none_iff]
    intro registry found
    simp [bare registry found]
  rw [start_of_noEndDot noEndDot, noStem, if_neg named, keys_hosts rfl]
  · have ended : ({ host, cursor := 0, wildcardEnd := none, phase := .done } : KeyWalk).keys = [] :=
      keys_of_next_none rfl
    exact (congrArg _ ended).trans (List.append_nil _)
  · exact List.length_pos_iff.2 named
  · exact noEndDot

/-- The keys of a host with something in front of its registry. -/
theorem keys_start_of_stem (noEndDot : host.getLast? ≠ some '.')
    (found : registryUnder? suffixOf host = some registry) (cut : host = stem ++ '.' :: registry) :
    (start suffixOf host).keys = dotSuffixes host ++ (dotSuffixes stem).map (· ++ ['.']) := by
  have length : host.length = stem.length + registry.length + 1 := by
    rw [cut, List.length_append, List.length_cons, Nat.add_assoc]
  have named : host ≠ [] := List.ne_nil_of_length_eq_add_one length
  have last : (((registryUnder? suffixOf host).filter fun registry =>
      registry.length < host.length).map fun registry => host.length - registry.length - 1) =
        some stem.length := by
    rw [found, Option.filter_some, if_pos (decide_eq_true (by omega)), Option.map_some]
    congr 1
    omega
  have dot : host[stem.length]? = some '.' := by
    rw [cut]
    simp
  have stems : ({ host, cursor := 0, wildcardEnd := some stem.length, phase := .wildcards } :
      KeyWalk).keys = (dotSuffixes stem).map (· ++ ['.']) := by
    have front : (host.take stem.length).drop 0 = stem := by
      rw [cut]
      simp
    rw [keys_wildcards rfl rfl dot (Nat.zero_le _)]
    simp only [front]
  rw [start_of_noEndDot noEndDot, last, if_neg named, keys_hosts rfl]
  · exact congrArg _ stems
  · exact List.length_pos_iff.2 named
  · exact noEndDot

end Start

end KeyWalk

end ContentBlocker.Host
