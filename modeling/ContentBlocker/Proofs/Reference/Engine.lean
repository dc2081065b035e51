import ContentBlocker.Proofs.Pattern.Source
import ContentBlocker.Proofs.Reference.Search
import ContentBlocker.Reference.Engine
/-!
# The engines for running the program by itself have ordinary search semantics

What they read of the source of an address pattern they find where it occurs. Whether a pattern
matches an address can therefore be computed.
-/

namespace ContentBlocker

open Regex

/-- What is made of a source that writes an expression. -/
theorem compileStandard_of_read {ignoreCase : Bool} {source : Text} {r : Regex}
    (read : Regex.read ignoreCase source = .ok r) :
    RegexEngine.compileStandard ignoreCase source =
      if r.weight ≤ weightLimit then .ok r else .error (.tooLarge weightLimit) := by
  show (Regex.parse ignoreCase source).mapError EngineFault.ofSource = _
  rw [Regex.parse, read]
  show Except.mapError _ (if _ then _ else _) = _
  split <;> rfl

namespace AddressPattern

theorem wellFormed_regex (p : AddressPattern) (mode : Mode) : (p.regex mode).WellFormed := by
  refine wellFormed_catAll fun r there => ?_
  simp only [regexes, List.mem_append, List.mem_map] at there
  rcases there with (opened | ⟨part, -, rfl⟩) | ended
  · cases opening : p.opening with
    | anywhere =>
      rw [opening] at opened
      cases opened
    | address =>
      rw [opening, Opening.regexes, List.mem_singleton] at opened
      exact opened ▸ trivial
    | host =>
      rw [opening] at opened
      simp only [Opening.regexes, List.mem_cons, List.not_mem_nil, or_false] at opened
      rcases opened with rfl | rfl | rfl | rfl | rfl <;> simp [Regex.WellFormed]
  · cases part with
    | wildcard => exact ⟨trivial, by simp⟩
    | separator => exact ⟨trivial, trivial⟩
    | literal c => trivial
  · split at ended
    · obtain rfl := List.mem_singleton.1 ended
      trivial
    · cases ended

theorem finds_of_compileStandard {p : AddressPattern} {ignoreCase : Bool} {r compiled : Regex}
    (read : Regex.read ignoreCase p.source = .ok r)
    (made : RegexEngine.compileStandard ignoreCase p.source = .ok compiled) :
    RegexEngine.Finds compiled r := by
  obtain rfl := Except.ok.inj (read.symm.trans (p.read_source ignoreCase))
  rw [compileStandard_of_read read] at made
  split at made
  · cases made
    exact occursIn_iff (p.wellFormed_regex _)
  · cases made

end AddressPattern

theorem referenceEngine_ordinarySearch : RegexEngine.OrdinarySearch where
  accepts p ignoreCase r read := by
    rw [compileStandard_of_read read]
    split <;> nofun
  exact p r compiled read made := AddressPattern.finds_of_compileStandard read made
  folding p r compiled read made := AddressPattern.finds_of_compileStandard read made

namespace AddressPattern

theorem tooLarge_source {p : AddressPattern} {ignoreCase : Bool}
    (small : (p.regex { ignoreCase }).weight ≤ weightLimit) :
    RegexEngine.tooLarge ignoreCase p.source = false := by
  rw [RegexEngine.tooLarge, compileStandard_of_read (p.read_source ignoreCase), if_pos small]

/-- A search computes whether the source of a pattern that is not too large matches. -/
theorem isMatch_compile_source_eq {p : AddressPattern} {matchCase : Bool}
    (small : (p.regex { ignoreCase := !matchCase }).weight ≤ weightLimit) (s : Text) :
    (CompiledPattern.compile p.source matchCase).isMatch s =
      (p.regex { ignoreCase := !matchCase }).occursIn s := by
  rw [Bool.eq_iff_iff, isMatch_compile_source referenceEngine_ordinarySearch,
    isValid_compile_source referenceEngine_ordinarySearch (tooLarge_source small),
    and_iff_right rfl, occursIn_iff (p.wellFormed_regex _)]

end AddressPattern

end ContentBlocker
