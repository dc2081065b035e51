import ContentBlocker.Pattern.Address
import ContentBlocker.Pattern.Engine
import ContentBlocker.Regex.Grammar
/-!
# What is assumed of an engine

Of the sources that address patterns are written as, an engine for regular expressions may be
assumed to have ordinary search semantics: a source in the usual syntax is compiled, its size aside,
and found where the expression that it writes spans some part of the text. How characters agree
that differ in case only is part of the assumption. Nothing is assumed of other sources, nor of
engines that track back.
-/

namespace ContentBlocker.RegexEngine

variable [RegexEngine]

/-- Whether a source is too large to be compiled. -/
def tooLarge (ignoreCase : Bool) (source : Text) : Bool :=
  match compileStandard ignoreCase source with
  | .error (.tooLarge _) => true
  | _ => false

/-- A compiled expression is found in the texts in which `r` occurs. -/
def Finds (compiled : Standard) (r : Regex) : Prop := ∀ s, isFound compiled s = true ↔ r.Occurs s

/-- Ordinary search semantics on the sources of address patterns. -/
structure OrdinarySearch : Prop where
  /-- a source in the usual syntax is not rejected -/
  accepts : ∀ (p : AddressPattern) (ignoreCase : Bool) (r : Regex),
    Regex.read ignoreCase p.source = .ok r →
      compileStandard ignoreCase p.source ≠ .error .rejected
  /-- with regard to case the source is found where the expression occurs that it writes -/
  exact : ∀ (p : AddressPattern) (r : Regex) (compiled : Standard),
    Regex.read false p.source = .ok r → compileStandard false p.source = .ok compiled →
      Finds compiled r
  /-- without regard to case each set of characters takes in those that simple case folding makes
  equal to a member -/
  folding : ∀ (p : AddressPattern) (r : Regex) (compiled : Standard),
    Regex.read true p.source = .ok r → compileStandard true p.source = .ok compiled →
      Finds compiled r

end ContentBlocker.RegexEngine
