import ContentBlocker.Text.Word
/-!
# Values of options

The value of a policy option may not name a directive that reports or redirects, and in the value of
a header option a comma is written as an escape, since commas separate options.
-/

namespace ContentBlocker.OptionValue

/-- The directives that a policy may not name. -/
def forbiddenDirectives : List Text :=
  ["base-uri", "referrer", "report-to", "report-uri", "upgrade-insecure-requests"]

/-- Whether a text starts, after at most one space, with a whole word that is a forbidden
directive. -/
def startsForbidden (t : Text) : Bool :=
  let t := (Text.dropFirst? ' ' t).getD t
  forbiddenDirectives.any fun directive =>
    directive.isPrefixOf t && !(t.drop directive.length).head?.any Text.isWordChar

/-- Whether a policy names no forbidden directive at its start or behind a semicolon. -/
def isAllowedPolicy (policy : Text) : Bool :=
  !(Text.pieces ';' policy).any startsForbidden

/-- Replaces each escape with another character than a backslash in front of it by a comma, from
left to right; a character that has been passed does not stand in front of the next escape. -/
def writeCommas : Text → Text
  | c :: '\\' :: 'x' :: '2' :: 'c' :: rest =>
    if c = '\\' then c :: writeCommas ('\\' :: 'x' :: '2' :: 'c' :: rest)
    else c :: ',' :: writeCommas rest
  | c :: rest => c :: writeCommas rest
  | [] => []
termination_by t => t.length
decreasing_by all_goals simp only [List.length_cons]; omega

/-- Drops the backslash of each escape. -/
def dropBackslashes : Text → Text
  | '\\' :: 'x' :: '2' :: 'c' :: rest => 'x' :: '2' :: 'c' :: dropBackslashes rest
  | c :: rest => c :: dropBackslashes rest
  | [] => []

/-- The condition that the value of a header option writes. -/
def unescapeHeader (value : Text) : Text := dropBackslashes (writeCommas value)

end ContentBlocker.OptionValue
