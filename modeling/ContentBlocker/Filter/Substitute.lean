import ContentBlocker.Text.Basic
/-!
# Substitutes

The resources to which a filter may redirect a request, each with a name, a number in the index
format and an address that holds its content.
-/

namespace ContentBlocker

/-- A resource that stands in for the requested one. -/
inductive Substitute where
  /-- a name that is not listed; nothing is redirected to it -/
  | unlisted
  | blankText
  | blankCss
  | blankScript
  | blankHtml
  | blankAudio
  | blankVideo
  | gif1x1
  | png2x2
  | png3x2
  | png32x32
  deriving DecidableEq, Repr

namespace Substitute

/-- All resources in the order of their numbers. -/
def all : List Substitute :=
  [.unlisted, .blankText, .blankCss, .blankScript, .blankHtml, .blankAudio,
    .blankVideo, .gif1x1, .png2x2, .png3x2, .png32x32]

/-- The number of a resource in the index format. -/
def number : Substitute → Nat
  | unlisted => 0
  | blankText => 1
  | blankCss => 2
  | blankScript => 3
  | blankHtml => 4
  | blankAudio => 5
  | blankVideo => 6
  | gif1x1 => 7
  | png2x2 => 8
  | png3x2 => 9
  | png32x32 => 10

/-- The resource with a number. -/
def ofNumber? (n : Nat) : Option Substitute := all[n]?

/-- The resources by name. -/
def named : List (Text × Substitute) :=
  [("blank-text", .blankText),
    ("blank-css", .blankCss),
    ("blank-js", .blankScript),
    ("blank-html", .blankHtml),
    ("blank-mp3", .blankAudio),
    ("blank-mp4", .blankVideo),
    ("1x1-transparent-gif", .gif1x1),
    ("2x2-transparent-png", .png2x2),
    ("3x2-transparent-png", .png3x2),
    ("32x32-transparent-png", .png32x32)]

/-- The resource of a name. -/
def ofName (name : Text) : Substitute := (named.lookup name).getD .unlisted

/-- The address that holds the content of a resource. -/
def dataUrl? : Substitute → Option Text
  | unlisted => none
  | blankText => some "data:text/plain,"
  | blankCss => some "data:text/css,"
  | blankScript => some "data:application/javascript,"
  | blankHtml => some "data:text/html,<!DOCTYPE html><html><head></head><body></body></html>"
  | blankAudio => some "data:audio/mpeg;base64,"
  | blankVideo => some "data:video/mp4;base64,"
  | gif1x1 =>
    some "data:image/gif;base64,R0lGODlhAQABAIAAAAAAAP///yH5BAEAAAAALAAAAAABAAEAAAIBRAA7"
  | png2x2 =>
    some "data:image/png;base64,iVBORw0KGgoAAAANSUhEUgAAAAIAAAACCAYAAABytg0kAAAAC0lEQVR42mNgQAcAABIAAeRVjecAAAAASUVORK5CYII="
  | png3x2 =>
    some "data:image/png;base64,iVBORw0KGgoAAAANSUhEUgAAAAMAAAACCAYAAACddGYaAAAAC0lEQVR42mNgwAUAABoAAS+Yl6YAAAAASUVORK5CYII="
  | png32x32 =>
    some "data:image/png;base64,iVBORw0KGgoAAAANSUhEUgAAACAAAAAgCAYAAABzenr0AAAAGklEQVR42u3BAQEAAACCIP+vbkhAAQAAAO8GECAAAcm1w7EAAAAASUVORK5CYII="

theorem ofNumber?_number (r : Substitute) : ofNumber? r.number = some r := by
  cases r <;> rfl

end Substitute

end ContentBlocker
