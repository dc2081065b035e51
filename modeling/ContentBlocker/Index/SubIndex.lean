import ContentBlocker.Filter.Basic
/-!
# Sub-indexes

A compiled index keeps the filters of each purpose apart: those on addresses by what they apply to
and by category, those that switch something off, those on elements by kind, and those that run
calls. A filter may stand in several sub-indexes.
-/

namespace ContentBlocker

/-- What a filter on addresses applies to. -/
inductive UrlPurpose where
  | subresource
  | popup
  | csp
  | substitute
  | header
  deriving DecidableEq, Repr

/-- One of the lookup tables of an index. -/
inductive SubIndex where
  | url (purpose : UrlPurpose) (category : Category)
  | special (type : SpecialType)
  | content (kind : ContentKind)
  | snippet
  deriving DecidableEq, Repr

namespace SubIndex

/-- All sub-indexes in the order of their numbers, with the names by which they are reported. -/
def named : List (SubIndex × String) :=
  [(url .subresource .blocking, "url_subresource_block"),
    (url .subresource .allowing, "url_subresource_allow"),
    (url .popup .blocking, "url_popup_block"),
    (url .popup .allowing, "url_popup_allow"),
    (special .document, "url_document_allow"),
    (special .elemhide, "url_elemhide_allow"),
    (special .genericblock, "url_genericblock_allow"),
    (special .generichide, "url_generichide_allow"),
    (url .csp .blocking, "url_csp_block"),
    (url .csp .allowing, "url_csp_allow"),
    (url .substitute .blocking, "url_rewrite_block"),
    (url .substitute .allowing, "url_rewrite_allow"),
    (url .header .blocking, "url_header_block"),
    (url .header .allowing, "url_header_allow"),
    (content .hide, "elemhide"),
    (content .hideException, "elemhide_exception"),
    (content .emulation, "elemhide_emulation"),
    (content .remove, "remove"),
    (content .inlineCss, "inline_css"),
    (snippet, "snippet")]

/-- All sub-indexes in the order of their numbers. -/
def all : List SubIndex := named.map Prod.fst

/-- The name by which a sub-index is reported. -/
def name (index : SubIndex) : String := (named.lookup index).getD ""

/-- The number of a sub-index in the index format, from one up. -/
def number (index : SubIndex) : Nat := all.idxOf index + 1

/-- The sub-index with a number. -/
def ofNumber? : Nat → Option SubIndex
  | 0 => none
  | n + 1 => all[n]?

theorem mem_all (index : SubIndex) : index ∈ all := by
  rcases index with ⟨_ | _ | _ | _ | _, _ | _⟩ | ⟨_ | _ | _ | _⟩ | ⟨_ | _ | _ | _ | _⟩ | _ <;>
    decide

theorem ofNumber?_number (index : SubIndex) : ofNumber? index.number = some index := by
  rcases index with ⟨_ | _ | _ | _ | _, _ | _⟩ | ⟨_ | _ | _ | _⟩ | ⟨_ | _ | _ | _ | _⟩ | _ <;>
    rfl

end SubIndex

end ContentBlocker
