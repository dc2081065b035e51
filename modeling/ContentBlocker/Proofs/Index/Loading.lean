import ContentBlocker.Proofs.Index.Gathering
import ContentBlocker.Proofs.Index.Records
import ContentBlocker.Proofs.Index.Tables
/-!
# Loading what a builder writes

`Snapshot.Contains` lists what a loaded index has of a builder: its texts, domain lists, records,
metadata and posted keys. `Builder.load_toBytes` says that loading accepts the buffer of every
builder and yields such an index, provided that the buffer is small enough for its positions.
-/

namespace ContentBlocker

open Bytes

/-- The index contains what the builder has gathered. -/
structure Snapshot.Contains (s : Snapshot) (b : Builder) (metadata : Metadata) (source : Text) :
    Prop where
  sectionsFit : ∀ id, (s.sectionBytes id).size < 2 ^ 32
  texts : Extends s.textBytes b.strings.bytes
  textsFit : s.textBytes.size < 2 ^ 32
  lists : s.sectionBytes .domainLists = b.lists.bytes
  urls : s.sectionBytes .urlFilters = (Builder.recordSection UrlRecord.bytes b.urls).toByteArray
  contents : s.sectionBytes .contentFilters =
    (Builder.recordSection ContentRecord.bytes b.contents).toByteArray
  snippets : s.sectionBytes .snippetFilters =
    (Builder.recordSection SnippetRecord.bytes b.snippets).toByteArray
  calls : s.sectionBytes .snippetCalls =
    (Builder.recordSection CallRecord.bytes b.calls).toByteArray
  arguments : s.sectionBytes .snippetArguments =
    (b.arguments.toList.flatMap StringRef.bytes).toByteArray
  metadata : ∃ refs, List.Forall₂ (StringRef.LeadsTo s.textBytes) refs
      [source, metadata.title, metadata.version, metadata.homepage] ∧
    s.sectionBytes .metadata = (refs.flatMap StringRef.bytes ++
      le32 (UInt32.ofNat (min metadata.expires 0xffffffff))).toByteArray
  keys : ∀ index, s.HoldsKeys b.postings.toList index

namespace Layout

/-- No section is longer than the buffer. -/
theorem length_le_length_assemble {sections : List (List UInt8)} {content : List UInt8}
    (there : content ∈ sections) : content.length ≤ (assemble sections).length := by
  have inBodies : (padded content).length ≤ (sections.flatMap padded).length :=
    (List.sublist_flatten_of_mem (List.mem_map_of_mem there)).length_le
  have longer : content.length ≤ (padded content).length := by
    rw [length_padded]
    exact le_align _
  simp only [assemble, body, List.length_append]
  omega

end Layout

theorem StringPool.length_toBytes (pool : StringPool) :
    pool.toBytes.length = 4 + pool.bytes.size := by
  rw [toBytes, List.length_append, length_le32, length_toList]

/-- The texts of an index are the bytes of the pool in its string section. -/
theorem Snapshot.textBytes_eq {s : Snapshot} {pool : StringPool}
    (section_eq : s.sectionBytes .strings = pool.toBytes.toByteArray)
    (fits : pool.toBytes.length < 2 ^ 32) : s.textBytes = pool.bytes := by
  rw [StringPool.length_toBytes] at fits
  have stands := StandsAt.self pool.toBytes
  rw [StringPool.toBytes] at stands
  have size := natAt_of_standsAt stands.left
  have bytes := (stands.right_of_length (length_le32 _)).slice?
  rw [toNat_ofNat_of_lt (by omega)] at size
  rw [length_toList, Nat.zero_add, toByteArray_toList] at bytes
  rw [textBytes, section_eq, StringPool.toBytes]
  rw [size, sliceOrEmpty, bytes, Option.getD_some]

namespace Builder

theorem load_toBytes {b : Builder} (sound : b.strings.Sound) (metadata : Metadata) (source : Text)
    (fits : (b.toBytes metadata source).size < 2 ^ 32) :
    ∃ s, Snapshot.load (b.toBytes metadata source) = .ok s ∧ s.Contains b metadata source := by
  rw [toBytes, List.size_toByteArray] at fits
  obtain ⟨written, more⟩ := tables_written sound
  obtain ⟨-, more', leads⟩ := StringPool.internAll_spec written.strings
    [source, metadata.title, metadata.version, metadata.homepage]
  have small : ∀ content ∈ b.sections metadata source, content.length < 2 ^ 32 :=
    fun content there => Nat.lt_of_le_of_lt (Layout.length_le_length_assemble there) fits
  have last : tableSection b.tables.tables ∈ b.sections metadata source := by simp [sections]
  obtain ⟨tables, readTables, keys⟩ := written.read (small _ last)
  obtain ⟨s, loaded, tablesOf, sectionOf⟩ :=
    Snapshot.load_assemble (b.sections metadata source) rfl fits
      fun content there => by cases there; exact readTables
  have textBytes := Snapshot.textBytes_eq (sectionOf .strings _ rfl) (small _ List.mem_cons_self)
  have sectionsFit : ∀ id, (s.sectionBytes id).size < 2 ^ 32 := by
    intro id
    have bound : id.number - 1 < (b.sections metadata source).length := by
      have := id.number_le
      have := id.number_pos
      rw [show (b.sections metadata source).length = SectionId.all.length from rfl]
      omega
    rw [sectionOf id _ (List.getElem?_eq_getElem bound), List.size_toByteArray]
    exact small _ (List.getElem_mem bound)
  have extends_texts : Extends s.textBytes b.tables.strings.bytes := textBytes ▸ more'
  refine ⟨s, loaded, ?_⟩
  exact
    { sectionsFit
      texts := extends_texts.trans more
      textsFit := by
        have bound := small _ List.mem_cons_self
        rw [StringPool.length_toBytes] at bound
        rw [textBytes]
        omega
      lists := by rw [sectionOf .domainLists _ rfl, toByteArray_toList]
      urls := sectionOf .urlFilters _ rfl
      contents := sectionOf .contentFilters _ rfl
      snippets := sectionOf .snippetFilters _ rfl
      calls := sectionOf .snippetCalls _ rfl
      arguments := sectionOf .snippetArguments _ rfl
      metadata := ⟨_, textBytes ▸ leads, sectionOf .metadata _ rfl⟩
      keys := keys s tablesOf (sectionOf .tables _ rfl)
        (by rw [sectionOf .postings _ rfl, toByteArray_toList]) extends_texts }

/-- The index of filters is loaded, and has what the builder gathers from them. -/
theorem load_ofFilters {filters : List Filter} {metadata : Metadata} {source : Text}
    (fits : (buildIndex filters metadata source).size < 2 ^ 32) :
    ∃ s, Snapshot.load (buildIndex filters metadata source) = .ok s ∧
      s.Contains (ofFilters filters) metadata source :=
  load_toBytes (gathered_ofFilters filters).strings metadata source fits

end Builder

/-- An index has the size of the sections that it is assembled from. -/
theorem size_buildIndex_lt {filters : List Filter} {metadata : Metadata} {source : Text}
    (small : (Layout.assemble ((Builder.ofFilters filters).sections metadata source)).length <
      2 ^ 32) : (buildIndex filters metadata source).size < 2 ^ 32 := by
  rwa [buildIndex, Builder.toBytes, List.size_toByteArray]

end ContentBlocker
