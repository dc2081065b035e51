import ContentBlocker.FilterList.Compile
import ContentBlocker.Proofs.Text.Utf8
import Mathlib.Data.List.Forall2
import Mathlib.Data.List.TakeWhile
/-!
# The lines of a byte string

`Writes bytes lines` says what the lines of a byte string are, without saying how they are found: a
line feed ends each of them, and the last may do without if something stands on it. A byte string
has exactly the lines that `splitLines` finds. Where lines end in a carriage return and a line feed,
the carriage return stands at the end of the line. The lines of the bytes of a text are the bytes of
its lines, since no other character has the byte of a line feed in it.
-/

namespace ContentBlocker.ListSource

/-- The bytes are made up of the lines. -/
inductive Writes : List UInt8 → List (List UInt8) → Prop
  | nothing : Writes [] []
  | unended {line : List UInt8} (content : line ≠ []) (oneLine : lineFeed ∉ line) :
    Writes line [line]
  | ended {line bytes : List UInt8} {lines : List (List UInt8)} (oneLine : lineFeed ∉ line)
    (rest : Writes bytes lines) : Writes (line ++ lineFeed :: bytes) (line :: lines)

section Cut

variable {line rest : List UInt8}

theorem takeWhile_of_oneLine (oneLine : lineFeed ∉ line) :
    line.takeWhile (· != lineFeed) = line ∧ line.dropWhile (· != lineFeed) = [] := by
  have within : ∀ b ∈ line, (b != lineFeed) = true := by
    intro b member
    rw [bne_iff_ne]
    rintro rfl
    exact oneLine member
  exact ⟨List.takeWhile_eq_self_iff.2 within, List.dropWhile_eq_nil_iff.2 within⟩

theorem splitLines_ended (oneLine : lineFeed ∉ line) :
    splitLines (line ++ lineFeed :: rest) = line :: splitLines rest := by
  obtain ⟨taken, dropped⟩ := takeWhile_of_oneLine oneLine
  have found : (line ++ lineFeed :: rest).dropWhile (· != lineFeed) = lineFeed :: rest := by
    rw [List.dropWhile_append, dropped]
    rfl
  have first : (line ++ lineFeed :: rest).takeWhile (· != lineFeed) = line := by
    rw [List.takeWhile_append, taken, if_pos rfl]
    simp
  rw [splitLines]
  split
  · rename_i none
    rw [found] at none
    cases none
  · rename_i after some
    rw [found] at some
    cases some
    rw [first]

theorem splitLines_unended (content : line ≠ []) (oneLine : lineFeed ∉ line) :
    splitLines line = [line] := by
  rw [splitLines]
  split
  · exact if_neg content
  · rename_i some
    rw [(takeWhile_of_oneLine oneLine).2] at some
    cases some

end Cut

variable {bytes : List UInt8} {lines : List (List UInt8)}

theorem Writes.splitLines_eq (writes : Writes bytes lines) : splitLines bytes = lines := by
  induction writes with
  | nothing => simp [splitLines]
  | unended content oneLine => exact splitLines_unended content oneLine
  | ended oneLine _ ih => rw [splitLines_ended oneLine, ih]

theorem oneLine_takeWhile (bytes : List UInt8) :
    lineFeed ∉ bytes.takeWhile (· != lineFeed) := by
  intro member
  have other := List.mem_takeWhile_imp member
  rw [bne_self_eq_false] at other
  cases other

theorem writes_splitLines (bytes : List UInt8) : Writes bytes (splitLines bytes) := by
  fun_induction splitLines bytes with
  | case1 => exact .nothing
  | case2 bytes nothingLeft content =>
    refine .unended content ?_
    rw [List.dropWhile_eq_nil_iff] at nothingLeft
    intro member
    have other := nothingLeft _ member
    rw [bne_self_eq_false] at other
    cases other
  | case3 bytes first rest found ih =>
    have ends := List.head?_dropWhile_not (· != lineFeed) bytes
    rw [found] at ends
    obtain rfl : first = lineFeed := by simpa using ends
    have split := List.takeWhile_append_dropWhile (p := (· != lineFeed)) (l := bytes)
    rw [found] at split
    have written := Writes.ended (oneLine_takeWhile bytes) ih
    rwa [split] at written

/-- Lines with a line feed behind each make up a byte string. -/
theorem writes_flatMap (oneLine : ∀ line ∈ lines, lineFeed ∉ line) :
    Writes (lines.flatMap (· ++ [lineFeed])) lines := by
  induction lines with
  | nil => exact .nothing
  | cons line rest ih =>
    rw [List.forall_mem_cons] at oneLine
    rw [List.flatMap_cons, List.append_assoc, List.singleton_append]
    exact .ended oneLine.1 (ih oneLine.2)

/-- The lines of a byte string that is read to its end. -/
theorem Writes.lines_eq (writes : Writes bytes lines) :
    ListSource.lines ⟨bytes.toByteArray, none⟩ = lines := by
  rw [ListSource.lines, List.data_toByteArray]
  exact writes.splitLines_eq

/-- The byte that stands in front of a line feed where a line ends in both. -/
def carriageReturn : UInt8 := 13

/-- The bytes with a carriage return in front of every line feed. -/
def returnLines (bytes : List UInt8) : List UInt8 :=
  bytes.flatMap fun b => if b = lineFeed then [carriageReturn, lineFeed] else [b]

/-- Two lines are the same up to a carriage return at the end of the second. -/
def SameButReturn (line line' : List UInt8) : Prop :=
  line' = line ∨ line' = line ++ [carriageReturn]

theorem returnLines_of_oneLine {line : List UInt8} (oneLine : lineFeed ∉ line) :
    returnLines line = line := by
  induction line with
  | nil => rfl
  | cons b rest ih =>
    rw [List.mem_cons, not_or] at oneLine
    rw [returnLines, List.flatMap_cons, if_neg (Ne.symm oneLine.1), ← returnLines, ih oneLine.2]
    rfl

theorem Writes.returnLines (writes : Writes bytes lines) :
    ∃ lines', Writes (returnLines bytes) lines' ∧ List.Forall₂ SameButReturn lines lines' := by
  induction writes with
  | nothing => exact ⟨[], .nothing, .nil⟩
  | @unended line content oneLine =>
    refine ⟨[line], ?_, .cons (.inl rfl) .nil⟩
    rw [returnLines_of_oneLine oneLine]
    exact .unended content oneLine
  | @ended line bytes lines oneLine _ ih =>
    obtain ⟨lines', rest, same⟩ := ih
    refine ⟨(line ++ [carriageReturn]) :: lines', ?_, .cons (.inr rfl) same⟩
    have split : ListSource.returnLines (line ++ lineFeed :: bytes) =
        (line ++ [carriageReturn]) ++ lineFeed :: ListSource.returnLines bytes := by
      rw [ListSource.returnLines, List.flatMap_append, ← ListSource.returnLines,
        returnLines_of_oneLine oneLine, List.append_assoc]
      rfl
    rw [split]
    refine .ended ?_ rest
    rw [List.mem_append, not_or]
    exact ⟨oneLine, by decide⟩

end ContentBlocker.ListSource

namespace ContentBlocker

namespace Text

/-- The lines of a text. A line feed ends each of them, and the last may do without if something
stands on it. -/
def lines : Text → List Text
  | [] => []
  | c :: t =>
    if c = '\n' then [] :: lines t
    else match lines t with
      | [] => [[c]]
      | line :: rest => (c :: line) :: rest

/-- The lines of a text are its pieces between line feeds, up to an empty one at the end. -/
theorem pieces_eq_lines (t : Text) : pieces '\n' t = t.lines ∨ pieces '\n' t = t.lines ++ [[]] := by
  induction t with
  | nil => exact .inr rfl
  | cons c t ih =>
    rw [pieces, lines]
    by_cases ends : c = '\n'
    · rw [if_pos ends, if_pos ends]
      exact ih.imp (congrArg _) (congrArg _)
    · rw [if_neg ends, if_neg ends]
      rcases ih with same | same
      · rw [same]
        cases lines t <;> simp
      · rw [same]
        cases lines t <;> simp

theorem takeWhile_eq_head_lines (t : Text) :
    t.takeWhile (· != '\n') = t.lines.head?.getD [] := by
  induction t with
  | nil => rfl
  | cons c t ih =>
    rw [lines]
    by_cases ends : c = '\n'
    · simp [ends]
    · rw [if_neg ends, List.takeWhile_cons_of_pos (by simpa using ends), ih]
      cases lines t <;> rfl

theorem lineFeed_not_mem_utf8EncodeChar {c : Char} (other : c ≠ '\n') :
    ListSource.lineFeed ∉ String.utf8EncodeChar c := by
  have number : c.val.toNat ≠ 10 := fun same => other (Char.toNat_inj.1 same)
  have feed : (10 : UInt8).toNat = 10 := rfl
  unfold String.utf8EncodeChar ListSource.lineFeed
  generalize c.val.toNat = n at number
  dsimp only
  repeat' split
  all_goals
    simp only [List.mem_cons, List.not_mem_nil, or_false, ← UInt8.toNat_inj, feed,
      UInt8.toNat_ofNat']
    omega

end Text

namespace ListSource

/-- Bytes without line feed may be put in front of the first line. -/
theorem Writes.front {front bytes line : List UInt8} {lines : List (List UInt8)}
    (oneLine : lineFeed ∉ front) (writes : Writes bytes (line :: lines)) :
    Writes (front ++ bytes) ((front ++ line) :: lines) := by
  cases writes with
  | unended content rest =>
    exact .unended (List.append_ne_nil_of_right_ne_nil front content)
      (List.not_mem_append oneLine rest)
  | ended first rest =>
    rw [← List.append_assoc]
    exact .ended (List.not_mem_append oneLine first) rest

theorem Writes.eq_nil {bytes : List UInt8} (writes : Writes bytes []) : bytes = [] := by
  cases writes
  rfl

/-- The lines of the bytes of a text are the bytes of its lines. -/
theorem writes_toBytes (text : Text) : Writes text.toBytes (text.lines.map Text.toBytes) := by
  induction text with
  | nil => exact .nothing
  | cons c text ih =>
    rw [Text.toBytes_cons, Text.lines]
    by_cases ends : c = '\n'
    · rw [if_pos ends, ends, List.map_cons]
      exact .ended List.not_mem_nil ih
    · have oneLine := Text.lineFeed_not_mem_utf8EncodeChar ends
      rw [if_neg ends]
      cases lines : Text.lines text with
      | nil =>
        rw [lines] at ih
        rw [ih.eq_nil, List.append_nil, List.map_singleton, Text.toBytes_cons, Text.toBytes_nil,
          List.append_nil]
        exact .unended String.utf8EncodeChar_ne_nil oneLine
      | cons line rest =>
        rw [lines, List.map_cons] at ih
        rw [List.map_cons, Text.toBytes_cons]
        exact ih.front oneLine

theorem lines_encode (text : Text) :
    ListSource.lines ⟨text.encode, none⟩ = text.lines.map Text.toBytes := by
  have written := (writes_toBytes text).lines_eq
  rwa [Text.toBytes_eq_flatMap, ← Text.encode_eq_flatMap] at written

end ListSource

theorem lineText?_toBytes (text : Text) : lineText? text.toBytes = some text := by
  rw [lineText?, Text.toBytes_eq_flatMap, ← Text.encode_eq_flatMap, Text.decode?_encode]

end ContentBlocker
