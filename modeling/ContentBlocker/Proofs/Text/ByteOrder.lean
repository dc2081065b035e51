import ContentBlocker.Proofs.Text.Utf8
/-!
# The order of texts is the order of their bytes

Of two characters the one with the smaller number has the smaller UTF-8 form, since longer forms
begin with greater bytes. Texts are therefore ordered by their characters as they are by their
bytes.
-/

namespace ContentBlocker.Text

/-- Whether the bytes of a text come before those of another. -/
def BytesBefore (a b : Text) : Prop := a.toBytes < b.toBytes

/-- Whatever follows, the form of a smaller character comes first. -/
theorem utf8EncodeChar_append_lt {c d : Char} (less : c < d) (s t : List UInt8) :
    String.utf8EncodeChar c ++ s < String.utf8EncodeChar d ++ t := by
  have numbers : c.val.toNat < d.val.toNat := less
  have bound : d.val.toNat < 0x110000 := by
    rcases d.valid with small | ⟨-, small⟩
    · exact Nat.lt_trans small (by decide)
    · exact small
  have twice (v : Nat) : v / 4096 = v / 64 / 64 := by omega
  have thrice (v : Nat) : v / 262144 = v / 64 / 64 / 64 := by omega
  unfold String.utf8EncodeChar
  generalize c.val.toNat = m at numbers
  generalize d.val.toNat = n at numbers bound
  -- What follows is compared only where all bytes agree, which they do not.
  by_cases rest : s < t
  all_goals
    dsimp only
    repeat' split
    all_goals
      simp only [List.cons_append, List.nil_append, List.cons_lt_cons_iff, rest,
        UInt8.lt_iff_toNat_lt, ← UInt8.toNat_inj, UInt8.toNat_ofNat', twice, thrice]
      omega

/-- Texts in the order of their characters are in the order of their bytes. -/
theorem bytesBefore_of_lt {a b : Text} (less : a < b) : BytesBefore a b := by
  unfold BytesBefore
  induction a generalizing b with
  | nil =>
    cases b with
    | nil => exact absurd less (List.lt_irrefl _)
    | cons d b =>
      obtain ⟨byte, bytes, form⟩ : ∃ byte bytes, String.utf8EncodeChar d = byte :: bytes :=
        List.exists_cons_of_ne_nil String.utf8EncodeChar_ne_nil
      rw [toBytes_nil, toBytes_cons, form]
      exact List.nil_lt_cons _ _
  | cons c a ih =>
    cases b with
    | nil => exact absurd less (List.not_lt_nil _)
    | cons d b =>
      rw [toBytes_cons, toBytes_cons]
      rcases List.cons_lt_cons_iff.1 less with smaller | ⟨rfl, tail⟩
      · exact utf8EncodeChar_append_lt smaller _ _
      · exact List.append_left_lt (ih tail)

theorem bytesBefore_iff {a b : Text} : BytesBefore a b ↔ a < b := by
  refine ⟨fun bytes => ?_, bytesBefore_of_lt⟩
  rcases Std.lt_trichotomy a b with less | same | greater
  · exact less
  · subst same
    exact absurd bytes (List.lt_irrefl _)
  · exact absurd bytes (List.lt_asymm (bytesBefore_of_lt greater))

end ContentBlocker.Text
