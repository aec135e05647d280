import DiagServer.Proofs.Text.Utf8

/-!
# The bytes of a text are ordered as its characters

Texts are compared character by character, and so are the bytes that encode them. The lead bytes of
longer forms are greater, and within one length the bits of the value stand in the bytes from the
highest down, so the first byte in which two characters differ decides as their values do. Nothing
that follows a character can change this, since no encoding of a character begins another one.
-/

namespace DiagServer.Text.Utf8

/-- The form of the smaller value is the smaller one, whatever follows. -/
theorem Form.append_lt {xs ys : List UInt8} {v w : Nat} (hx : Form xs v) (hy : Form ys w)
    (hlt : v < w) (r s : List UInt8) : xs ++ r < ys ++ s := by
  -- in each pair of forms both the bytes and the values are numbers with known ranges
  cases hx <;> cases hy <;>
    simp only [List.cons_append, List.nil_append, List.cons_lt_cons_iff, UInt8.lt_iff_toNat_lt,
      ← UInt8.toNat_inj] <;>
    omega

theorem utf8EncodeChar_append_lt {c d : Char} (h : c < d) (r s : List UInt8) :
    String.utf8EncodeChar c ++ r < String.utf8EncodeChar d ++ s :=
  (form_utf8EncodeChar c).append_lt (form_utf8EncodeChar d) h r s

theorem encodeChars_lt {cs ds : List Char} (h : cs < ds) : encodeChars cs < encodeChars ds := by
  induction h with
  | nil =>
      rename_i d ds
      rw [encodeChars_cons]
      cases hd : String.utf8EncodeChar d with
      | nil => exact absurd (hd ▸ form_utf8EncodeChar d) nofun
      | cons b bs => exact List.Lex.nil
  | cons hrest ih =>
      rw [encodeChars_cons, encodeChars_cons]
      exact List.append_left_lt ih
  | rel hcd =>
      rw [encodeChars_cons, encodeChars_cons]
      exact utf8EncodeChar_append_lt hcd _ _

/-- The smaller text has the smaller bytes. -/
theorem encode_lt {s t : String} (h : s < t) : encode s < encode t :=
  encodeChars_lt (String.lt_iff.mp h)

end DiagServer.Text.Utf8
