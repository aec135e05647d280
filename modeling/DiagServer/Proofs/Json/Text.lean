import DiagServer.Json.Printer
import DiagServer.Json.Token
import DiagServer.Proofs.Text.Utf8

/-!
# Written texts read back

The reader of a text gathers bytes and looks at their meaning only at the closing quote, while the
writer escapes characters. The two meet at single characters: whatever the written form of a
character is, reading it adds exactly the bytes of the character to those gathered before. A
character that is not escaped stands for itself byte by byte, because no byte of a longer encoding
is a quote, a backslash or a control.
-/

namespace DiagServer.Json

open DiagServer.Text.Utf8

/-- A byte that stands for itself in a text. -/
def IsPlain (b : UInt8) : Prop := b ≠ 0x22 ∧ b ≠ 0x5C ∧ ¬ b < 0x20

theorem readTextFrom_plain {b : UInt8} (hb : IsPlain b) (seen rest : List UInt8) :
    readTextFrom seen (b :: rest) = readTextFrom (b :: seen) rest := by
  rw [readTextFrom, if_neg hb.1, if_neg hb.2.1, if_neg hb.2.2]

theorem readTextFrom_run {run : List UInt8} (h : ∀ b ∈ run, IsPlain b) (seen rest : List UInt8) :
    readTextFrom seen (run ++ rest) = readTextFrom (run.reverse ++ seen) rest := by
  induction run generalizing seen with
  | nil => rfl
  | cons b run ih =>
      rw [List.forall_mem_cons] at h
      rw [List.cons_append, readTextFrom_plain h.1, ih h.2, List.reverse_cons, List.append_assoc]
      rfl

theorem readTextFrom_backslash {bs rest : List UInt8} {c : Char}
    (h : readEscape bs = .ok (c, rest)) (seen : List UInt8) :
    readTextFrom seen (0x5C :: bs) =
      readTextFrom ((String.utf8EncodeChar c).reverse ++ seen) rest := by
  rw [readTextFrom, if_neg (by decide), if_pos rfl]
  split
  · next h' =>
      rw [h] at h'
      cases h'
      rfl
  · next h' =>
      rw [h] at h'
      cases h'

theorem readTextFrom_quote (cs : List Char) (rest : List UInt8) :
    readTextFrom (encodeChars cs).reverse (0x22 :: rest) = .ok (String.ofList cs, rest) := by
  rw [readTextFrom, if_pos rfl, List.reverse_reverse, decode?_encodeChars]

/-- The bytes of a character that needs no escape stand for themselves. -/
theorem isPlain_of_mem {c : Char} (hquote : c ≠ '"') (hslash : c ≠ '\\')
    (hcontrol : ¬ c.toNat < 0x20) {b : UInt8} (hb : b ∈ String.utf8EncodeChar c) : IsPlain b := by
  refine ⟨?_, ?_, fun hlt => ?_⟩
  · rintro rfl
    exact hquote ((mem_utf8EncodeChar (by decide)).mp hb)
  · rintro rfl
    exact hslash ((mem_utf8EncodeChar (by decide)).mp hb)
  · have hlt : b.toNat < 0x20 := UInt8.lt_iff_toNat_lt.mp hlt
    have hvalue : c.toNat = b.toNat := by
      have hsingle := ((form_utf8EncodeChar c).mem (b := b) (by omega)).mp hb
      exact hsingle.2
    omega

/-- A hexadecimal digit of the writer is one byte, which the reader takes for its value. -/
theorem hexValue?_digitChar {k : Nat} (hk : k < 16) :
    ∃ b, String.utf8EncodeChar (Nat.digitChar k) = [b] ∧ hexValue? b = some k := by
  have hall : ∀ k : Fin 16, String.utf8EncodeChar (Nat.digitChar k) = [(Nat.digitChar k).toUInt8] ∧
      hexValue? (Nat.digitChar k).toUInt8 = some k.val := by decide
  exact ⟨_, hall ⟨k, hk⟩⟩

theorem readEscape_control {n : Nat} (hn : n < 0x20) (rest : List UInt8) :
    readEscape (encodeChars
        ['u', '0', '0', Nat.digitChar (n / 16), Nat.digitChar (n % 16)] ++ rest) =
      .ok (Char.ofNat n, rest) := by
  obtain ⟨hi, hhi, hhiv⟩ := hexValue?_digitChar (k := n / 16) (by omega)
  obtain ⟨lo, hlo, hlov⟩ := hexValue?_digitChar (k := n % 16) (by omega)
  have hbytes : encodeChars ['u', '0', '0', Nat.digitChar (n / 16), Nat.digitChar (n % 16)] =
      [0x75, 0x30, 0x30, hi, lo] := by
    rw [encodeChars_cons, encodeChars_cons, encodeChars_cons, encodeChars_cons, encodeChars_cons,
      hhi, hlo]
    rfl
  have hread : readHex4 (0x30 :: 0x30 :: hi :: lo :: rest) = .ok (n, rest) := by
    have hzero : hexValue? 0x30 = some 0 := by decide
    simp only [readHex4, hzero, hhiv, hlov, Except.ok.injEq, Prod.mk.injEq, and_true]
    omega
  rw [hbytes]
  simp only [List.cons_append, List.nil_append, readEscape, hread, bind, Except.bind]
  rw [if_neg (by omega), if_pos (by omega)]

/-- A character is escaped by a letter, escaped by its value, or not escaped. -/
theorem escape_cases (c : Char) :
    c ∈ ['"', '\\', '\x08', '\x0C', '\n', '\r', '\t'] ∨
      (c.toNat < 0x20 ∧ escape c =
        ['\\', 'u', '0', '0', Nat.digitChar (c.toNat / 16), Nat.digitChar (c.toNat % 16)]) ∨
      (c ≠ '"' ∧ c ≠ '\\' ∧ ¬ c.toNat < 0x20 ∧ escape c = [c]) := by
  by_cases hshort : c ∈ ['"', '\\', '\x08', '\x0C', '\n', '\r', '\t']
  · exact .inl hshort
  · simp only [List.mem_cons, List.not_mem_nil, or_false, not_or] at hshort
    obtain ⟨h₁, h₂, h₃, h₄, h₅, h₆, h₇⟩ := hshort
    rw [escape, if_neg h₁, if_neg h₂, if_neg h₃, if_neg h₄, if_neg h₅, if_neg h₆, if_neg h₇]
    split
    · next hcontrol => exact .inr (.inl ⟨hcontrol, rfl⟩)
    · next hcontrol => exact .inr (.inr ⟨h₁, h₂, hcontrol, rfl⟩)

/-- Reading the written form of a character adds the bytes of the character. -/
theorem readTextFrom_escape (seen : List UInt8) (c : Char) (rest : List UInt8) :
    readTextFrom seen (encodeChars (escape c) ++ rest) =
      readTextFrom ((String.utf8EncodeChar c).reverse ++ seen) rest := by
  rcases escape_cases c with hshort | ⟨hcontrol, hescape⟩ | ⟨hquote, hslash, hcontrol, hescape⟩
  · simp only [List.mem_cons, List.not_mem_nil, or_false] at hshort
    rcases hshort with rfl | rfl | rfl | rfl | rfl | rfl | rfl <;>
      exact readTextFrom_backslash rfl seen
  · have h := readTextFrom_backslash (readEscape_control hcontrol rest) seen
    rw [Char.ofNat_toNat] at h
    rw [hescape]
    exact h
  · have hbytes : encodeChars [c] = String.utf8EncodeChar c := by
      rw [encodeChars_cons, encodeChars_nil, List.append_nil]
    rw [hescape, hbytes]
    exact readTextFrom_run (fun b hb => isPlain_of_mem hquote hslash hcontrol hb) seen rest

theorem readTextFrom_escaped (before cs : List Char) (rest : List UInt8) :
    readTextFrom (encodeChars before).reverse (encodeChars (cs.flatMap escape ++ ['"']) ++ rest) =
      .ok (String.ofList (before ++ cs), rest) := by
  induction cs generalizing before with
  | nil => rw [List.append_nil]; exact readTextFrom_quote before rest
  | cons c cs ih =>
      have hstep : (String.utf8EncodeChar c).reverse ++ (encodeChars before).reverse =
          (encodeChars (before ++ [c])).reverse := by
        rw [encodeChars_append, List.reverse_append, encodeChars_cons, encodeChars_nil,
          List.append_nil]
      rw [List.flatMap_cons, List.append_assoc, encodeChars_append, List.append_assoc,
        readTextFrom_escape, hstep, ih, List.append_assoc]
      rfl

/-- A written text is read back behind its opening quote, whatever follows it. -/
theorem readText_renderText (s : String) (rest : List UInt8) :
    readText (encodeChars (s.toList.flatMap escape ++ ['"']) ++ rest) = .ok (s, rest) := by
  have h := readTextFrom_escaped [] s.toList rest
  rwa [List.nil_append, String.ofList_toList] at h

end DiagServer.Json
