import DiagServer.Document
import DiagServer.Proofs.Path.Components
import DiagServer.Proofs.Text.Utf8

/-!
# Escaping loses nothing of a path

The URI of a path is the path again once its escapes are undone: a byte that is escaped comes back
from its two digits, and a byte that is not stands for itself and is no percent sign, so it cannot
be taken for the start of an escape. Hence two paths with one URI have the same components, and the
identity of a file tells all that its path tells.
-/

namespace DiagServer.Uri

open DiagServer.Text.Utf8

/-- A written digit is one byte, which is read as its value. -/
theorem hexValue?_hexDigit {k : Nat} (hk : k < 16) :
    ∃ b, String.utf8EncodeChar (hexDigit k) = [b] ∧ hexValue? b = some (UInt8.ofNat k) := by
  have hall : ∀ k : Fin 16, String.utf8EncodeChar (hexDigit k) = [(hexDigit k).toUInt8] ∧
      hexValue? (hexDigit k).toUInt8 = some (UInt8.ofNat k.val) := by decide
  exact ⟨_, hall ⟨k, hk⟩⟩

theorem ofNat_digits (b : UInt8) :
    UInt8.ofNat (b.toNat / 16) * 16 + UInt8.ofNat (b.toNat % 16) = b := by
  have hb := b.toNat_lt
  rw [← UInt8.toNat_inj, UInt8.toNat_add, UInt8.toNat_mul, UInt8.toNat_ofNat', UInt8.toNat_ofNat',
    show UInt8.toNat 16 = 16 from rfl]
  omega

theorem isEscaped_of_ne {b : UInt8} (h : isEscaped b = false) : b.toNat < 0x80 ∧ b ≠ 0x25 := by
  simp only [isEscaped, Bool.or_eq_false_iff, decide_eq_false_iff_not, beq_eq_false_iff_ne,
    UInt8.le_iff_toNat_le] at h
  obtain ⟨⟨⟨⟨⟨⟨⟨⟨⟨⟨⟨⟨-, hhigh⟩, -⟩, -⟩, hpercent⟩, -⟩, -⟩, -⟩, -⟩, -⟩, -⟩, -⟩, -⟩ := h
  have h7F : UInt8.toNat 0x7F = 0x7F := rfl
  exact ⟨by omega, hpercent⟩

theorem unescapeFrom_of_ne {b : UInt8} (h : b ≠ 0x25) (done rest : List UInt8) :
    unescapeFrom done (b :: rest) = unescapeFrom (b :: done) rest := by
  rw [unescapeFrom.eq_def]
  split
  · next heq =>
      cases heq
      exact absurd rfl h
  · next heq =>
      cases heq
      rfl
  · next heq => cases heq

theorem unescapeFrom_escapeByte (b : UInt8) (done rest : List UInt8) :
    unescapeFrom done (encodeChars (escapeByte b) ++ rest) = unescapeFrom (b :: done) rest := by
  rw [escapeByte]
  split
  · obtain ⟨high, hhigh, hhighValue⟩ := hexValue?_hexDigit (k := b.toNat / 16)
      (by have := b.toNat_lt; omega)
    obtain ⟨low, hlow, hlowValue⟩ := hexValue?_hexDigit (k := b.toNat % 16) (by omega)
    have hbytes : encodeChars ['%', hexDigit (b.toNat / 16), hexDigit (b.toNat % 16)] =
        [0x25, high, low] := by
      rw [encodeChars_cons, encodeChars_cons, encodeChars_cons, hhigh, hlow]
      rfl
    rw [hbytes]
    simp only [List.cons_append, List.nil_append, unescapeFrom, hhighValue, hlowValue]
    rw [ofNat_digits]
  · next hplain =>
      obtain ⟨hlow, hpercent⟩ := isEscaped_of_ne (by simpa using hplain)
      have hbytes : encodeChars [Char.ofNat b.toNat] = [b] := by
        rw [encodeChars_cons, encodeChars_nil, List.append_nil]
        exact (Form.one b hlow).encoded.2
      rw [hbytes, List.singleton_append, unescapeFrom_of_ne hpercent]

theorem unescapeFrom_escaped (c done rest : List UInt8) :
    unescapeFrom done (encodeChars (c.flatMap escapeByte) ++ rest) =
      unescapeFrom (c.reverse ++ done) rest := by
  induction c generalizing done with
  | nil => rfl
  | cons b c ih =>
      rw [List.flatMap_cons, encodeChars_append, List.append_assoc, unescapeFrom_escapeByte, ih,
        List.reverse_cons, List.append_assoc]
      rfl

theorem unescapeFrom_components (cs : List (List UInt8)) (done : List UInt8) :
    unescapeFrom done (encodeChars (cs.flatMap fun c => '/' :: c.flatMap escapeByte)) =
      done.reverse ++ cs.flatMap fun c => Path.slash :: c := by
  induction cs generalizing done with
  | nil =>
      rw [List.flatMap_nil, encodeChars_nil, unescapeFrom, List.flatMap_nil, List.append_nil]
  | cons c cs ih =>
      have hslash : String.utf8EncodeChar '/' = [Path.slash] := by decide
      rw [List.flatMap_cons, List.cons_append, encodeChars_cons, encodeChars_append, hslash,
        List.singleton_append, unescapeFrom_of_ne (by decide), unescapeFrom_escaped, ih,
        List.flatMap_cons]
      simp

/-- The path of a URI is written from the components that it was made from. -/
theorem unescape_renderComponents (cs : List (List UInt8)) :
    unescape (encodeChars (renderComponents cs)) = Path.ofComponents cs := by
  cases cs with
  | nil => decide
  | cons c cs => exact unescapeFrom_components (c :: cs) []

/-- Paths with the same URI have the same components. -/
theorem components_eq_of_ofPath? {a b : List UInt8} {uri : List Char} (ha : ofPath? a = some uri)
    (hb : ofPath? b = some uri) : Path.components a = Path.components b := by
  have hrender : ∀ {path : List UInt8}, ofPath? path = some uri →
      Path.components path =
        Path.components (unescape (encodeChars (uri.drop 7))) := by
    intro path h
    rw [ofPath?] at h
    split at h
    · cases h
      rw [List.drop_left' (by rfl), unescape_renderComponents,
        Path.components_ofComponents fun c => Path.isName_of_mem_components]
    · cases h
  rw [hrender ha, hrender hb]

end DiagServer.Uri

namespace DiagServer.DocumentId

/-- Files with the same identity have the same components. -/
theorem components_eq_of_ofPath? {a b : List UInt8} {id : DocumentId} (ha : ofPath? a = some id)
    (hb : ofPath? b = some id) : Path.components a = Path.components b := by
  rw [ofPath?, Option.map_eq_some_iff] at ha hb
  obtain ⟨uri, hauri, rfl⟩ := ha
  obtain ⟨uri', hburi, heq⟩ := hb
  have huri : uri' = uri := String.ofList_injective (congrArg DocumentId.uri heq)
  rw [huri] at hburi
  exact Uri.components_eq_of_ofPath? hauri hburi

end DiagServer.DocumentId
