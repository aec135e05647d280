import DiagServer.Json.Printer
import DiagServer.Proofs.Json.Numeral
import DiagServer.Proofs.Json.Text

/-!
# A value is written on one line

The writer puts no blanks between words, and a line feed inside a text is escaped. So no line feed
stands in what is written for a value, and the texts of values can be told apart by lines.
-/

namespace DiagServer.Json

open Decimal

theorem newline_notMem_escape (c : Char) : '\n' ∉ escape c := by
  rcases escape_cases c with hshort | ⟨hcontrol, hescape⟩ | ⟨-, -, hcontrol, hescape⟩
  · simp only [List.mem_cons, List.not_mem_nil, or_false] at hshort
    rcases hshort with rfl | rfl | rfl | rfl | rfl | rfl | rfl <;> decide
  · have hdigits : ∀ n : Fin 0x20, '\n' ∉
        ['\\', 'u', '0', '0', Nat.digitChar (n.val / 16), Nat.digitChar (n.val % 16)] := by
      decide
    rw [hescape]
    exact hdigits ⟨c.toNat, hcontrol⟩
  · rw [hescape, List.mem_singleton]
    rintro rfl
    exact hcontrol (by decide)

theorem newline_notMem_renderText (s : String) : '\n' ∉ renderText s := by
  rw [renderText, List.mem_cons, List.mem_append, List.mem_flatMap]
  rintro (h | ⟨c, -, h⟩ | h)
  · cases h
  · exact newline_notMem_escape c h
  · cases List.mem_singleton.mp h

theorem newline_notMem_digits {ds : List Char} (h : ∀ c ∈ ds, c.isDigit = true) : '\n' ∉ ds :=
  fun hmem => absurd (h '\n' hmem) (by decide)

theorem newline_notMem_signedExponent (e : Int) : '\n' ∉ signedExponent e := by
  rw [signedExponent, List.mem_cons, not_or]
  refine ⟨?_, newline_notMem_digits isDigit_of_mem_toDigits⟩
  split <;> decide

theorem Numeral.newline_notMem {text : List Char} (h : Numeral text) : '\n' ∉ text := by
  have hpoint : '\n' ≠ '.' := by decide
  have hletter : '\n' ≠ 'e' := by decide
  cases h with
  | whole h => exact newline_notMem_digits h.isDigit
  | fraction h hf =>
      simp only [List.mem_append, List.mem_cons, not_or]
      exact ⟨newline_notMem_digits h.isDigit, hpoint, newline_notMem_digits hf.isDigit⟩
  | exponent h e =>
      simp only [List.mem_append, List.mem_cons, not_or]
      exact ⟨newline_notMem_digits h.isDigit, hletter, newline_notMem_signedExponent e⟩
  | scientific h hf e =>
      simp only [List.mem_append, List.mem_cons, not_or]
      exact ⟨newline_notMem_digits h.isDigit, hpoint, newline_notMem_digits hf.isDigit, hletter,
        newline_notMem_signedExponent e⟩

theorem newline_notMem_renderInt (i : Int) : '\n' ∉ renderInt i := by
  have hdigits : '\n' ∉ Nat.toDigits 10 i.natAbs := newline_notMem_digits isDigit_of_mem_toDigits
  rw [renderInt]
  split
  · rw [List.mem_cons, not_or]
    exact ⟨by decide, hdigits⟩
  · exact hdigits

theorem newline_notMem_double (x : Binary64) : '\n' ∉ x.text := by
  obtain ⟨text, htext, hx⟩ := exists_numeral x
  rw [hx]
  split
  · rw [List.mem_cons, not_or]
    exact ⟨by decide, htext.newline_notMem⟩
  · exact htext.newline_notMem

mutual

/-- No line feed is written for a value. -/
theorem newline_notMem_render (v : Json) : '\n' ∉ render v := by
  match v with
  | .null => decide
  | .bool true => decide
  | .bool false => decide
  | .int i => exact newline_notMem_renderInt i
  | .double x => exact newline_notMem_double x
  | .str s => exact newline_notMem_renderText s
  | .arr items =>
      rw [render, List.mem_cons, not_or]
      exact ⟨by decide, newline_notMem_renderItems items⟩
  | .obj members =>
      rw [render, List.mem_cons, not_or]
      exact ⟨by decide, newline_notMem_renderMembers members⟩

theorem newline_notMem_renderItems (items : List Json) : '\n' ∉ renderItems items := by
  match items with
  | [] => decide
  | [v] =>
      rw [renderItems, List.mem_append, not_or]
      exact ⟨newline_notMem_render v, by decide⟩
  | v :: w :: rest =>
      rw [renderItems, List.mem_append, List.mem_cons, not_or, not_or]
      · exact ⟨newline_notMem_render v, by decide, newline_notMem_renderItems (w :: rest)⟩
      · simp

theorem newline_notMem_renderMembers (members : List (String × Json)) :
    '\n' ∉ renderMembers members := by
  match members with
  | [] => decide
  | [(name, v)] =>
      simp only [renderMembers, List.mem_append, List.mem_cons, not_or]
      exact ⟨newline_notMem_renderText name, by decide, newline_notMem_render v, by decide⟩
  | (name, v) :: m :: rest =>
      simp only [renderMembers, List.mem_append, List.mem_cons, not_or]
      exact ⟨newline_notMem_renderText name, by decide, newline_notMem_render v, by decide,
        newline_notMem_renderMembers (m :: rest)⟩

end

end DiagServer.Json
