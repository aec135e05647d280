import DiagServer.Text.Blank
import DiagServer.Text.Lines

/-!
# One line at a time

The lines of a text can be taken off its front, each up to its line feed. A carriage return before
a line feed belongs to the line end, but for anyone who trims a line it makes no difference whether
it was dropped there or is dropped with the other blanks.
-/

namespace DiagServer.Text

variable {c d : Char} {cs ds : List Char}

/-! ## Trimming -/

theorem trim_cons_of_blank (h : isBlank c = true) (cs : List Char) : trim (c :: cs) = trim cs := by
  rw [trim, trimStart, List.dropWhile_cons_of_pos h]
  rfl

theorem trim_concat_of_blank (h : isBlank c = true) (cs : List Char) :
    trim (cs ++ [c]) = trim cs := by
  rw [trim, trim, trimStart, trimStart, List.dropWhile_append]
  split
  · next hempty =>
      rw [List.isEmpty_iff.mp hempty, List.dropWhile_cons_of_pos h]
      rfl
  · rw [trimEnd, List.reverse_append, List.reverse_singleton, List.singleton_append,
      List.dropWhile_cons_of_pos h]
    rfl

/-- Blanks on either side of a text are dropped. -/
theorem trim_blanks (hcs : ∀ c ∈ cs, isBlank c = true) (hds : ∀ d ∈ ds, isBlank d = true)
    (text : List Char) : trim (cs ++ text ++ ds) = trim text := by
  have hback : ∀ front : List Char, trim (front ++ ds) = trim front := by
    intro front
    induction ds generalizing front with
    | nil => rw [List.append_nil]
    | cons d ds ih =>
        rw [List.forall_mem_cons] at hds
        have happend : front ++ d :: ds = (front ++ [d]) ++ ds := by
          rw [List.append_assoc]
          rfl
        rw [happend, ih hds.2, trim_concat_of_blank hds.1]
  rw [hback]
  induction cs with
  | nil => rfl
  | cons c cs ih =>
      rw [List.forall_mem_cons] at hcs
      rw [List.cons_append, trim_cons_of_blank hcs.1, ih hcs.2]

/-- A text between two characters that are no blanks is trimmed already. -/
theorem trim_of_not_blank (hc : isBlank c = false) (hd : isBlank d = false) (cs : List Char) :
    trim (c :: (cs ++ [d])) = c :: (cs ++ [d]) := by
  rw [trim, trimStart, List.dropWhile_cons_of_neg (by simp [hc]), trimEnd, ← List.cons_append,
    List.reverse_append, List.reverse_singleton, List.singleton_append,
    List.dropWhile_cons_of_neg (by simp [hd]), List.reverse_cons, List.reverse_reverse]

theorem length_trim_le (cs : List Char) : (trim cs).length ≤ cs.length := by
  have hfront := (List.dropWhile_suffix isBlank (l := cs)).length_le
  have hback := (List.dropWhile_suffix isBlank (l := (trimStart cs).reverse)).length_le
  rw [List.length_reverse] at hback
  rw [trim, trimEnd, List.length_reverse]
  exact Nat.le_trans hback hfront

/-! ## Lines -/

/-- What a line loses at its end is a blank, at most. -/
theorem trim_endLine (cs : List Char) : trim (endLine cs.reverse) = trim cs := by
  rcases List.eq_nil_or_concat cs with rfl | ⟨front, c, rfl⟩
  · rfl
  · rw [List.concat_eq_append, List.reverse_append, List.reverse_singleton, List.singleton_append]
    rw [endLine.eq_def]
    split
    · next heq =>
        cases heq
        rw [List.reverse_reverse, trim_concat_of_blank (by decide)]
    · rw [List.reverse_cons, List.reverse_reverse]

theorem linesFrom_cons_of_ne (h : c ≠ '\n') (done : List (List Char)) (current cs : List Char) :
    linesFrom done current (c :: cs) = linesFrom done (c :: current) cs := by
  rw [linesFrom, if_neg h]

theorem linesFrom_newline (done : List (List Char)) (current cs : List Char) :
    linesFrom done current ('\n' :: cs) = linesFrom (endLine current :: done) [] cs := by
  rw [linesFrom, if_pos rfl]

/-- The lines that were read before stay in front. -/
theorem linesFrom_eq (done : List (List Char)) (current cs : List Char) :
    linesFrom done current cs = done.reverse ++ linesFrom [] current cs := by
  induction cs generalizing done current with
  | nil =>
      cases current with
      | nil => simp [linesFrom]
      | cons c current => simp [linesFrom]
  | cons c cs ih =>
      by_cases h : c = '\n'
      · subst h
        rw [linesFrom_newline, linesFrom_newline, ih, ih [_], List.reverse_cons, List.append_assoc]
        rfl
      · rw [linesFrom_cons_of_ne h, linesFrom_cons_of_ne h, ih]

theorem linesFrom_append (h : '\n' ∉ cs) (done : List (List Char)) (current rest : List Char) :
    linesFrom done current (cs ++ rest) = linesFrom done (cs.reverse ++ current) rest := by
  induction cs generalizing current with
  | nil => rfl
  | cons c cs ih =>
      rw [List.mem_cons, not_or] at h
      rw [List.cons_append, linesFrom_cons_of_ne (Ne.symm h.1), ih h.2, List.reverse_cons,
        List.append_assoc]
      rfl

/-- The first line of a text ends at its first line feed. -/
theorem lines_append_newline (h : '\n' ∉ cs) (rest : List Char) :
    lines (cs ++ '\n' :: rest) = endLine cs.reverse :: lines rest := by
  rw [lines, linesFrom_append h, List.append_nil, linesFrom_newline, linesFrom_eq]
  rfl

/-- A text without a line feed is one line, unless it is empty. -/
theorem lines_of_notMem (h : '\n' ∉ cs) : lines cs = if cs = [] then [] else [cs] := by
  have hlines := linesFrom_append h [] [] []
  rw [List.append_nil, List.append_nil] at hlines
  rw [lines, hlines]
  cases hcs : cs.reverse with
  | nil =>
      rw [if_pos (List.reverse_eq_nil_iff.mp hcs)]
      rfl
  | cons c front =>
      rw [if_neg (fun heq => by simp [heq] at hcs)]
      show [(c :: front).reverse] = [cs]
      rw [← hcs, List.reverse_reverse]

end DiagServer.Text
