import DiagServer.Text.Replace
import Mathlib.Data.List.Infix

/-!
# What is put in for a word

The leftmost occurrences of a word that do not overlap cut a text into pieces, and there is one way
only to cut it like that: behind a piece the word comes for the first time, so no other piece can
end earlier or later. Replacing the word keeps the pieces and puts the new text between them. They
are the same whatever is put in, so nothing in the new text can make or break an occurrence.

An occurrence may overlap the one that counts if the word starts as it ends. The word is therefore
kept out of a piece together with all but the last character of the occurrence behind it.
-/

namespace DiagServer.Text

/-- A text in pieces. -/
structure Pieces where
  /-- The pieces that an occurrence of the word stands behind. -/
  closed : List (List Char)
  last : List Char
deriving Repr, DecidableEq

namespace Pieces

/-- The text with something between the pieces. -/
def joined (p : Pieces) (between : List Char) : List Char :=
  p.closed.flatMap (· ++ between) ++ p.last

/-- The word starts in no piece, neither to end there nor in the occurrence behind. -/
structure Leftmost (word : List Char) (p : Pieces) : Prop where
  closed : ∀ piece ∈ p.closed, ¬ word <:+: piece ++ word.dropLast
  last : ¬ word <:+: p.last

theorem joined_cons (piece : List Char) (closed : List (List Char)) (last between : List Char) :
    joined ⟨piece :: closed, last⟩ between = piece ++ (between ++ joined ⟨closed, last⟩ between) := by
  simp [joined]

end Pieces

variable {c : Char} {word new done rest rest' piece before cs : List Char} {p q : Pieces}

/-! ## The first occurrence -/

theorem append_dropLast_isPrefix_append (piece rest : List Char) :
    piece ++ word.dropLast <+: piece ++ (word ++ rest) := by
  have hcut := List.dropLast_prefix word
  rw [List.prefix_append_right_inj]
  exact hcut.trans (List.prefix_append word rest)

/-- No occurrence comes before the one behind a piece. -/
theorem length_le_of_occurrence (hword : word ≠ []) (h : ¬ word <:+: piece ++ word.dropLast)
    (heq : before ++ (word ++ rest) = piece ++ (word ++ rest')) :
    piece.length ≤ before.length := by
  rw [← Nat.not_lt]
  intro hlt
  have hlength : 0 < word.length := List.length_pos_of_ne_nil hword
  have hearly : before ++ word <+: piece ++ (word ++ rest') := by
    rw [← heq, ← List.append_assoc]
    exact List.prefix_append _ rest
  have hinside : before ++ word <+: piece ++ word.dropLast := by
    refine List.prefix_of_prefix_length_le hearly (append_dropLast_isPrefix_append piece rest') ?_
    simp only [List.length_append, List.length_dropLast]
    omega
  exact h ((List.suffix_append before word).isInfix.trans hinside.isInfix)

theorem exists_first (hword : word ≠ []) (h : word <:+: cs) :
    ∃ piece rest, cs = piece ++ (word ++ rest) ∧ ¬ word <:+: piece ++ word.dropLast := by
  have hlength : 0 < word.length := List.length_pos_of_ne_nil hword
  induction cs with
  | nil => exact absurd (List.infix_nil.mp h) hword
  | cons c cs ih =>
      by_cases hfront : word <+: c :: cs
      · obtain ⟨rest, hrest⟩ := hfront
        refine ⟨[], rest, hrest.symm, fun hin => ?_⟩
        have hle := hin.length_le
        rw [List.nil_append, List.length_dropLast] at hle
        omega
      · obtain ⟨piece, rest, rfl, hpiece⟩ := ih ((List.infix_cons_iff.mp h).resolve_left hfront)
        refine ⟨c :: piece, rest, rfl, fun hin => ?_⟩
        rcases List.infix_cons_iff.mp hin with hin | hin
        · exact hfront (hin.trans (append_dropLast_isPrefix_append (c :: piece) rest))
        · exact hpiece hin

/-! ## The pieces of a text -/

theorem exists_leftmost (hword : word ≠ []) (cs : List Char) :
    ∃ p : Pieces, p.Leftmost word ∧ p.joined word = cs := by
  induction hn : cs.length using Nat.strongRecOn generalizing cs with
  | _ n ih =>
      by_cases hin : word <:+: cs
      · obtain ⟨piece, rest, rfl, hpiece⟩ := exists_first hword hin
        have hlength : 0 < word.length := List.length_pos_of_ne_nil hword
        simp only [List.length_append] at hn
        obtain ⟨⟨closed, last⟩, hp, rfl⟩ := ih rest.length (by omega) rest rfl
        exact ⟨⟨piece :: closed, last⟩, ⟨List.forall_mem_cons.mpr ⟨hpiece, hp.closed⟩, hp.last⟩,
          Pieces.joined_cons piece closed last word⟩
      · exact ⟨⟨[], cs⟩, ⟨by simp, hin⟩, rfl⟩

theorem infix_joined_cons (word piece : List Char) (closed : List (List Char))
    (last : List Char) : word <:+: Pieces.joined ⟨piece :: closed, last⟩ word := by
  rw [Pieces.joined_cons]
  exact List.infix_append' piece word _

/-- A text can be cut in one way only. -/
theorem Pieces.Leftmost.eq_of_joined (hword : word ≠ []) (hp : p.Leftmost word)
    (hq : q.Leftmost word) (h : p.joined word = q.joined word) : p = q := by
  obtain ⟨closed, last⟩ := p
  obtain ⟨closed', last'⟩ := q
  induction closed generalizing closed' with
  | nil =>
      cases closed' with
      | nil => exact congrArg (Pieces.mk []) h
      | cons piece closed' =>
          have hin := infix_joined_cons word piece closed' last'
          rw [← h] at hin
          exact absurd hin hp.last
  | cons piece closed ih =>
      cases closed' with
      | nil =>
          have hin := infix_joined_cons word piece closed last
          rw [h] at hin
          exact absurd hin hq.last
      | cons piece' closed' =>
          obtain ⟨hpiece, hclosed⟩ := List.forall_mem_cons.mp hp.closed
          obtain ⟨hpiece', hclosed'⟩ := List.forall_mem_cons.mp hq.closed
          rw [joined_cons, joined_cons] at h
          -- neither piece can end before the other, for an occurrence would start in the other then
          have hlength : piece.length = piece'.length :=
            Nat.le_antisymm (length_le_of_occurrence hword hpiece h.symm)
              (length_le_of_occurrence hword hpiece' h)
          obtain ⟨rfl, hrest⟩ := List.append_inj h hlength
          obtain ⟨hclosed_eq, rfl⟩ := Pieces.mk.inj
            (ih ⟨hclosed, hp.last⟩ closed' ⟨hclosed', hq.last⟩ (List.append_cancel_left hrest))
          rw [hclosed_eq]

/-! ## Replacing -/

theorem replaceFrom_skip (occurrence done rest : List Char) :
    replaceFrom word new occurrence.length done (occurrence ++ rest) =
      replaceFrom word new 0 done rest := by
  induction occurrence with
  | nil => rfl
  | cons c occurrence ih => exact ih

theorem replaceFrom_word (hword : word ≠ []) (done rest : List Char) :
    replaceFrom word new 0 done (word ++ rest) =
      replaceFrom word new 0 (new.reverse ++ done) rest := by
  obtain ⟨c, occurrence, rfl⟩ := List.exists_cons_of_ne_nil hword
  have hfront : (c :: occurrence).isPrefixOf (c :: (occurrence ++ rest)) = true :=
    List.isPrefixOf_iff_prefix.mpr (List.prefix_append (c :: occurrence) rest)
  rw [List.cons_append, replaceFrom, if_pos hfront]
  exact replaceFrom_skip occurrence (new.reverse ++ done) rest

theorem replaceFrom_cons (h : ¬ word <+: c :: cs) (done : List Char) :
    replaceFrom word new 0 done (c :: cs) = replaceFrom word new 0 (c :: done) cs := by
  rw [replaceFrom, if_neg (by rwa [List.isPrefixOf_iff_prefix])]

theorem replaceFrom_piece (hword : word ≠ []) (h : ¬ word <:+: piece ++ word.dropLast)
    (done rest : List Char) :
    replaceFrom word new 0 done (piece ++ (word ++ rest)) =
      replaceFrom word new 0 (new.reverse ++ (piece.reverse ++ done)) rest := by
  induction piece generalizing done with
  | nil => exact replaceFrom_word hword done rest
  | cons c piece ih =>
      -- an occurrence here would come before the one behind the piece
      have hfront : ¬ word <+: c :: (piece ++ (word ++ rest)) := by
        rintro ⟨rest', hrest'⟩
        have hle : (c :: piece).length ≤ ([] : List Char).length :=
          length_le_of_occurrence hword h hrest'
        exact absurd hle (Nat.not_succ_le_zero piece.length)
      rw [List.cons_append, List.infix_cons_iff, not_or] at h
      rw [List.cons_append, replaceFrom_cons hfront, ih h.2, List.reverse_cons, List.append_assoc]
      rfl

theorem replaceFrom_last (h : ¬ word <:+: cs) (done : List Char) :
    replaceFrom word new 0 done cs = done.reverse ++ cs := by
  induction cs generalizing done with
  | nil => exact (List.append_nil _).symm
  | cons c cs ih =>
      rw [List.infix_cons_iff, not_or] at h
      rw [replaceFrom_cons h.1, ih h.2, List.reverse_cons, List.append_assoc]
      rfl

/-- Replacing the word that a text was cut at joins the pieces anew. -/
theorem replace_joined (hword : word ≠ []) (hp : p.Leftmost word) :
    replace word new (p.joined word) = p.joined new := by
  have hfrom : ∀ (closed : List (List Char)) (last done : List Char),
      Pieces.Leftmost word ⟨closed, last⟩ →
        replaceFrom word new 0 done (Pieces.joined ⟨closed, last⟩ word) =
          done.reverse ++ Pieces.joined ⟨closed, last⟩ new := by
    intro closed last
    induction closed with
    | nil => exact fun done h => replaceFrom_last h.last done
    | cons piece closed ih =>
        intro done h
        obtain ⟨hpiece, hclosed⟩ := List.forall_mem_cons.mp h.closed
        rw [Pieces.joined_cons, Pieces.joined_cons, replaceFrom_piece hword hpiece,
          ih _ ⟨hclosed, h.last⟩]
        simp
  exact hfrom p.closed p.last [] hp

/-- The word is replaced from the left, and not where it overlaps itself. -/
example : replace ['a', 'b', 'a'] ['c'] "xababab".toList = "xcbab".toList := by decide

end DiagServer.Text
