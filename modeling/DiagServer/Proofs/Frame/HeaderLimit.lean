import DiagServer.Proofs.Frame.Lookahead
import DiagServer.Proofs.Frame.Sink
import DiagServer.Proofs.Frame.Truncation
import DiagServer.Proofs.Text.Lossy

/-!
# Header blocks that do not end

A block that has no blank line within its budget uses the budget up. What comes then is told by the
bytes at the limit. The lines before it are read one by one and take their bytes from the budget, so
the last line, of which the budget has less than all, is read as far as the limit and no further.
If the limit falls between two characters, that piece of a line is UTF-8 without a line feed, or it
is empty because the limit falls behind a line feed, and either way the header is too large.

A limit inside a character is another matter: the piece that was read is no UTF-8, which is noticed
before its length is, so a header that is too large is then reported as a stream that is no UTF-8.
-/

namespace DiagServer.Frame

open DiagServer.Text.Utf8

variable {cs front behind before line : List Char} {fields : List (List Char)} {c : Char}
  {part rest : List UInt8} {budget : Nat}

/-! ## Lines that do not end a block -/

/-- A line of a block behind which the block goes on. -/
structure IsField (text : List Char) : Prop where
  isLine : IsLine text
  notBlank : Text.trim text ≠ []
  decimal : ∀ value, StatesLength text value → ∃ n, IsDecimal value n

theorem IsField.readLines (h : IsField line) (hb : (encodeChars line).length ≤ budget)
    (length : Option Nat) :
    ∃ after, ∀ rest, readLines budget length (encodeChars line ++ rest) =
      Frame.readLines (budget - (encodeChars line).length) after rest := by
  have hread := readLines_line h.isLine hb length
  have hmeans := Line.means_ofText line
  generalize Line.ofText (Text.trim line) = meaning at hread hmeans
  cases hmeans with
  | blank hblank => exact absurd hblank h.notBlank
  | length hs hn => exact ⟨_, hread⟩
  | other _ hs => exact ⟨_, hread⟩
  | invalid hs hn =>
      obtain ⟨n, hdecimal⟩ := h.decimal _ hs
      exact absurd hdecimal (hn n)

theorem readLines_fields (h : ∀ line ∈ fields, IsField line)
    (hb : (encodeChars fields.flatten).length ≤ budget) (length : Option Nat) :
    ∃ after, ∀ rest, readLines budget length (encodeChars fields.flatten ++ rest) =
      readLines (budget - (encodeChars fields.flatten).length) after rest := by
  induction fields generalizing budget length with
  | nil => exact ⟨length, fun rest => rfl⟩
  | cons line fields ih =>
      rw [List.forall_mem_cons] at h
      rw [List.flatten_cons, encodeChars_append, List.length_append] at hb ⊢
      have hline : (encodeChars line).length ≤ budget := by omega
      have hrest : (encodeChars fields.flatten).length ≤ budget - (encodeChars line).length := by
        omega
      obtain ⟨after, hfirst⟩ := h.1.readLines hline length
      obtain ⟨last, hothers⟩ := ih h.2 hrest after
      refine ⟨last, fun rest => ?_⟩
      rw [List.append_assoc, hfirst, hothers, Nat.sub_sub]

/-! ## The piece of a line at the limit -/

/-- How the reading of a line fails that is longer than the budget, by the piece of it that is
within the budget. -/
def failureAtLimit (piece : List UInt8) : FrameError :=
  match firstFlaw? piece with
  | some flaw => .transport (.notUtf8 flaw)
  | none => .headerTooLarge

theorem failureAtLimit_text (cs : List Char) :
    failureAtLimit (encodeChars cs) = .headerTooLarge := by
  rw [failureAtLimit, firstFlaw?_eq_none.mpr ⟨cs, rfl⟩]

theorem failureAtLimit_part {lost : List UInt8} (h : String.utf8EncodeChar c = part ++ lost)
    (hpart : part ≠ []) (hlost : lost ≠ []) (cs : List Char) :
    failureAtLimit (encodeChars cs ++ part) =
      .transport (.notUtf8 ⟨(encodeChars cs).length, none⟩) := by
  rw [failureAtLimit, firstFlaw?_of_part h hpart hlost]

theorem readLines_piece (h : 0x0A ∉ part) (length : Option Nat) (rest : List UInt8) :
    readLines part.length length (part ++ rest) = .error (failureAtLimit part) := by
  have htake : takeLine part.length (part ++ rest) = part := by
    rw [← takeLine_take, List.take_left, takeLine_of_notMem h (Nat.le_refl part.length)]
  have hwhole : isWhole part = false := isWhole_of_notMem h
  cases part with
  | nil =>
      rw [List.length_nil, readLines, ← encodeChars_nil, failureAtLimit_text]
  | cons b more =>
      rw [List.length_cons] at htake ⊢
      rw [readLines.eq_def, failureAtLimit]
      simp only [htake]
      cases firstFlaw? (b :: more) with
      | some flaw => rfl
      | none => simp [hwhole]

theorem read_piece (hfields : ∀ line ∈ fields, IsField line) (hpart : 0x0A ∉ part)
    (hlength : (encodeChars fields.flatten).length + part.length = 8192) (rest : List UInt8) :
    (read (encodeChars fields.flatten ++ (part ++ rest))).1 = .broken (failureAtLimit part) := by
  have hempty : ¬ (encodeChars fields.flatten ++ (part ++ rest)).isEmpty = true := by
    rw [List.isEmpty_iff_length_eq_zero]
    simp only [List.length_append]
    omega
  have hroom : (encodeChars fields.flatten).length ≤ maxHeader := by
    rw [show maxHeader = 8192 from rfl]
    omega
  obtain ⟨after, hread⟩ := readLines_fields hfields hroom none
  have hleft : maxHeader - (encodeChars fields.flatten).length = part.length := by
    rw [show maxHeader = 8192 from rfl]
    omega
  rw [read, if_neg hempty, readHeader, hread, hleft, readLines_piece hpart]

/-! ## Texts whose header block does not end -/

/-- A line of a text, with its line feed within the limit. -/
def HasLine (cs line : List Char) : Prop :=
  ∃ before behind, cs = before ++ line ++ behind ∧ (before = [] ∨ before.getLast? = some '\n') ∧
    IsLine line ∧ (encodeChars (before ++ line)).length ≤ 8192

/-- A text goes up to the limit and has no line within it that ends a header block, be it for good
or with a length that is not in decimals. -/
structure OverLimit (cs : List Char) : Prop where
  long : 8192 ≤ (encodeChars cs).length
  notBlank : ∀ line, HasLine cs line → Text.trim line ≠ []
  decimal : ∀ line, HasLine cs line → ∀ value, StatesLength line value → ∃ n, IsDecimal value n

theorem exists_lines (cs : List Char) :
    ∃ (lines : List (List Char)) (piece : List Char), cs = lines.flatten ++ piece ∧
      (∀ line ∈ lines, IsLine line) ∧ '\n' ∉ piece := by
  induction cs with
  | nil => exact ⟨[], [], rfl, by simp, by simp⟩
  | cons c cs ih =>
      obtain ⟨lines, piece, rfl, hlines, hpiece⟩ := ih
      by_cases hc : c = '\n'
      · subst hc
        exact ⟨['\n'] :: lines, piece, rfl,
          List.forall_mem_cons.mpr ⟨⟨[], rfl, List.not_mem_nil⟩, hlines⟩, hpiece⟩
      · cases lines with
        | nil => exact ⟨[], c :: piece, rfl, by simp, by simp [hpiece, Ne.symm hc]⟩
        | cons line lines =>
            rw [List.forall_mem_cons] at hlines
            obtain ⟨⟨content, rfl, hcontent⟩, hlines⟩ := hlines
            refine ⟨(c :: content ++ ['\n']) :: lines, piece, rfl, ?_, hpiece⟩
            exact List.forall_mem_cons.mpr
              ⟨⟨c :: content, rfl, by simp [hcontent, Ne.symm hc]⟩, hlines⟩

theorem ends_flatten {lines : List (List Char)} (h : ∀ line ∈ lines, IsLine line) :
    lines.flatten = [] ∨ lines.flatten.getLast? = some '\n' := by
  rcases List.eq_nil_or_concat lines with rfl | ⟨lines, line, rfl⟩
  · exact .inl rfl
  · obtain ⟨content, rfl, -⟩ := h line (by simp)
    right
    simp

theorem OverLimit.isField (h : OverLimit cs) (hlines : ∀ line ∈ fields, IsLine line)
    (hsplit : cs = fields.flatten ++ behind) (hle : (encodeChars fields.flatten).length ≤ 8192) :
    ∀ line ∈ fields, IsField line := by
  intro line hmem
  obtain ⟨earlier, later, rfl⟩ := List.append_of_mem hmem
  have hline : HasLine cs line := by
    refine ⟨earlier.flatten, later.flatten ++ behind, ?_, ?_, hlines line hmem, ?_⟩
    · rw [hsplit]
      simp
    · exact ends_flatten fun other hother => hlines other (List.mem_append_left _ hother)
    · simp only [List.flatten_append, List.flatten_cons, encodeChars_append,
        List.length_append] at hle ⊢
      omega
  exact ⟨hlines line hmem, h.notBlank line hline, h.decimal line hline⟩

/-- The limit falls between two characters. -/
theorem read_between (h : OverLimit (front ++ behind)) (hlength : (encodeChars front).length = 8192) :
    (read (encodeChars (front ++ behind))).1 = .broken .headerTooLarge := by
  obtain ⟨lines, piece, rfl, hlines, hpiece⟩ := exists_lines front
  rw [encodeChars_append, List.length_append] at hlength
  have hfields := h.isField hlines (List.append_assoc _ _ _) (by omega)
  rw [encodeChars_append, encodeChars_append, List.append_assoc,
    read_piece hfields (notMem_encodeChars hpiece) hlength, failureAtLimit_text]

/-- A line feed is all of its character. -/
theorem notMem_of_part {lost : List UInt8} (h : String.utf8EncodeChar c = part ++ lost)
    (hpart : part ≠ []) (hlost : lost ≠ []) : 0x0A ∉ part := by
  intro hmem
  have hmemChar : 0x0A ∈ String.utf8EncodeChar c := by
    rw [h]
    exact List.mem_append_left lost hmem
  obtain rfl : c = '\n' := (mem_utf8EncodeChar (by decide)).mp hmemChar
  have hlength := congrArg List.length h
  have hpartPos := List.length_pos_iff.mpr hpart
  have hlostPos := List.length_pos_iff.mpr hlost
  rw [List.length_append, show (String.utf8EncodeChar '\n').length = 1 from rfl] at hlength
  omega

/-- The limit falls inside a character. -/
theorem read_inside (h : OverLimit (front ++ c :: behind))
    (hlt : (encodeChars front).length < 8192) (hgt : 8192 < (encodeChars (front ++ [c])).length) :
    ∃ before line, front = before ++ line ∧ (before = [] ∨ before.getLast? = some '\n') ∧
      '\n' ∉ line ∧ (read (encodeChars (front ++ c :: behind))).1 =
        .broken (.transport (.notUtf8 ⟨(encodeChars line).length, none⟩)) := by
  obtain ⟨lines, piece, rfl, hlines, hpiece⟩ := exists_lines front
  refine ⟨lines.flatten, piece, rfl, ends_flatten hlines, hpiece, ?_⟩
  generalize hbytes : encodeChars (lines.flatten ++ piece ++ c :: behind) = bs
  rw [encodeChars_append, encodeChars_cons] at hbytes
  rw [encodeChars_append, List.length_append, encodeChars_cons, encodeChars_nil,
    List.append_nil] at hgt
  have htake : (bs.take 8192).length = 8192 := by
    rw [List.length_take, ← hbytes]
    simp only [List.length_append]
    omega
  -- the bytes within the limit are those before the character and a part of its own
  obtain ⟨part, lost, hcut, hchar, hpart, hlost⟩ :=
    exists_part (hbytes.trans (List.take_append_drop 8192 bs).symm) (by omega) (by omega)
  rw [encodeChars_append, List.append_assoc] at hcut
  have hlength := congrArg List.length hcut
  rw [htake, List.length_append] at hlength
  have hfields := h.isField hlines (List.append_assoc _ _ _) (by omega)
  have hnewline : 0x0A ∉ encodeChars piece ++ part := by
    rw [List.mem_append, not_or]
    exact ⟨notMem_encodeChars hpiece, notMem_of_part hchar hpart hlost⟩
  rw [← List.take_append_drop 8192 bs, hcut, List.append_assoc,
    read_piece hfields hnewline hlength.symm, failureAtLimit_part hchar hpart hlost]

/-- The limit falls inside a character, and this is the line of that character as far as there. -/
def CutsLine (cs line : List Char) : Prop :=
  ∃ before c, before ++ line ++ [c] <+: cs ∧ (before = [] ∨ before.getLast? = some '\n') ∧
    '\n' ∉ line ∧ (encodeChars (before ++ line)).length < 8192 ∧
    8192 < (encodeChars (before ++ line ++ [c])).length

theorem OverLimit.read_cutsLine (h : OverLimit cs)
    (hnone : ¬ ∃ front, front <+: cs ∧ (encodeChars front).length = 8192) :
    ∃ line, CutsLine cs line ∧ (read (encodeChars cs)).1 =
      .broken (.transport (.notUtf8 ⟨(encodeChars line).length, none⟩)) := by
  have hlong : 8192 < (encodeChars cs).length :=
    Nat.lt_of_le_of_ne h.long fun heq => hnone ⟨cs, List.prefix_rfl, heq.symm⟩
  obtain ⟨front, c, behind, rfl, hle, hgt⟩ := exists_cut_flatMap hlong
  have hlt : (encodeChars front).length < 8192 :=
    Nat.lt_of_le_of_ne hle fun heq => hnone ⟨front, List.prefix_append front _, heq⟩
  obtain ⟨before, line, rfl, hbefore, hline, hread⟩ := read_inside h hlt hgt
  refine ⟨line, ⟨before, c, ⟨behind, ?_⟩, hbefore, hline, hlt, hgt⟩, hread⟩
  simp

theorem OverLimit.of_notMem (h : '\n' ∉ cs) (hlong : 8192 ≤ (encodeChars cs).length) :
    OverLimit cs := by
  have hnone : ∀ line, ¬ HasLine cs line := by
    rintro line ⟨before, behind, rfl, -, ⟨content, rfl, -⟩, -⟩
    simp at h
  exact ⟨hlong, fun line hline => absurd hline (hnone line),
    fun line hline => absurd hline (hnone line)⟩

/-- A text that goes up to the limit without a line that ends its header block is refused, whatever
comes behind the limit. If the limit falls between two characters, it is refused for a header that
is too large. If it falls inside a character, that is not the failure: what is refused then is the
line that the character belongs to, up to the limit, for a UTF-8 sequence that is incomplete where
the character begins. -/
theorem read_overLimit (h : OverLimit cs) :
    ((read (encodeChars cs)).1 = .broken .headerTooLarge ↔
      ∃ front, front <+: cs ∧ (encodeChars front).length = 8192) ∧
    ((¬ ∃ front, front <+: cs ∧ (encodeChars front).length = 8192) →
      ∃ line, CutsLine cs line ∧ (read (encodeChars cs)).1 =
        .broken (.transport (.notUtf8 ⟨(encodeChars line).length, none⟩))) := by
  refine ⟨⟨fun hread => ?_, ?_⟩, h.read_cutsLine⟩
  · by_cases hfront : ∃ front, front <+: cs ∧ (encodeChars front).length = 8192
    · exact hfront
    · obtain ⟨line, -, hother⟩ := h.read_cutsLine hfront
      rw [hread] at hother
      cases hother
  · rintro ⟨front, ⟨behind, rfl⟩, hlength⟩
    exact read_between h hlength

theorem length_encodeChars_replicate (n : Nat) (c : Char) :
    (encodeChars (List.replicate n c)).length = n * (String.utf8EncodeChar c).length := by
  induction n with
  | zero => rw [List.replicate_zero, encodeChars_nil, Nat.zero_mul, List.length_nil]
  | succ n ih =>
      rw [List.replicate_succ, encodeChars_cons, List.length_append, ih, Nat.succ_mul, Nat.add_comm]

/-- A line of 4096 characters, each of two bytes. -/
theorem read_overLimit_between :
    let cs := List.replicate 4096 'é'
    OverLimit cs ∧ (∃ front, front <+: cs ∧ (encodeChars front).length = 8192) ∧
      (read (encodeChars cs)).1 = .broken .headerTooLarge := by
  intro cs
  have hnewline : '\n' ∉ cs := fun hmem => absurd (List.eq_of_mem_replicate hmem) (by decide)
  have hlength : (encodeChars cs).length = 8192 := length_encodeChars_replicate 4096 'é'
  have h : OverLimit cs := .of_notMem hnewline (Nat.le_of_eq hlength.symm)
  have hfront : ∃ front, front <+: cs ∧ (encodeChars front).length = 8192 :=
    ⟨cs, List.prefix_rfl, hlength⟩
  exact ⟨h, hfront, (read_overLimit h).1.mpr hfront⟩

/-- A line whose last character has one byte within the limit and one behind it is not refused for a
header that is too large. -/
theorem read_overLimit_inside :
    let cs := List.replicate 8191 'a' ++ ['é']
    OverLimit cs ∧ (read (encodeChars cs)).1 ≠ .broken .headerTooLarge ∧
      (read (encodeChars cs)).1 = .broken (.transport (.notUtf8 ⟨8191, none⟩)) := by
  intro cs
  have hfront : '\n' ∉ List.replicate 8191 'a' :=
    fun hmem => absurd (List.eq_of_mem_replicate hmem) (by decide)
  have hlengthFront : (encodeChars (List.replicate 8191 'a')).length = 8191 :=
    length_encodeChars_replicate 8191 'a'
  have hlength : (encodeChars cs).length = 8193 := by
    rw [encodeChars_append, List.length_append, hlengthFront]
    rfl
  have hnewline : '\n' ∉ cs := by
    rw [List.mem_append, not_or]
    exact ⟨hfront, by decide⟩
  have h : OverLimit cs := .of_notMem hnewline (by rw [hlength]; decide)
  obtain ⟨before, line, hsplit, hbefore, -, hread⟩ :=
    read_inside h (by rw [hlengthFront]; decide) (by rw [hlength]; decide)
  have hread : (read (encodeChars cs)).1 = .broken (.transport (.notUtf8 ⟨8191, none⟩)) := by
    rcases hbefore with rfl | hlast
    · rw [List.nil_append] at hsplit
      rwa [← hsplit, hlengthFront] at hread
    · -- there is no line feed in front of the piece of the line
      rw [hsplit] at hfront
      exact absurd (List.mem_append_left line (List.mem_of_getLast? hlast)) hfront
  refine ⟨h, ?_, hread⟩
  rw [hread]
  intro heq
  cases heq

end DiagServer.Frame
