import DiagServer.Proofs.Frame.Grammar
import DiagServer.Proofs.Frame.Sink
import DiagServer.Proofs.Json.RoundTrip

/-!
# What is written is read

A written frame is one of the frames that are accepted: its only header line states the length of
the body in bytes, in decimals that the reader takes for the same number, and the blank line ends
the block after a few dozen bytes. So reading finds the body where the writer put it, whatever the
bytes of the body look like, and the next frame starts right behind it with a budget of its own.
The grammar of frames and the round trip of values give all of that; the induction that is left is
on the list of frames.
-/

namespace DiagServer.Frame

open DiagServer.Text.Utf8

/-! ## The header line -/

theorem isBlank_of_isDigit {c : Char} (hc : c.isDigit = true) : Text.isBlank c = false := by
  have hrange : 48 ≤ c.toNat ∧ c.toNat ≤ 57 := by
    simpa [Char.isDigit, UInt32.le_iff_toNat_le] using hc
  simp only [Text.isBlank, Bool.or_eq_false_iff, Bool.and_eq_false_iff, decide_eq_false_iff_not,
    beq_eq_false_iff_ne]
  omega

theorem trimStart_cons {c : Char} (hc : Text.isBlank c = false) (cs : List Char) :
    Text.trimStart (c :: cs) = c :: cs := by
  rw [Text.trimStart, List.dropWhile_cons_of_neg (by simp [hc])]

theorem trimEnd_append (cs : List Char) {blanks : List Char}
    (hb : ∀ c ∈ blanks, Text.isBlank c = true)
    {last : Char} (hlast : Text.isBlank last = false) :
    Text.trimEnd (cs ++ [last] ++ blanks) = cs ++ [last] := by
  have hpos : ∀ c ∈ blanks.reverse, Text.isBlank c = true := by simpa using hb
  rw [Text.trimEnd, List.reverse_append, List.dropWhile_append_of_pos hpos, List.reverse_append,
    List.reverse_singleton, List.singleton_append,
    List.dropWhile_cons_of_neg (by simp [hlast]), List.reverse_cons, List.reverse_reverse]

/-- The digits of a number end in one. -/
theorem toDigits_concat (n : Nat) :
    ∃ ds d, Nat.toDigits 10 n = ds ++ [d] ∧ d.isDigit = true := by
  have hds := List.dropLast_concat_getLast (Nat.toDigits_ne_nil (n := n) (b := 10))
  exact ⟨_, _, hds.symm, Json.isDigit_of_mem_toDigits _ (List.getLast_mem _)⟩

theorem trim_toDigits (n : Nat) : Text.trim (Nat.toDigits 10 n) = Nat.toDigits 10 n := by
  obtain ⟨ds, d, hds, hd⟩ := toDigits_concat n
  obtain ⟨c, cs, hcs⟩ := List.exists_cons_of_ne_nil (Nat.toDigits_ne_nil (n := n) (b := 10))
  have hc : c.isDigit = true :=
    Json.isDigit_of_mem_toDigits c (hcs ▸ List.mem_cons_self)
  have hstart : Text.trimStart (Nat.toDigits 10 n) = Nat.toDigits 10 n := by
    rw [hcs]
    exact trimStart_cons (isBlank_of_isDigit hc) cs
  have hend := trimEnd_append ds (List.forall_mem_nil _) (isBlank_of_isDigit hd)
  rw [Text.trim, hstart, hds]
  rwa [List.append_nil] at hend

/-- The line that states a length. -/
def lengthLine (n : Nat) : List Char :=
  "Content-Length: ".toList ++ Nat.toDigits 10 n ++ ['\r', '\n']

/-- The line behind it. -/
def blankLine : List Char := ['\r', '\n']

theorem trim_lengthLine (n : Nat) :
    Text.trim (lengthLine n) = "Content-Length".toList ++ ':' :: ' ' :: Nat.toDigits 10 n := by
  obtain ⟨ds, d, hds, hd⟩ := toDigits_concat n
  have hname : "Content-Length: ".toList = 'C' :: "ontent-Length: ".toList := rfl
  have hstart : Text.trimStart (lengthLine n) = lengthLine n := by
    unfold lengthLine
    rw [hname, List.cons_append, List.cons_append]
    exact trimStart_cons (by decide) _
  have hblanks : ∀ c ∈ ['\r', '\n'], Text.isBlank c = true :=
    List.forall_mem_cons.mpr ⟨by decide, List.forall_mem_singleton.mpr (by decide)⟩
  have hend := trimEnd_append ("Content-Length: ".toList ++ ds) hblanks (isBlank_of_isDigit hd)
  rw [List.append_assoc _ ds, ← hds] at hend
  have hcolon : "Content-Length: ".toList = "Content-Length".toList ++ [':', ' '] := rfl
  rw [Text.trim, hstart]
  unfold lengthLine
  rw [hend, hcolon, List.append_assoc]
  rfl

theorem statesLength_lengthLine (n : Nat) : StatesLength (lengthLine n) (Nat.toDigits 10 n) := by
  refine ⟨"Content-Length".toList, ' ' :: Nat.toDigits 10 n, trim_lengthLine n, by decide,
    by decide, ?_⟩
  have hblank : Text.trimStart (' ' :: Nat.toDigits 10 n) = Text.trimStart (Nat.toDigits 10 n) :=
    List.dropWhile_cons_of_pos (by decide)
  rw [Text.trim, hblank]
  exact trim_toDigits n

theorem isDecimal_toDigits {n : Nat} (hn : n < UInt64.size) : IsDecimal (Nat.toDigits 10 n) n :=
  ⟨_, .inl rfl, Nat.toDigits_ne_nil, Json.isDigit_of_mem_toDigits,
    Nat.ofDigitChars_ten_toDigits.symm, hn⟩

theorem isLine_lengthLine (n : Nat) : IsLine (lengthLine n) := by
  refine ⟨"Content-Length: ".toList ++ Nat.toDigits 10 n ++ ['\r'], ?_, ?_⟩
  · unfold lengthLine
    rw [List.append_assoc _ ['\r']]
    rfl
  · intro hmem
    simp only [List.mem_append, List.mem_singleton] at hmem
    rcases hmem with (hmem | hmem) | hmem
    · exact absurd hmem (by decide)
    · exact absurd (Json.isDigit_of_mem_toDigits _ hmem) (by decide)
    · exact absurd hmem (by decide)

/-! ## One frame -/

theorem lines_header {n : Nat} (hn : n < UInt64.size) : Lines none [lengthLine n] blankLine n := by
  rw [lines_cons_of_states (isLine_lengthLine n) (statesLength_lengthLine n)
    (isDecimal_toDigits hn), lines_nil]
  exact ⟨⟨['\r'], rfl, by decide⟩, by decide, rfl⟩

theorem length_encodeChars_digits {ds : List Char} (h : ∀ c ∈ ds, c.isDigit = true) :
    (encodeChars ds).length = ds.length := by
  induction ds with
  | nil => rfl
  | cons c ds ih =>
      rw [List.forall_mem_cons] at h
      obtain ⟨b, hencoded, -⟩ := Json.utf8EncodeChar_digit h.1
      rw [encodeChars_cons, hencoded, List.singleton_append, List.length_cons, ih h.2,
        List.length_cons]

theorem block_header (n : Nat) : block [lengthLine n] blankLine = encodeChars (headerText n) := by
  have hends : ['\r', '\n', '\r', '\n'] = ['\r', '\n'] ++ ['\r', '\n'] := rfl
  unfold block lengthLine blankLine headerText
  rw [List.flatten_singleton, hends, ← List.append_assoc]

/-- A header takes twenty bytes and its digits, of which there are at most eight. -/
theorem length_header {n : Nat} (hn : n ≤ 16777216) :
    (block [lengthLine n] blankLine).length ≤ 28 := by
  have hdigits : (Nat.toDigits 10 n).length ≤ 8 :=
    (Nat.length_toDigits_le_iff (by decide) (by decide)).mpr (by omega)
  have hbytes := length_encodeChars_digits (Json.isDigit_of_mem_toDigits (n := n))
  have hname : (encodeChars "Content-Length: ".toList).length = 16 := by decide
  have hend : (encodeChars ['\r', '\n', '\r', '\n']).length = 4 := by decide
  rw [block_header]
  unfold headerText
  rw [encodeChars_append, encodeChars_append, List.length_append, List.length_append]
  omega

/-- A written frame is accepted, with its body as the body. -/
theorem accepts_encode {v : Json} (hsize : v.encode.length ≤ 16777216) (rest : List UInt8) :
    Accepts (encode v ++ rest) v.encode rest := by
  have hlength : v.encode.length < UInt64.size := Nat.lt_of_le_of_lt hsize (by decide)
  refine ⟨[lengthLine v.encode.length], blankLine, _, lines_header hlength, ?_, hsize, rfl, ?_⟩
  · exact Nat.le_trans (length_header hsize) (by decide)
  · rw [block_header]
    rfl

/-! ## Many frames -/

theorem outcomes_encode {v : Json} (h : Json.Portable 127 v)
    (hsize : v.encode.length ≤ 16777216) (rest : List UInt8) :
    outcomes (encode v ++ rest) = .frame v :: outcomes rest := by
  have hdecoded : decoded v.encode = .frame v := by
    rw [decoded, Json.Portable.parse_encode h]
  rw [outcomes_of_accepts (accepts_encode hsize rest), hdecoded]

theorem outcomes_frames {values : List Json}
    (h : ∀ v ∈ values, Json.Portable 127 v ∧ v.encode.length ≤ 16777216) :
    outcomes (values.map encode).flatten = values.map .frame ++ [.ended] := by
  induction values with
  | nil => rw [List.map_nil, List.flatten_nil, outcomes, outcomesFrom]; rfl
  | cons v rest ih =>
      rw [List.forall_mem_cons] at h
      rw [List.map_cons, List.flatten_cons, outcomes_encode h.1.1 h.1.2, ih h.2]
      rfl

/-- Values that are written one after the other to a sink that takes everything are read back, all
of them and in their order, and then reading comes to a clean end. -/
theorem outcomes_putAll (values : List Json)
    (h : ∀ v ∈ values, Json.Portable 127 v ∧ v.encode.length ≤ 16777216) :
    ∃ sink : Sink, Sink.putAll {} values = (true, sink) ∧ sink.pending = [] ∧
      outcomes sink.chunks.flatten = values.map .frame ++ [.ended] := by
  refine ⟨_, Sink.putAll_fits none (fun n hn => by cases hn) [], rfl, ?_⟩
  rw [Sink.chunks, List.append_nil, List.reverse_reverse]
  exact outcomes_frames h

/-- A text that looks like a header, a name that needs escapes, the least and the greatest integer
and an empty array, in two frames. -/
theorem outcomes_putAll_pair :
    let v : Json := .object [("a\n\"é\x01", .arr [.int (-0x8000000000000000),
      .int 0xFFFFFFFFFFFFFFFF, .str "Content-Length: 1\r\n\r\n", .arr []])]
    (Json.Portable 127 v ∧ v.encode.length ≤ 16777216) ∧
      ∃ sink : Sink, Sink.putAll {} [v, .null] = (true, sink) ∧ sink.pending = [] ∧
        outcomes sink.chunks.flatten = [.frame v, .frame .null, .ended] := by
  intro v
  have hv : Json.Portable 127 v := by
    refine .object (by decide) fun m hm => ?_
    cases List.mem_singleton.mp hm
    refine .arr fun w hw => ?_
    simp only [List.mem_cons, List.not_mem_nil, or_false] at hw
    rcases hw with rfl | rfl | rfl | rfl
    · exact .int (by decide) (by decide)
    · exact .int (by decide) (by decide)
    · exact .str _
    · exact .arr fun _ h => by cases h
  have hsize : v.encode.length ≤ 16777216 := by decide +kernel
  refine ⟨⟨hv, hsize⟩, outcomes_putAll [v, .null] fun w hw => ?_⟩
  simp only [List.mem_cons, List.not_mem_nil, or_false] at hw
  rcases hw with rfl | rfl
  · exact ⟨hv, hsize⟩
  · exact ⟨.null, by decide⟩

end DiagServer.Frame
