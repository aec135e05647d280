import DiagServer.Json.Skip
import DiagServer.Proofs.Json.Numeral
import DiagServer.Proofs.Json.RoundTrip

/-!
# Written scalars are passed over

A value that nobody asks for is passed over without being read: its text by its escapes, its number
by the grammar of numerals. What the writer puts down for a scalar is passed over to its last byte
and no further. That holds of every number, also of those that a reader would refuse or round.
-/

namespace DiagServer.Json

open Decimal DiagServer.Text.Utf8

/-- The values without brackets. -/
def IsScalar : Json → Prop
  | .arr _ => False
  | .obj _ => False
  | _ => True

/-! ## Texts -/

theorem skipText_plain {b : UInt8} (hb : IsPlain b) (rest : List UInt8) :
    skipText (b :: rest) = skipText rest := by
  obtain ⟨hquote, hslash, hcontrol⟩ := hb
  rw [skipText.eq_def]
  split
  · next heq => cases heq
  · next heq => exact absurd (List.cons.inj heq).1 hquote
  · next heq => exact absurd (List.cons.inj heq).1 hslash
  · next heq => exact absurd (List.cons.inj heq).1 hslash
  · next heq => exact absurd (List.cons.inj heq).1 hslash
  · next heq =>
      cases heq
      rw [if_neg hslash, if_neg hcontrol]

theorem skipText_run {run : List UInt8} (h : ∀ b ∈ run, IsPlain b) (rest : List UInt8) :
    skipText (run ++ rest) = skipText rest := by
  induction run with
  | nil => rfl
  | cons b run ih =>
      rw [List.forall_mem_cons] at h
      rw [List.cons_append, skipText_plain h.1, ih h.2]

theorem skipText_control {n : Nat} (hn : n < 0x20) (rest : List UInt8) :
    skipText (encodeChars
        ['\\', 'u', '0', '0', Nat.digitChar (n / 16), Nat.digitChar (n % 16)] ++ rest) =
      skipText rest := by
  obtain ⟨hi, hhi, hhiv⟩ := hexValue?_digitChar (k := n / 16) (by omega)
  obtain ⟨lo, hlo, hlov⟩ := hexValue?_digitChar (k := n % 16) (by omega)
  have hbytes : encodeChars ['\\', 'u', '0', '0', Nat.digitChar (n / 16), Nat.digitChar (n % 16)] =
      [0x5C, 0x75, 0x30, 0x30, hi, lo] := by
    rw [encodeChars_cons, encodeChars_cons, encodeChars_cons, encodeChars_cons, encodeChars_cons,
      encodeChars_cons, hhi, hlo]
    rfl
  have hzero : hexValue? 0x30 = some 0 := by decide
  rw [hbytes]
  simp only [List.cons_append, List.nil_append, skipText, hzero, hhiv, hlov, Option.isSome_some,
    and_self, if_true]

theorem skipText_escape (c : Char) (rest : List UInt8) :
    skipText (encodeChars (escape c) ++ rest) = skipText rest := by
  rcases escape_cases c with hshort | ⟨hcontrol, hescape⟩ | ⟨hquote, hslash, hcontrol, hescape⟩
  · simp only [List.mem_cons, List.not_mem_nil, or_false] at hshort
    rcases hshort with rfl | rfl | rfl | rfl | rfl | rfl | rfl <;> rfl
  · rw [hescape]
    exact skipText_control hcontrol rest
  · rw [hescape, encodeChars_cons, encodeChars_nil, List.append_nil]
    exact skipText_run (fun b hb => isPlain_of_mem hquote hslash hcontrol hb) rest

/-- A written text is passed over up to its closing quote. -/
theorem skipText_escaped (cs : List Char) (rest : List UInt8) :
    skipText (encodeChars (cs.flatMap escape ++ ['"']) ++ rest) = .ok rest := by
  induction cs with
  | nil => rfl
  | cons c cs ih =>
      rw [List.flatMap_cons, List.append_assoc, encodeChars_append, List.append_assoc,
        skipText_escape, ih]

/-! ## Numbers -/

variable {rest : List UInt8} {ds fs text : List Char}

theorem skipNumber_digit {b : UInt8} (hb : isDigit b = true) (hzero : b ≠ 0x30)
    (bs : List UInt8) : skipNumber (b :: bs) = skipAfterWhole (bs.dropWhile isDigit) := by
  rw [skipNumber.eq_def]
  split
  · next heq => cases heq
  · next heq => exact absurd (List.cons.inj heq).1 hzero
  · next heq =>
      cases heq
      rw [if_pos hb]

theorem skipNumber_zero (h : Stops rest) : skipNumber (0x30 :: rest) = skipAfterWhole rest := by
  cases rest with
  | nil => rfl
  | cons b rest =>
      rw [skipNumber, if_neg (by simp [h b rfl])]

theorem skipNumber_whole (h : IsWhole ds) (hrest : Stops rest) :
    skipNumber (encodeChars ds ++ rest) = skipAfterWhole rest := by
  cases ds with
  | nil => exact absurd rfl h.ne_nil
  | cons d ds =>
      have hdigits := h.isDigit
      rw [List.forall_mem_cons] at hdigits
      obtain ⟨b, hencoded, hb, hvalue⟩ := utf8EncodeChar_digit hdigits.1
      by_cases hzero : d = '0'
      · subst hzero
        rw [h.eq_zero rfl]
        exact skipNumber_zero hrest
      · have hne : b ≠ 0x30 := by
          rintro rfl
          exact hzero (Char.toNat_inj.mp hvalue.symm)
        rw [encodeChars_cons, hencoded, List.singleton_append, List.cons_append,
          skipNumber_digit hb hne, dropWhile_digits (isDigit_of_mem hdigits.2) hrest]

theorem exists_bytes (h : IsDigits ds) :
    ∃ b bs, encodeChars ds = b :: bs ∧ isDigit b = true ∧ ∀ c ∈ bs, isDigit c = true := by
  cases ds with
  | nil => exact absurd rfl h.ne_nil
  | cons d ds =>
      have hdigits := h.isDigit
      rw [List.forall_mem_cons] at hdigits
      obtain ⟨b, hencoded, hb, -⟩ := utf8EncodeChar_digit hdigits.1
      refine ⟨b, encodeChars ds, ?_, hb, isDigit_of_mem hdigits.2⟩
      rw [encodeChars_cons, hencoded]
      rfl

theorem skipExponent_signed (e : Int) (hrest : Stops rest) :
    skipExponent (encodeChars (signedExponent e) ++ rest) = .ok rest := by
  obtain ⟨b, bs, hbytes, hb, hbs⟩ := exists_bytes (isDigits_toDigits e.natAbs)
  have hskip : (if isDigit b then Except.ok ((bs ++ rest).dropWhile isDigit)
      else .error (.before .badNumber (bs ++ rest)) : Except Fault (List UInt8)) = .ok rest := by
    rw [if_pos hb, dropWhile_digits hbs hrest]
  rw [signedExponent, encodeChars_cons, hbytes]
  split
  · exact hskip
  · exact hskip

theorem skipAfterWhole_ends (h : Ends rest) : skipAfterWhole rest = .ok rest := by
  rw [skipAfterWhole.eq_def]
  split
  · exact absurd rfl (h 0x2E rfl).2.1
  · exact absurd rfl (h 0x65 rfl).2.2.1
  · exact absurd rfl (h 0x45 rfl).2.2.2
  · rfl

theorem skipFraction_ends (h : IsDigits fs) (hrest : Ends rest) :
    skipFraction (encodeChars fs ++ rest) = .ok rest := by
  have hdigits := isDigit_of_mem h.isDigit
  obtain ⟨b, bs, hbytes, -, -⟩ := exists_bytes h
  rw [skipFraction, takeWhile_digits hdigits hrest.stops, dropWhile_digits hdigits hrest.stops,
    hbytes]
  split
  · next hnil => cases hnil
  · exact absurd rfl (hrest 0x65 rfl).2.2.1
  · exact absurd rfl (hrest 0x45 rfl).2.2.2
  · rfl

theorem skipFraction_exponent (h : IsDigits fs) (rest : List UInt8) :
    skipFraction (encodeChars fs ++ 0x65 :: rest) = skipExponent rest := by
  have hdigits := isDigit_of_mem h.isDigit
  have hstops : Stops (0x65 :: rest) := stops_cons (by decide) rest
  obtain ⟨b, bs, hbytes, -, -⟩ := exists_bytes h
  rw [skipFraction, takeWhile_digits hdigits hstops, dropWhile_digits hdigits hstops, hbytes]
  rfl

theorem encodeChars_exponent (e : Int) :
    encodeChars ('e' :: signedExponent e) = 0x65 :: encodeChars (signedExponent e) := rfl

theorem encodeChars_point (fs : List Char) : encodeChars ('.' :: fs) = 0x2E :: encodeChars fs := rfl

/-- A numeral is passed over. -/
theorem Numeral.skipNumber (h : Numeral text) (hrest : Ends rest) :
    skipNumber (encodeChars text ++ rest) = .ok rest := by
  cases h with
  | whole h => rw [skipNumber_whole h hrest.stops, skipAfterWhole_ends hrest]
  | fraction h hf =>
      rw [encodeChars_append, List.append_assoc, encodeChars_point, List.cons_append,
        skipNumber_whole h (stops_cons (by decide) _)]
      exact skipFraction_ends hf hrest
  | exponent h e =>
      rw [encodeChars_append, List.append_assoc, encodeChars_exponent, List.cons_append,
        skipNumber_whole h (stops_cons (by decide) _)]
      exact skipExponent_signed e hrest.stops
  | scientific h hf e =>
      rw [encodeChars_append, List.append_assoc, encodeChars_point, List.cons_append,
        skipNumber_whole h (stops_cons (by decide) _), encodeChars_append, List.append_assoc,
        encodeChars_exponent, List.cons_append]
      exact (skipFraction_exponent hf _).trans (skipExponent_signed e hrest.stops)

/-! ## Values -/

theorem Numeral.exists_bytes (h : Numeral text) :
    ∃ b bs, encodeChars text = b :: bs ∧ isDigit b = true := by
  have hwhole : ∃ ds more, IsWhole ds ∧ text = ds ++ more := by
    cases h with
    | whole h => exact ⟨_, [], h, (List.append_nil _).symm⟩
    | fraction h hf => exact ⟨_, _, h, rfl⟩
    | exponent h e => exact ⟨_, _, h, rfl⟩
    | scientific h hf e => exact ⟨_, _, h, rfl⟩
  obtain ⟨ds, more, hds, rfl⟩ := hwhole
  obtain ⟨b, bs, hbytes, hb, -⟩ := Json.exists_bytes hds.toIsDigits
  exact ⟨b, bs ++ encodeChars more, by rw [encodeChars_append, hbytes]; rfl, hb⟩

/-- What a scalar is written as: a word, a text, or a numeral behind a sign or none. -/
theorem encode_scalar {v : Json} (h : IsScalar v) :
    (∃ b word, encode v = b :: word ∧
      ((b = 0x6E ∧ word = wordNull) ∨ (b = 0x74 ∧ word = wordTrue) ∨
        (b = 0x66 ∧ word = wordFalse))) ∨
    (∃ s : String, encode v = 0x22 :: encodeChars (s.toList.flatMap escape ++ ['"'])) ∨
    ∃ text, Numeral text ∧ (encode v = encodeChars text ∨ encode v = 0x2D :: encodeChars text) := by
  cases v with
  | null => exact .inl ⟨_, _, encode_null, .inl ⟨rfl, rfl⟩⟩
  | bool b =>
      cases b with
      | true => exact .inl ⟨_, _, encode_true, .inr (.inl ⟨rfl, rfl⟩)⟩
      | false => exact .inl ⟨_, _, encode_false, .inr (.inr ⟨rfl, rfl⟩)⟩
  | int i =>
      refine .inr (.inr ⟨Nat.toDigits 10 i.natAbs, .whole (isWhole_toDigits _), ?_⟩)
      rw [encode, render, renderInt]
      split
      · exact .inr rfl
      · exact .inl rfl
  | double x =>
      obtain ⟨text, htext, hx⟩ := exists_numeral x
      refine .inr (.inr ⟨text, htext, ?_⟩)
      rw [encode, render, hx]
      split
      · exact .inr rfl
      · exact .inl rfl
  | str s => exact .inr (.inl ⟨s, encode_str s⟩)
  | arr items => exact h.elim
  | obj members => exact h.elim

theorem skipScalar_digit {b : UInt8} (hb : isDigit b = true) (bs : List UInt8) :
    skipScalar (b :: bs) = skipNumber (b :: bs) := by
  rw [skipScalar, if_neg (ne_of_isDigit hb (by decide)), if_neg (ne_of_isDigit hb (by decide)),
    if_neg (ne_of_isDigit hb (by decide)), if_neg (ne_of_isDigit hb (by decide)), if_pos hb]

theorem skipScalar_quote (bs : List UInt8) : skipScalar (0x22 :: bs) = skipText bs := rfl

theorem skipFront_scalar {b : UInt8} {bs : List UInt8} (hgap : isGap b = false) (hlist : b ≠ 0x5B)
    (hobject : b ≠ 0x7B) (h : skipScalar (b :: bs) = .ok rest) :
    skipFront [] (b :: bs) = .ok (none, rest) := by
  rw [skipFront, skipGap_cons hgap]
  split
  · next heq => exact absurd (List.cons.inj heq).1 hlist
  · next heq => exact absurd (List.cons.inj heq).1 hobject
  · rw [h]
    rfl

theorem skipValue_scalar {b : UInt8} {bs : List UInt8} (hgap : isGap b = false) (hlist : b ≠ 0x5B)
    (hobject : b ≠ 0x7B) (h : skipScalar (b :: bs) = .ok rest) :
    skipValue (b :: bs) = .ok rest := by
  rw [skipValue, skipFrom, skipFront_scalar hgap hlist hobject h]

/-- A written scalar is passed over, up to whatever follows it. -/
theorem skipValue_encode {v : Json} (h : IsScalar v) (hrest : Ends rest) :
    skipValue (encode v ++ rest) = .ok rest := by
  rcases encode_scalar h with ⟨b, word, hv, hword⟩ | ⟨s, hv⟩ | ⟨text, htext, hv | hv⟩
  · rw [hv, List.cons_append]
    rcases hword with ⟨rfl, rfl⟩ | ⟨rfl, rfl⟩ | ⟨rfl, rfl⟩
    · exact skipValue_scalar (by decide) (by decide) (by decide) (readKeyword_append wordNull rest)
    · exact skipValue_scalar (by decide) (by decide) (by decide) (readKeyword_append wordTrue rest)
    · exact skipValue_scalar (by decide) (by decide) (by decide) (readKeyword_append wordFalse rest)
  · rw [hv, List.cons_append]
    refine skipValue_scalar (by decide) (by decide) (by decide) ?_
    rw [skipScalar_quote, skipText_escaped]
  · obtain ⟨b, bs, hbytes, hb⟩ := htext.exists_bytes
    have hskip := htext.skipNumber hrest
    rw [hbytes, List.cons_append] at hskip
    rw [hv, hbytes, List.cons_append]
    refine skipValue_scalar (isGap_of_isDigit hb) (ne_of_isDigit hb (by decide))
      (ne_of_isDigit hb (by decide)) ?_
    rw [skipScalar_digit hb, hskip]
  · rw [hv, List.cons_append]
    exact skipValue_scalar (by decide) (by decide) (by decide) (htext.skipNumber hrest)

end DiagServer.Json
