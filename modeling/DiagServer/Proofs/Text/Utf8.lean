import DiagServer.Text.Utf8

/-!
# Decoding takes back what encoding made

A step takes a character exactly when the bytes at the front are the encoding of that character:
the rows of the table of lead bytes and the ranges of second bytes leave room for the shortest
encodings of scalar values and for nothing else. The strict reading and the lossy one are folds
over the same steps, so the strict one finds no flaw exactly in the encodings of texts, and the
lossy one gives the text back.
-/

namespace DiagServer.Text.Utf8

/-! ## The tables -/

/-- The lead bytes, by the number of bytes that follow them. -/
theorem tailLength_eq_some {lead : UInt8} {n : Nat} : tailLength lead = some n ↔
    (n = 0 ∧ lead.toNat < 0x80) ∨ (n = 1 ∧ 0xC2 ≤ lead.toNat ∧ lead.toNat < 0xE0) ∨
    (n = 2 ∧ 0xE0 ≤ lead.toNat ∧ lead.toNat < 0xF0) ∨
    (n = 3 ∧ 0xF0 ≤ lead.toNat ∧ lead.toNat < 0xF5) := by
  unfold tailLength
  simp only [UInt8.lt_iff_toNat_lt, UInt8.reduceToNat]
  repeat' split
  all_goals simp only [Option.some.injEq, reduceCtorEq, false_iff]; omega

/-- The second bytes that may follow a lead byte. -/
theorem secondByte_iff (lead b : UInt8) :
    (secondByteRange lead).1 ≤ b ∧ b ≤ (secondByteRange lead).2 ↔
      0x80 ≤ b.toNat ∧ b.toNat ≤ 0xBF ∧ (lead.toNat = 0xE0 → 0xA0 ≤ b.toNat) ∧
      (lead.toNat = 0xED → b.toNat ≤ 0x9F) ∧ (lead.toNat = 0xF0 → 0x90 ≤ b.toNat) ∧
      (lead.toNat = 0xF4 → b.toNat ≤ 0x8F) := by
  unfold secondByteRange
  simp only [← UInt8.toNat_inj, UInt8.reduceToNat]
  repeat' split
  all_goals simp only [UInt8.le_iff_toNat_le, UInt8.reduceToNat]; omega

theorem takeTail_cons {lo hi b : UInt8} (h : lo ≤ b ∧ b ≤ hi) (n value : Nat) (bs : List UInt8) :
    takeTail (n + 1) lo hi value (b :: bs) =
      takeTail n 0x80 0xBF (value * 64 + b.toNat % 64) bs := by
  rw [takeTail, if_pos h]

theorem takeTail_inv {n value : Nat} {lo hi : UInt8} {bs rest : List UInt8} {c : Char}
    (h : takeTail (n + 1) lo hi value bs = .char c rest) :
    ∃ b more, bs = b :: more ∧ (lo ≤ b ∧ b ≤ hi) ∧
      takeTail n 0x80 0xBF (value * 64 + b.toNat % 64) more = .char c rest := by
  cases bs with
  | nil => cases h
  | cons b more =>
      rw [takeTail] at h
      split at h
      · next hb => exact ⟨b, more, rfl, hb, h⟩
      · cases h

/-! ## The forms of a character -/

/-- The runs of bytes that stand for a character, each with its scalar value: one form for each
number of bytes. The bytes behind the lead carry six bits each. -/
inductive Form : List UInt8 → Nat → Prop
  | one (a : UInt8) (ha : a.toNat < 0x80) : Form [a] a.toNat
  | two (a b : UInt8) (ha : 0xC2 ≤ a.toNat ∧ a.toNat < 0xE0)
      (hb : 0x80 ≤ b.toNat ∧ b.toNat ≤ 0xBF) :
      Form [a, b] (a.toNat % 32 * 64 + b.toNat % 64)
  | three (a b c : UInt8) (ha : 0xE0 ≤ a.toNat ∧ a.toNat < 0xF0)
      (hb : 0x80 ≤ b.toNat ∧ b.toNat ≤ 0xBF) (hE0 : a.toNat = 0xE0 → 0xA0 ≤ b.toNat)
      (hED : a.toNat = 0xED → b.toNat ≤ 0x9F) (hc : 0x80 ≤ c.toNat ∧ c.toNat ≤ 0xBF) :
      Form [a, b, c] ((a.toNat % 16 * 64 + b.toNat % 64) * 64 + c.toNat % 64)
  | four (a b c d : UInt8) (ha : 0xF0 ≤ a.toNat ∧ a.toNat < 0xF5)
      (hb : 0x80 ≤ b.toNat ∧ b.toNat ≤ 0xBF) (hF0 : a.toNat = 0xF0 → 0x90 ≤ b.toNat)
      (hF4 : a.toNat = 0xF4 → b.toNat ≤ 0x8F) (hc : 0x80 ≤ c.toNat ∧ c.toNat ≤ 0xBF)
      (hd : 0x80 ≤ d.toNat ∧ d.toNat ≤ 0xBF) :
      Form [a, b, c, d]
        (((a.toNat % 8 * 64 + b.toNat % 64) * 64 + c.toNat % 64) * 64 + d.toNat % 64)

theorem continuation_iff (b : UInt8) : 0x80 ≤ b ∧ b ≤ 0xBF ↔ 0x80 ≤ b.toNat ∧ b.toNat ≤ 0xBF := by
  simp only [UInt8.le_iff_toNat_le, UInt8.reduceToNat]

theorem leadBits_eq (lead : UInt8) : leadBits lead =
    if lead.toNat < 0x80 then lead.toNat else if lead.toNat < 0xE0 then lead.toNat % 32
    else if lead.toNat < 0xF0 then lead.toNat % 16 else lead.toNat % 8 := by
  simp only [leadBits, UInt8.lt_iff_toNat_lt, UInt8.reduceToNat]

theorem step_of_form {form : List UInt8} {v : Nat} (h : Form form v) (rest : List UInt8) :
    step (form ++ rest) = .char (Char.ofNat v) rest := by
  cases h with
  | one a ha =>
      have hlead : tailLength a = some 0 := tailLength_eq_some.mpr (by omega)
      simp only [List.cons_append, List.nil_append, step, hlead, takeTail]
      rw [leadBits_eq, if_pos ha]
  | two a b ha hb =>
      have hlead : tailLength a = some 1 := tailLength_eq_some.mpr (by omega)
      have hsecond := (secondByte_iff a b).mpr (by omega)
      simp only [List.cons_append, List.nil_append, step, hlead]
      rw [takeTail_cons hsecond, takeTail, leadBits_eq, if_neg (by omega), if_pos (by omega)]
  | three a b c ha hb hE0 hED hc =>
      have hlead : tailLength a = some 2 := tailLength_eq_some.mpr (by omega)
      have hsecond := (secondByte_iff a b).mpr (by omega)
      simp only [List.cons_append, List.nil_append, step, hlead]
      rw [takeTail_cons hsecond, takeTail_cons ((continuation_iff c).mpr hc), takeTail,
        leadBits_eq, if_neg (by omega), if_neg (by omega), if_pos (by omega)]
  | four a b c d ha hb hF0 hF4 hc hd =>
      have hlead : tailLength a = some 3 := tailLength_eq_some.mpr (by omega)
      have hsecond := (secondByte_iff a b).mpr (by omega)
      simp only [List.cons_append, List.nil_append, step, hlead]
      rw [takeTail_cons hsecond, takeTail_cons ((continuation_iff c).mpr hc),
        takeTail_cons ((continuation_iff d).mpr hd), takeTail, leadBits_eq, if_neg (by omega),
        if_neg (by omega), if_neg (by omega)]

theorem form_of_step {bs rest : List UInt8} {c : Char} (h : step bs = .char c rest) :
    ∃ form v, Form form v ∧ bs = form ++ rest ∧ c = Char.ofNat v := by
  cases bs with
  | nil => cases h
  | cons a more =>
      rw [step] at h
      split at h
      · cases h
      · next n hlead =>
          rcases tailLength_eq_some.mp hlead with ⟨rfl, ha⟩ | ⟨rfl, ha⟩ | ⟨rfl, ha⟩ | ⟨rfl, ha⟩
          · rw [takeTail, leadBits_eq, if_pos ha] at h
            cases h
            exact ⟨_, _, .one a ha, rfl, rfl⟩
          · obtain ⟨b, more, rfl, hb, h⟩ := takeTail_inv h
            rw [takeTail, leadBits_eq, if_neg (by omega), if_pos (by omega)] at h
            cases h
            have hb := (secondByte_iff a b).mp hb
            exact ⟨_, _, .two a b ha ⟨hb.1, hb.2.1⟩, rfl, rfl⟩
          · obtain ⟨b, more, rfl, hb, h⟩ := takeTail_inv h
            obtain ⟨c, more, rfl, hc, h⟩ := takeTail_inv h
            rw [takeTail, leadBits_eq, if_neg (by omega), if_neg (by omega),
              if_pos (by omega)] at h
            cases h
            have hb := (secondByte_iff a b).mp hb
            exact ⟨_, _, .three a b c ha ⟨hb.1, hb.2.1⟩ hb.2.2.1 hb.2.2.2.1
              ((continuation_iff c).mp hc), rfl, rfl⟩
          · obtain ⟨b, more, rfl, hb, h⟩ := takeTail_inv h
            obtain ⟨c, more, rfl, hc, h⟩ := takeTail_inv h
            obtain ⟨d, more, rfl, hd, h⟩ := takeTail_inv h
            rw [takeTail, leadBits_eq, if_neg (by omega), if_neg (by omega),
              if_neg (by omega)] at h
            cases h
            have hb := (secondByte_iff a b).mp hb
            exact ⟨_, _, .four a b c d ha ⟨hb.1, hb.2.1⟩ hb.2.2.2.2.1 hb.2.2.2.2.2
              ((continuation_iff c).mp hc) ((continuation_iff d).mp hd), rfl, rfl⟩

theorem utf8EncodeChar_ofNat {v : Nat} (hv : v.isValidChar) :
    String.utf8EncodeChar (Char.ofNat v) =
      if v ≤ 0x7F then [UInt8.ofNat v]
      else if v ≤ 0x7FF then [UInt8.ofNat (v / 64 % 32 + 0xC0), UInt8.ofNat (v % 64 + 0x80)]
      else if v ≤ 0xFFFF then
        [UInt8.ofNat (v / 4096 % 16 + 0xE0), UInt8.ofNat (v / 64 % 64 + 0x80),
          UInt8.ofNat (v % 64 + 0x80)]
      else
        [UInt8.ofNat (v / 262144 % 8 + 0xF0), UInt8.ofNat (v / 4096 % 64 + 0x80),
          UInt8.ofNat (v / 64 % 64 + 0x80), UInt8.ofNat (v % 64 + 0x80)] := by
  have h : (Char.ofNat v).val.toNat = v := by
    rw [Char.ofNat, dif_pos hv]
    rfl
  rw [String.utf8EncodeChar, h]

theorem eq_ofNat {b : UInt8} {n : Nat} (h : b.toNat = n) : UInt8.ofNat n = b := by
  rw [← h, UInt8.ofNat_toNat]

/-- A form is the encoding of its character. -/
theorem Form.encoded {form : List UInt8} {v : Nat} (h : Form form v) :
    v.isValidChar ∧ String.utf8EncodeChar (Char.ofNat v) = form := by
  cases h with
  | one a ha =>
      have hv : a.toNat.isValidChar := .inl (by omega)
      refine ⟨hv, ?_⟩
      rw [utf8EncodeChar_ofNat hv, if_pos (by omega), UInt8.ofNat_toNat]
  | two a b ha hb =>
      have hv : (a.toNat % 32 * 64 + b.toNat % 64).isValidChar := .inl (by omega)
      refine ⟨hv, ?_⟩
      rw [utf8EncodeChar_ofNat hv, if_neg (by omega), if_pos (by omega),
        eq_ofNat (b := a) (by omega), eq_ofNat (b := b) (by omega)]
  | three a b c ha hb hE0 hED hc =>
      have hv : ((a.toNat % 16 * 64 + b.toNat % 64) * 64 + c.toNat % 64).isValidChar := by
        unfold Nat.isValidChar
        omega
      refine ⟨hv, ?_⟩
      rw [utf8EncodeChar_ofNat hv, if_neg (by omega), if_neg (by omega), if_pos (by omega),
        eq_ofNat (b := a) (by omega), eq_ofNat (b := b) (by omega), eq_ofNat (b := c) (by omega)]
  | four a b c d ha hb hF0 hF4 hc hd =>
      have hv : (((a.toNat % 8 * 64 + b.toNat % 64) * 64 + c.toNat % 64) * 64 +
          d.toNat % 64).isValidChar := by
        unfold Nat.isValidChar
        omega
      refine ⟨hv, ?_⟩
      rw [utf8EncodeChar_ofNat hv, if_neg (by omega), if_neg (by omega), if_neg (by omega),
        eq_ofNat (b := a) (by omega), eq_ofNat (b := b) (by omega), eq_ofNat (b := c) (by omega),
        eq_ofNat (b := d) (by omega)]

theorem exists_byte {n : Nat} (h : n < 256) : ∃ b : UInt8, UInt8.ofNat n = b ∧ b.toNat = n :=
  ⟨_, rfl, UInt8.toNat_ofNat_of_lt' h⟩

/-- The encoding of a character is one of its forms. -/
theorem form_utf8EncodeChar (c : Char) : Form (String.utf8EncodeChar c) c.toNat := by
  have hv : c.toNat.isValidChar := c.valid
  rw [← Char.ofNat_toNat c, utf8EncodeChar_ofNat hv, Char.ofNat_toNat]
  generalize c.toNat = v at hv
  unfold Nat.isValidChar at hv
  -- each byte gets a name, so that its range and its part of the value are linear facts
  split
  · obtain ⟨a, ha, hav⟩ := exists_byte (n := v) (by omega)
    have h := Form.one a (by omega)
    rwa [ha, ← hav]
  split
  · obtain ⟨a, ha, hav⟩ := exists_byte (n := v / 64 % 32 + 0xC0) (by omega)
    obtain ⟨b, hb, hbv⟩ := exists_byte (n := v % 64 + 0x80) (by omega)
    have h := Form.two a b (by omega) (by omega)
    rwa [ha, hb, show v = a.toNat % 32 * 64 + b.toNat % 64 by omega]
  split
  · obtain ⟨a, ha, hav⟩ := exists_byte (n := v / 4096 % 16 + 0xE0) (by omega)
    obtain ⟨b, hb, hbv⟩ := exists_byte (n := v / 64 % 64 + 0x80) (by omega)
    obtain ⟨c, hc, hcv⟩ := exists_byte (n := v % 64 + 0x80) (by omega)
    have h := Form.three a b c (by omega) (by omega) (by omega) (by omega) (by omega)
    rwa [show (a.toNat % 16 * 64 + b.toNat % 64) * 64 + c.toNat % 64 = v by omega, ← ha, ← hb,
      ← hc] at h
  · obtain ⟨a, ha, hav⟩ := exists_byte (n := v / 262144 % 8 + 0xF0) (by omega)
    obtain ⟨b, hb, hbv⟩ := exists_byte (n := v / 4096 % 64 + 0x80) (by omega)
    obtain ⟨c, hc, hcv⟩ := exists_byte (n := v / 64 % 64 + 0x80) (by omega)
    obtain ⟨d, hd, hdv⟩ := exists_byte (n := v % 64 + 0x80) (by omega)
    have h := Form.four a b c d (by omega) (by omega) (by omega) (by omega) (by omega) (by omega)
    rwa [show ((a.toNat % 8 * 64 + b.toNat % 64) * 64 + c.toNat % 64) * 64 + d.toNat % 64 = v by
      omega, ← ha, ← hb, ← hc, ← hd] at h

/-- A step takes a character if its encoding stands at the front, and only then. -/
theorem step_eq_char {bs rest : List UInt8} {c : Char} :
    step bs = .char c rest ↔ bs = String.utf8EncodeChar c ++ rest := by
  constructor
  · intro h
    obtain ⟨form, v, hform, rfl, rfl⟩ := form_of_step h
    rw [hform.encoded.2]
  · rintro rfl
    rw [step_of_form (form_utf8EncodeChar c), Char.ofNat_toNat]

theorem takeTail_ne_done (n : Nat) (lo hi : UInt8) (value : Nat) (bs : List UInt8) :
    takeTail n lo hi value bs ≠ .done := by
  induction n generalizing lo hi value bs with
  | zero => simp [takeTail]
  | succ n ih =>
      cases bs with
      | nil => simp [takeTail]
      | cons b more =>
          rw [takeTail]
          split
          · exact ih _ _ _ _
          · simp

theorem step_eq_done {bs : List UInt8} : step bs = .done ↔ bs = [] := by
  refine ⟨fun h => ?_, fun h => h ▸ rfl⟩
  cases bs with
  | nil => rfl
  | cons a more =>
      rw [step] at h
      split at h
      · cases h
      · exact absurd h (takeTail_ne_done _ _ _ _ _)

/-! ## Whole texts -/

theorem encodeChars_nil : encodeChars [] = [] := rfl

theorem encodeChars_cons (c : Char) (cs : List Char) :
    encodeChars (c :: cs) = String.utf8EncodeChar c ++ encodeChars cs := List.flatMap_cons

theorem encodeChars_append (cs ds : List Char) :
    encodeChars (cs ++ ds) = encodeChars cs ++ encodeChars ds := List.flatMap_append

theorem length_le_encodeChars (cs : List Char) : cs.length ≤ (encodeChars cs).length := by
  induction cs with
  | nil => exact Nat.zero_le _
  | cons c cs ih =>
      have hpos : 0 < (String.utf8EncodeChar c).length :=
        List.length_pos_iff.mpr String.utf8EncodeChar_ne_nil
      rw [encodeChars_cons, List.length_append, List.length_cons]
      omega

theorem firstFlawFrom?_char (before : Nat) (c : Char) (rest : List UInt8) :
    firstFlawFrom? before (String.utf8EncodeChar c ++ rest) =
      firstFlawFrom? (before + c.utf8Size) rest := by
  have h : step (String.utf8EncodeChar c ++ rest) = .char c rest := step_eq_char.mpr rfl
  rw [firstFlawFrom?]
  split <;> rename_i h' <;> rw [h] at h' <;> cases h'
  rfl

theorem decodeLossyFrom_char (seen : List Char) (c : Char) (rest : List UInt8) :
    decodeLossyFrom seen (String.utf8EncodeChar c ++ rest) = decodeLossyFrom (c :: seen) rest := by
  have h : step (String.utf8EncodeChar c ++ rest) = .char c rest := step_eq_char.mpr rfl
  rw [decodeLossyFrom]
  split <;> rename_i h' <;> rw [h] at h' <;> cases h'
  rfl

theorem firstFlawFrom?_encodeChars (before : Nat) (cs : List Char) :
    firstFlawFrom? before (encodeChars cs) = none := by
  induction cs generalizing before with
  | nil => rw [encodeChars_nil, firstFlawFrom?]; rfl
  | cons c cs ih => rw [encodeChars_cons, firstFlawFrom?_char, ih]

theorem exists_of_firstFlawFrom? {before : Nat} {bs : List UInt8}
    (h : firstFlawFrom? before bs = none) : ∃ cs, encodeChars cs = bs := by
  induction before, bs using firstFlawFrom?.induct with
  | case1 before bs hs => exact ⟨[], (step_eq_done.mp hs).symm⟩
  | case2 before bs c rest hs ih =>
      obtain rfl := step_eq_char.mp hs
      rw [firstFlawFrom?_char] at h
      obtain ⟨cs, rfl⟩ := ih h
      exact ⟨c :: cs, encodeChars_cons c cs⟩
  | case3 before bs rest hs =>
      rw [firstFlawFrom?] at h
      split at h <;> simp_all
  | case4 before bs hs =>
      rw [firstFlawFrom?] at h
      split at h <;> simp_all

/-- The byte strings without a flaw are the encodings of texts. -/
theorem firstFlaw?_eq_none {bs : List UInt8} : firstFlaw? bs = none ↔ ∃ cs, encodeChars cs = bs :=
  ⟨exists_of_firstFlawFrom?, fun ⟨cs, h⟩ => h ▸ firstFlawFrom?_encodeChars 0 cs⟩

theorem decodeLossyFrom_encodeChars (seen cs : List Char) :
    decodeLossyFrom seen (encodeChars cs) = seen.reverse ++ cs := by
  induction cs generalizing seen with
  | nil => rw [encodeChars_nil, decodeLossyFrom, List.append_nil]; rfl
  | cons c cs ih =>
      rw [encodeChars_cons, decodeLossyFrom_char, ih, List.reverse_cons, List.append_assoc]
      rfl

/-- Nothing is replaced in the encoding of a text. -/
theorem decodeLossyChars_encodeChars (cs : List Char) :
    decodeLossyChars (encodeChars cs) = cs := decodeLossyFrom_encodeChars [] cs

theorem decodeFrom?_char (seen : List Char) (c : Char) (rest : List UInt8) :
    decodeFrom? seen (String.utf8EncodeChar c ++ rest) = decodeFrom? (c :: seen) rest := by
  have h : step (String.utf8EncodeChar c ++ rest) = .char c rest := step_eq_char.mpr rfl
  rw [decodeFrom?]
  split <;> rename_i h' <;> rw [h] at h' <;> cases h'
  rfl

theorem decodeFrom?_encodeChars (seen cs : List Char) :
    decodeFrom? seen (encodeChars cs) = some (seen.reverse ++ cs) := by
  induction cs generalizing seen with
  | nil => rw [encodeChars_nil, decodeFrom?, List.append_nil]; rfl
  | cons c cs ih =>
      rw [encodeChars_cons, decodeFrom?_char, ih, List.reverse_cons, List.append_assoc]
      rfl

/-- The strict reading gives a text back. -/
theorem decode?_encodeChars (cs : List Char) :
    decode? (encodeChars cs) = some (String.ofList cs) := by
  rw [decode?, decodeChars?, decodeFrom?_encodeChars]
  rfl

/-! ## Characters of one byte -/

/-- A byte below 0x80 stands for one character and is part of no other. -/
theorem Form.mem {form : List UInt8} {v : Nat} (h : Form form v) {b : UInt8} (hb : b.toNat < 0x80) :
    b ∈ form ↔ form = [b] ∧ v = b.toNat := by
  cases h with
  | one a ha =>
      simp only [List.mem_singleton, List.cons.injEq, and_true]
      exact ⟨fun h => h ▸ ⟨rfl, rfl⟩, fun h => h.1.symm⟩
  | _ =>
      simp only [List.mem_cons, List.not_mem_nil, or_false, List.cons.injEq, reduceCtorEq,
        and_false, false_and, iff_false, not_or, ← UInt8.toNat_inj]
      omega

theorem mem_utf8EncodeChar {b : UInt8} (hb : b.toNat < 0x80) {c : Char} :
    b ∈ String.utf8EncodeChar c ↔ c = Char.ofNat b.toNat := by
  rw [(form_utf8EncodeChar c).mem hb]
  constructor
  · rintro ⟨-, hv⟩
    rw [← hv, Char.ofNat_toNat]
  · rintro rfl
    have hform := (Form.one b hb).encoded
    have hvalue : (Char.ofNat b.toNat).toNat = b.toNat := by
      rw [Char.ofNat, dif_pos hform.1]
      rfl
    exact ⟨hform.2, hvalue⟩

/-- A character below U+0080 is one byte of the same value. -/
theorem utf8EncodeChar_of_lt {c : Char} (h : c.toNat < 0x80) :
    ∃ b : UInt8, String.utf8EncodeChar c = [b] ∧ b.toNat = c.toNat := by
  refine ⟨UInt8.ofNat c.toNat, ?_, UInt8.toNat_ofNat_of_lt' (Nat.lt_trans h (by decide))⟩
  have hencoded := utf8EncodeChar_ofNat (v := c.toNat) c.valid
  rwa [Char.ofNat_toNat, if_pos (by omega)] at hencoded

theorem mem_encodeChars {b : UInt8} (hb : b.toNat < 0x80) {cs : List Char} :
    b ∈ encodeChars cs ↔ Char.ofNat b.toNat ∈ cs := by
  rw [encodeChars, List.mem_flatMap]
  constructor
  · rintro ⟨c, hc, hmem⟩
    rwa [← (mem_utf8EncodeChar hb).mp hmem]
  · exact fun h => ⟨_, h, (mem_utf8EncodeChar hb).mpr rfl⟩

/-- A text whose encoding ends in a byte below 0x80 ends in the character of that byte. -/
theorem eq_concat_of_encodeChars {b : UInt8} (hb : b.toNat < 0x80) {cs : List Char}
    {content : List UInt8} (h : encodeChars cs = content ++ [b]) :
    ∃ ds, cs = ds ++ [Char.ofNat b.toNat] ∧ encodeChars ds = content := by
  rcases List.eq_nil_or_concat cs with rfl | ⟨ds, c, rfl⟩
  · simp [encodeChars_nil] at h
  · rw [List.concat_eq_append] at h ⊢
    rw [encodeChars_append, encodeChars_cons, encodeChars_nil, List.append_nil] at h
    have hlast : (String.utf8EncodeChar c).getLast? = some b := by
      have hlast := congrArg List.getLast? h
      rw [List.getLast?_append, List.getLast?_concat,
        List.getLast?_eq_some_getLast String.utf8EncodeChar_ne_nil, Option.some_or] at hlast
      rw [List.getLast?_eq_some_getLast String.utf8EncodeChar_ne_nil, hlast]
    have hmem : b ∈ String.utf8EncodeChar c := List.mem_of_getLast? hlast
    have hsingle := ((form_utf8EncodeChar c).mem hb).mp hmem
    rw [hsingle.1] at h
    exact ⟨ds, by rw [(mem_utf8EncodeChar hb).mp hmem], List.append_cancel_right h⟩

end DiagServer.Text.Utf8
