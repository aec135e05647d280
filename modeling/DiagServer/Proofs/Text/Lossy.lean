import DiagServer.Proofs.Text.Utf8

/-!
# A byte below 0x80 bounds what is broken

No byte below 0x80 may stand behind a lead byte, so a character that was begun before such a byte
ends there, whole or broken, and the byte is read as a character of its own. Hence the lossy
decoding of two byte strings with such a byte between them is that of the one and of the other: a
character cut at the end of the first is one U+FFFD whether the input ends there or goes on.

A text whose last character is cut is no UTF-8, and it is the cut that is noticed: what is broken
stays broken whatever comes behind it, so what the rest of the character would mend is cut.
-/

namespace DiagServer.Text.Utf8

variable {n value : Nat} {lo hi b : UInt8} {bs rest : List UInt8}

/-! ## Tails with something behind them -/

theorem takeTail_append_of_broken (h : takeTail n lo hi value bs = .broken rest)
    (more : List UInt8) : takeTail n lo hi value (bs ++ more) = .broken (rest ++ more) := by
  induction n generalizing lo hi value bs with
  | zero => cases h
  | succ n ih =>
      cases bs with
      | nil => cases h
      | cons c bs =>
          rw [takeTail] at h
          rw [List.cons_append, takeTail]
          split at h
          · next hc =>
              rw [if_pos hc]
              exact ih h
          · next hc =>
              cases h
              rw [if_neg hc]
              rfl

/-- A tail that was cut is broken by a byte that cannot stand in it. -/
theorem takeTail_append_of_cut (hlo : 0x80 ≤ lo.toNat) (hb : b.toNat < 0x80)
    (h : takeTail n lo hi value bs = .cut) (more : List UInt8) :
    takeTail n lo hi value (bs ++ b :: more) = .broken (b :: more) := by
  induction n generalizing lo hi value bs with
  | zero => cases h
  | succ n ih =>
      cases bs with
      | nil =>
          have hout : ¬(lo ≤ b ∧ b ≤ hi) := by
            rw [UInt8.le_iff_toNat_le]
            omega
          rw [List.nil_append, takeTail, if_neg hout]
      | cons c bs =>
          rw [takeTail] at h
          rw [List.cons_append, takeTail]
          split at h
          · next hc =>
              rw [if_pos hc]
              exact ih (by decide) h
          · cases h

theorem takeTail_broken_suffix (h : takeTail n lo hi value bs = .broken rest) : rest <:+ bs := by
  induction n generalizing lo hi value bs with
  | zero => cases h
  | succ n ih =>
      cases bs with
      | nil => cases h
      | cons c bs =>
          rw [takeTail] at h
          split at h
          · exact (ih h).trans (List.suffix_cons c bs)
          · cases h
            exact List.suffix_rfl

/-! ## Steps with something behind them -/

theorem secondByteRange_lo (lead : UInt8) : 0x80 ≤ (secondByteRange lead).1.toNat := by
  unfold secondByteRange
  repeat' split
  all_goals decide

theorem step_append_of_broken (h : step bs = .broken rest) (more : List UInt8) :
    step (bs ++ more) = .broken (rest ++ more) := by
  cases bs with
  | nil => cases h
  | cons lead bs =>
      rw [step] at h
      rw [List.cons_append, step]
      split at h
      · cases h
        rfl
      · exact takeTail_append_of_broken h more

theorem step_append_of_cut (hb : b.toNat < 0x80) (h : step bs = .cut) (more : List UInt8) :
    step (bs ++ b :: more) = .broken (b :: more) := by
  cases bs with
  | nil => cases h
  | cons lead bs =>
      rw [step] at h
      rw [List.cons_append, step]
      split at h
      · cases h
      · exact takeTail_append_of_cut (secondByteRange_lo lead) hb h more

theorem step_broken_suffix (h : step bs = .broken rest) : rest <:+ bs := by
  cases bs with
  | nil => cases h
  | cons lead bs =>
      rw [step] at h
      split at h
      · cases h
        exact List.suffix_cons lead _
      · exact (takeTail_broken_suffix h).trans (List.suffix_cons lead bs)

/-! ## Characters that are cut -/

theorem step_of_part {c : Char} {part lost : List UInt8}
    (h : String.utf8EncodeChar c = part ++ lost) (hpart : part ≠ []) (hlost : lost ≠ []) :
    step part = .cut := by
  have hwhole : step (part ++ lost) = .char c [] :=
    step_eq_char.mpr (by rw [← h, List.append_nil])
  cases hstep : step part with
  | done => exact absurd (step_eq_done.mp hstep) hpart
  | char d rest =>
      obtain rfl := step_eq_char.mp hstep
      have hother : step (String.utf8EncodeChar d ++ rest ++ lost) = .char d (rest ++ lost) :=
        step_eq_char.mpr (List.append_assoc _ _ _)
      rw [hwhole] at hother
      cases lost with
      | nil => exact absurd rfl hlost
      | cons b lost => simp at hother
  | broken rest =>
      rw [step_append_of_broken hstep lost] at hwhole
      cases hwhole
  | cut => rfl

theorem firstFlawFrom?_append (before : Nat) (cs : List Char) (rest : List UInt8) :
    firstFlawFrom? before (encodeChars cs ++ rest) =
      firstFlawFrom? (before + (encodeChars cs).length) rest := by
  induction cs generalizing before with
  | nil => rfl
  | cons c cs ih =>
      rw [encodeChars_cons, List.append_assoc, firstFlawFrom?_char, ih, List.length_append,
        String.length_utf8EncodeChar, Nat.add_assoc]

/-- A text whose last character is cut has its flaw where that character begins. -/
theorem firstFlaw?_of_part {c : Char} {part lost : List UInt8}
    (h : String.utf8EncodeChar c = part ++ lost) (hpart : part ≠ []) (hlost : lost ≠ [])
    (cs : List Char) :
    firstFlaw? (encodeChars cs ++ part) = some ⟨(encodeChars cs).length, none⟩ := by
  have hstep := step_of_part h hpart hlost
  rw [firstFlaw?, firstFlawFrom?_append, Nat.zero_add, firstFlawFrom?]
  split <;> rename_i h' <;> rw [hstep] at h' <;> cases h'

/-! ## Lossy decoding -/

theorem decodeLossyFrom_nil (seen : List Char) : decodeLossyFrom seen [] = seen.reverse := by
  rw [decodeLossyFrom]
  rfl

theorem decodeLossyFrom_broken (h : step bs = .broken rest) (seen : List Char) :
    decodeLossyFrom seen bs = decodeLossyFrom ('\uFFFD' :: seen) rest := by
  rw [decodeLossyFrom]
  split <;> rename_i h' <;> rw [h] at h' <;> cases h'
  rfl

theorem decodeLossyFrom_cut (h : step bs = .cut) (seen : List Char) :
    decodeLossyFrom seen bs = ('\uFFFD' :: seen).reverse := by
  rw [decodeLossyFrom]
  split <;> rename_i h' <;> rw [h] at h' <;> cases h'

/-- What was read before stays in front. -/
theorem decodeLossyFrom_eq (seen : List Char) (bs : List UInt8) :
    decodeLossyFrom seen bs = seen.reverse ++ decodeLossyChars bs := by
  -- on the length, since a step leaves what is not a tail by structure
  induction hlength : bs.length using Nat.strongRecOn generalizing seen bs with
  | _ length ih =>
      subst hlength
      cases h : step bs with
      | done =>
          obtain rfl := step_eq_done.mp h
          rw [decodeLossyChars, decodeLossyFrom_nil, decodeLossyFrom_nil, List.reverse_nil,
            List.append_nil]
      | char c rest =>
          have hlt : rest.length < bs.length := length_of_step (.inl ⟨c, h⟩)
          obtain rfl := step_eq_char.mp h
          rw [decodeLossyChars, decodeLossyFrom_char, decodeLossyFrom_char, ih _ hlt _ _ rfl,
            ih _ hlt [c] _ rfl, List.reverse_cons, List.append_assoc]
          rfl
      | broken rest =>
          have hlt : rest.length < bs.length := length_of_step (.inr h)
          rw [decodeLossyChars, decodeLossyFrom_broken h, decodeLossyFrom_broken h,
            ih _ hlt _ _ rfl, ih _ hlt ['\uFFFD'] _ rfl, List.reverse_cons, List.append_assoc]
          rfl
      | cut =>
          rw [decodeLossyChars, decodeLossyFrom_cut h, decodeLossyFrom_cut h, List.reverse_cons]
          rfl

theorem decodeLossyChars_nil : decodeLossyChars [] = [] := decodeLossyFrom_nil []

theorem decodeLossyChars_char (c : Char) (rest : List UInt8) :
    decodeLossyChars (String.utf8EncodeChar c ++ rest) = c :: decodeLossyChars rest := by
  rw [decodeLossyChars, decodeLossyFrom_char, decodeLossyFrom_eq]
  rfl

theorem decodeLossyChars_broken (h : step bs = .broken rest) :
    decodeLossyChars bs = '\uFFFD' :: decodeLossyChars rest := by
  rw [decodeLossyChars, decodeLossyFrom_broken h, decodeLossyFrom_eq]
  rfl

theorem decodeLossyChars_cut (h : step bs = .cut) : decodeLossyChars bs = ['\uFFFD'] :=
  decodeLossyFrom_cut h []

theorem decodeLossyChars_byte (hb : b.toNat < 0x80) (rest : List UInt8) :
    decodeLossyChars (b :: rest) = Char.ofNat b.toNat :: decodeLossyChars rest := by
  have h := decodeLossyChars_char (Char.ofNat b.toNat) rest
  rwa [(Form.one b hb).encoded.2] at h

/-- A byte below 0x80 is decoded by itself, and what stands on either side of it as well. -/
theorem decodeLossyChars_append_cons (hb : b.toNat < 0x80) (bs rest : List UInt8) :
    decodeLossyChars (bs ++ b :: rest) =
      decodeLossyChars bs ++ Char.ofNat b.toNat :: decodeLossyChars rest := by
  induction hlength : bs.length using Nat.strongRecOn generalizing bs with
  | _ length ih =>
      subst hlength
      cases h : step bs with
      | done =>
          obtain rfl := step_eq_done.mp h
          rw [List.nil_append, decodeLossyChars_byte hb, decodeLossyChars_nil, List.nil_append]
      | char c more =>
          have hlt : more.length < bs.length := length_of_step (.inl ⟨c, h⟩)
          obtain rfl := step_eq_char.mp h
          rw [List.append_assoc, decodeLossyChars_char, decodeLossyChars_char, ih _ hlt _ rfl]
          rfl
      | broken more =>
          have hlt : more.length < bs.length := length_of_step (.inr h)
          rw [decodeLossyChars_broken (step_append_of_broken h (b :: rest)),
            decodeLossyChars_broken h, ih _ hlt _ rfl]
          rfl
      | cut =>
          -- here the byte breaks what the end of the input would have cut
          rw [decodeLossyChars_broken (step_append_of_cut hb h rest), decodeLossyChars_cut h,
            decodeLossyChars_byte hb]
          rfl

theorem notMem_decodeLossyChars (hb : b.toNat < 0x80) (h : b ∉ bs) :
    Char.ofNat b.toNat ∉ decodeLossyChars bs := by
  have hother : Char.ofNat b.toNat ≠ '\uFFFD' := by
    intro heq
    have hvalue : (Char.ofNat b.toNat).toNat = b.toNat := by
      rw [Char.ofNat, dif_pos (Form.one b hb).encoded.1]
      rfl
    rw [heq] at hvalue
    have hlarge : '\uFFFD'.toNat = 0xFFFD := rfl
    omega
  induction hlength : bs.length using Nat.strongRecOn generalizing bs with
  | _ length ih =>
      subst hlength
      cases hstep : step bs with
      | done =>
          obtain rfl := step_eq_done.mp hstep
          rw [decodeLossyChars_nil]
          exact List.not_mem_nil
      | char c rest =>
          have hlt : rest.length < bs.length := length_of_step (.inl ⟨c, hstep⟩)
          obtain rfl := step_eq_char.mp hstep
          rw [List.mem_append, not_or] at h
          rw [decodeLossyChars_char, List.mem_cons, not_or]
          exact ⟨fun heq => h.1 ((mem_utf8EncodeChar hb).mpr heq.symm), ih _ hlt h.2 rfl⟩
      | broken rest =>
          have hlt : rest.length < bs.length := length_of_step (.inr hstep)
          have hrest : b ∉ rest := fun hmem => h ((step_broken_suffix hstep).subset hmem)
          rw [decodeLossyChars_broken hstep, List.mem_cons, not_or]
          exact ⟨hother, ih _ hlt hrest rfl⟩
      | cut =>
          rw [decodeLossyChars_cut hstep, List.mem_singleton]
          exact hother

end DiagServer.Text.Utf8
