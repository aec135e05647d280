import DiagServer.Json.Printer
import DiagServer.Json.Token
import DiagServer.Proofs.Text.Utf8

/-!
# Written integers read back

The reader takes digits into a significand as long as it fits 64 bits, and it hands a number on as
an integer only if neither a point nor an exponent follows. The digits of a number below `2^64`
fit all the way, because no first part of them is a larger number, and none but zero is written
with a zero in front, which the reader would take for the whole number.
-/

namespace DiagServer.Json

open DiagServer.Text.Utf8

/-- The bytes do not go on with a number that was written before them. -/
def Ends (rest : List UInt8) : Prop :=
  ∀ b, rest.head? = some b → isDigit b = false ∧ b ≠ 0x2E ∧ b ≠ 0x65 ∧ b ≠ 0x45

theorem ends_nil : Ends [] := by
  intro b hb
  cases hb

theorem ends_cons {b : UInt8} (h : isDigit b = false ∧ b ≠ 0x2E ∧ b ≠ 0x65 ∧ b ≠ 0x45)
    (rest : List UInt8) : Ends (b :: rest) := by
  intro c hc
  cases hc
  exact h

/-- The bytes do not go on with digits. -/
def Stops (rest : List UInt8) : Prop := ∀ b, rest.head? = some b → isDigit b = false

theorem Ends.stops {rest : List UInt8} (h : Ends rest) : Stops rest := fun b hb => (h b hb).1

theorem stops_cons {b : UInt8} (hb : isDigit b = false) (rest : List UInt8) :
    Stops (b :: rest) := by
  intro c hc
  rwa [← Option.some.inj hc]

/-! ## Digits as bytes -/

theorem utf8EncodeChar_digit {c : Char} (hc : c.isDigit = true) :
    ∃ b, String.utf8EncodeChar c = [b] ∧ isDigit b = true ∧ b.toNat = c.toNat := by
  have hrange : 48 ≤ c.toNat ∧ c.toNat ≤ 57 := by
    simpa [Char.isDigit, UInt32.le_iff_toNat_le] using hc
  obtain ⟨b, hencoded, hvalue⟩ := utf8EncodeChar_of_lt (c := c) (by omega)
  refine ⟨b, hencoded, ?_, hvalue⟩
  simp only [isDigit, Bool.and_eq_true, decide_eq_true_eq, UInt8.le_iff_toNat_le,
    UInt8.reduceToNat]
  omega

theorem isDigit_of_mem {ds : List Char} (h : ∀ c ∈ ds, c.isDigit = true) :
    ∀ b ∈ encodeChars ds, isDigit b = true := by
  intro b hb
  obtain ⟨c, hc, hmem⟩ := List.mem_flatMap.mp hb
  obtain ⟨d, hencoded, hdigit, -⟩ := utf8EncodeChar_digit (h c hc)
  rw [hencoded, List.mem_singleton] at hmem
  rwa [hmem]

theorem takeWhile_digits {ds : List UInt8} (h : ∀ b ∈ ds, isDigit b = true) {rest : List UInt8}
    (hrest : Stops rest) : (ds ++ rest).takeWhile isDigit = ds := by
  rw [List.takeWhile_append_of_pos h]
  cases rest with
  | nil => rw [List.takeWhile_nil, List.append_nil]
  | cons b rest =>
      rw [List.takeWhile_cons_of_neg (by simp [hrest b rfl]), List.append_nil]

theorem dropWhile_digits {ds : List UInt8} (h : ∀ b ∈ ds, isDigit b = true) {rest : List UInt8}
    (hrest : Stops rest) : (ds ++ rest).dropWhile isDigit = rest := by
  have hsplit := List.takeWhile_append_dropWhile (p := isDigit) (l := ds ++ rest)
  rw [takeWhile_digits h hrest] at hsplit
  exact List.append_cancel_left hsplit

/-! ## The significand -/

theorem le_ofDigitChars (ds : List Char) (value : Nat) : value ≤ Nat.ofDigitChars 10 ds value := by
  rw [Nat.ofDigitChars_eq_ofDigitChars_zero]
  have h : 1 * value ≤ 10 ^ ds.length * value :=
    Nat.mul_le_mul_right value (Nat.pow_pos (by decide))
  omega

/-- All digits are taken if the number that they make fits. -/
theorem takeWhole_digits {ds : List Char} (h : ∀ c ∈ ds, c.isDigit = true) {value : Nat}
    (hfits : Nat.ofDigitChars 10 ds value ≤ maxUnsigned) :
    takeWhole value 0 (encodeChars ds) = (Nat.ofDigitChars 10 ds value, 0) := by
  induction ds generalizing value with
  | nil => rfl
  | cons c ds ih =>
      rw [List.forall_mem_cons] at h
      obtain ⟨b, hencoded, -, hvalue⟩ := utf8EncodeChar_digit h.1
      have hnext : value * 10 + digitValue b = 10 * value + (c.toNat - '0'.toNat) := by
        rw [digitValue, hvalue, Nat.mul_comm]
        rfl
      rw [Nat.ofDigitChars_cons] at hfits ⊢
      rw [encodeChars_cons, hencoded, List.singleton_append, takeWhole]
      simp only [hnext]
      rw [if_pos (Nat.le_trans (le_ofDigitChars ds _) hfits)]
      exact ih h.2 hfits

/-- No number but zero is written with a zero in front. -/
theorem toDigits_of_pos {n : Nat} (hn : 0 < n) : ∃ d ds, Nat.toDigits 10 n = d :: ds ∧ d ≠ '0' := by
  induction n using Nat.strongRecOn with
  | _ n ih =>
      by_cases hsmall : n < 10
      · refine ⟨Nat.digitChar n, [], Nat.toDigits_of_lt_base hsmall, fun hzero => ?_⟩
        have hvalue := Nat.toNat_digitChar_sub_48_of_lt_ten hsmall
        rw [hzero] at hvalue
        exact absurd hvalue (by simp; omega)
      · obtain ⟨d, ds, hds, hd⟩ := ih (n / 10) (by omega) (by omega)
        refine ⟨d, ds ++ [Nat.digitChar (n % 10)], ?_, hd⟩
        rw [Nat.toDigits_of_base_le (by decide) (by omega), hds, List.cons_append]

theorem isDigit_of_mem_toDigits {n : Nat} : ∀ c ∈ Nat.toDigits 10 n, c.isDigit = true :=
  fun _ hc => Nat.isDigit_of_mem_toDigits (by decide) (by decide) hc

/-! ## Numbers -/

theorem readAfterWhole_ends {rest : List UInt8} (h : Ends rest) (negative : Bool)
    (value dropped : Nat) :
    readAfterWhole negative value dropped rest = makeWhole negative value dropped rest := by
  rw [readAfterWhole.eq_def]
  split
  · next rest => exact absurd rfl (h 0x2E rfl).2.1
  · next rest => exact absurd rfl (h 0x65 rfl).2.2.1
  · next rest => exact absurd rfl (h 0x45 rfl).2.2.2
  · rfl

theorem readNumber_zero (negative : Bool) {rest : List UInt8} (h : Ends rest) :
    readNumber negative (0x30 :: rest) = makeWhole negative 0 0 rest := by
  rw [readNumber.eq_def]
  cases rest with
  | nil => exact readAfterWhole_ends h negative 0 0
  | cons b rest =>
      simp only
      rw [if_neg (by simp [(h b rfl).1])]
      exact readAfterWhole_ends h negative 0 0

theorem readNumber_digit (negative : Bool) {b : UInt8} (hb : isDigit b = true) (hzero : b ≠ 0x30)
    (bs : List UInt8) :
    readNumber negative (b :: bs) =
      readAfterWhole negative (takeWhole (digitValue b) 0 (bs.takeWhile isDigit)).1
        (takeWhole (digitValue b) 0 (bs.takeWhile isDigit)).2 (bs.dropWhile isDigit) := by
  rw [readNumber.eq_def]
  split
  · next h => cases h
  · next h =>
      cases h
      exact absurd rfl hzero
  · next h =>
      cases h
      rw [if_pos hb]

/-- The digits of a number that fits are read as this number. -/
theorem readNumber_toDigits (negative : Bool) {n : Nat} (hn : n ≤ maxUnsigned)
    {rest : List UInt8} (hrest : Ends rest) :
    readNumber negative (encodeChars (Nat.toDigits 10 n) ++ rest) =
      makeWhole negative n 0 rest := by
  rcases Nat.eq_zero_or_pos n with rfl | hpos
  · exact readNumber_zero negative hrest
  · have hdigits := isDigit_of_mem_toDigits (n := n)
    have hvalue := Nat.ofDigitChars_ten_toDigits (n := n)
    obtain ⟨d, ds, hds, hd⟩ := toDigits_of_pos hpos
    rw [hds] at hdigits hvalue ⊢
    rw [List.forall_mem_cons] at hdigits
    obtain ⟨b, hencoded, hb, hbvalue⟩ := utf8EncodeChar_digit hdigits.1
    have hzero : b ≠ 0x30 := by
      rintro rfl
      exact hd (Char.toNat_inj.mp hbvalue.symm)
    have hbytes := isDigit_of_mem hdigits.2
    -- what is left of the digits behind the first goes on from the value of the first
    have hrestValue : Nat.ofDigitChars 10 ds (digitValue b) = n := by
      rw [Nat.ofDigitChars_cons, Nat.mul_zero, Nat.zero_add] at hvalue
      rw [digitValue, hbvalue]
      exact hvalue
    rw [encodeChars_cons, hencoded, List.singleton_append, List.cons_append,
      readNumber_digit negative hb hzero, takeWhile_digits hbytes hrest.stops,
      dropWhile_digits hbytes hrest.stops,
      takeWhole_digits hdigits.2 (by rw [hrestValue]; exact hn), hrestValue]
    exact readAfterWhole_ends hrest negative n 0

theorem makeWhole_unsigned (n : Nat) (rest : List UInt8) :
    makeWhole false n 0 rest = .ok (.int n, rest) := by
  rw [makeWhole, if_neg (by simp), if_pos (by rfl)]

theorem makeWhole_negative {n : Nat} (hpos : n ≠ 0) (hmin : minSigned ≤ -(n : Int))
    (rest : List UInt8) : makeWhole true n 0 rest = .ok (.int (-n), rest) := by
  rw [makeWhole, if_neg (by simp), if_neg (by simp), if_neg (by omega)]

end DiagServer.Json
