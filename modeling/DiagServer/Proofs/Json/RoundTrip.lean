import DiagServer.Json.Reader
import DiagServer.Proofs.Json.Members
import DiagServer.Proofs.Json.Number
import DiagServer.Proofs.Json.Text

/-!
# Written values read back

`Portable` holds the values that compact JSON text carries without loss. A reader takes bytes from
the front and does not see the end of a value before it gets there, so what is proved by induction
on the value is about the value's text with anything behind it that does not go on with a number
(`Ends`); inside an array or an object that is a comma or the closing bracket. Of the bytes in front
only one thing matters to the readers of lists: a value starts neither with a blank nor with the
bracket that would end the list (`Starts`).
-/

namespace DiagServer.Json

open DiagServer.Text.Utf8

/-- The values whose text says all about them, with at most `depth` brackets open at once: integers
of 64 bits, signed below zero and unsigned above, and objects of which no two members have the same
name. Doubles are left out. -/
inductive Portable : Nat → Json → Prop
  | null {depth : Nat} : Portable depth .null
  | bool {depth : Nat} (b : Bool) : Portable depth (.bool b)
  | int {depth : Nat} {i : Int} (hmin : -0x8000000000000000 ≤ i) (hmax : i < 0x10000000000000000) :
      Portable depth (.int i)
  | str {depth : Nat} (s : String) : Portable depth (.str s)
  | arr {depth : Nat} {items : List Json} (hitems : ∀ v ∈ items, Portable depth v) :
      Portable (depth + 1) (.arr items)
  | object {depth : Nat} {members : List (String × Json)} (hnames : (members.map (·.1)).Nodup)
      (hmembers : ∀ m ∈ members, Portable depth m.2) : Portable (depth + 1) (.object members)

/-! ## Words at the front -/

/-- The bytes start with one that is neither blank nor the end of an array. -/
def Starts (bs : List UInt8) : Prop := ∃ b rest, bs = b :: rest ∧ isGap b = false ∧ b ≠ 0x5D

theorem skipGap_cons {b : UInt8} (h : isGap b = false) (rest : List UInt8) :
    skipGap (b :: rest) = b :: rest := by
  rw [skipGap, List.dropWhile_cons_of_neg (by simp [h])]

theorem readKeyword_append (word rest : List UInt8) :
    readKeyword word (word ++ rest) = .ok rest := by
  induction word with
  | nil => rfl
  | cons b word ih => rw [List.cons_append, readKeyword, if_pos rfl, ih]

theorem ne_of_isDigit {b c : UInt8} (hb : isDigit b = true) (hc : isDigit c = false) : b ≠ c := by
  rintro rfl
  rw [hb] at hc
  cases hc

theorem isGap_of_isDigit {b : UInt8} (hb : isDigit b = true) : isGap b = false := by
  simp only [isGap, Bool.or_eq_false_iff, decide_eq_false_iff_not]
  exact ⟨⟨⟨ne_of_isDigit hb (by decide), ne_of_isDigit hb (by decide)⟩,
    ne_of_isDigit hb (by decide)⟩, ne_of_isDigit hb (by decide)⟩

/-- The first digit of a number as a byte. -/
theorem encodeChars_toDigits (n : Nat) :
    ∃ b bs, encodeChars (Nat.toDigits 10 n) = b :: bs ∧ isDigit b = true := by
  obtain ⟨d, ds, hds⟩ := List.exists_cons_of_ne_nil (Nat.toDigits_ne_nil (n := n) (b := 10))
  have hdigit : d.isDigit = true :=
    isDigit_of_mem_toDigits d (by rw [hds]; exact List.mem_cons_self)
  obtain ⟨b, hencoded, hb, -⟩ := utf8EncodeChar_digit hdigit
  exact ⟨b, encodeChars ds, by rw [hds, encodeChars_cons, hencoded]; rfl, hb⟩

/-! ## Scalars -/

section Scalars

variable {limit depth : Nat} {rest : List UInt8}

theorem encode_null : encode .null = 0x6E :: wordNull := by decide

theorem encode_true : encode (.bool true) = 0x74 :: wordTrue := by decide

theorem encode_false : encode (.bool false) = 0x66 :: wordFalse := by decide

theorem encode_str (s : String) :
    encode (.str s) = 0x22 :: encodeChars (s.toList.flatMap escape ++ ['"']) := rfl

theorem encode_int_of_nonneg (n : Nat) : encode (.int n) = encodeChars (Nat.toDigits 10 n) := by
  rw [encode, render, renderInt, if_neg (by omega), Int.natAbs_natCast]

theorem encode_int_of_neg {n : Nat} (hn : n ≠ 0) :
    encode (.int (-n)) = 0x2D :: encodeChars (Nat.toDigits 10 n) := by
  rw [encode, render, renderInt, if_pos (by omega), Int.natAbs_neg, Int.natAbs_natCast]
  rfl

theorem readValue_null : readValue limit depth (encode .null ++ rest) = .ok (.null, rest) := by
  rw [encode_null, List.cons_append, readValue.eq_def, skipGap_cons (by decide)]
  simp only [if_pos, readConstant, readKeyword_append]

theorem readValue_bool (b : Bool) :
    readValue limit depth (encode (.bool b) ++ rest) = .ok (.bool b, rest) := by
  cases b with
  | true =>
      rw [encode_true, List.cons_append, readValue.eq_def, skipGap_cons (by decide)]
      simp only
      rw [if_neg (by decide), if_pos trivial, readConstant, readKeyword_append]
  | false =>
      rw [encode_false, List.cons_append, readValue.eq_def, skipGap_cons (by decide)]
      simp only
      rw [if_neg (by decide), if_neg (by decide), if_pos trivial, readConstant, readKeyword_append]

theorem readValue_str (s : String) :
    readValue limit depth (encode (.str s) ++ rest) = .ok (.str s, rest) := by
  rw [encode_str, List.cons_append, readValue.eq_def, skipGap_cons (by decide)]
  simp only
  rw [if_neg (by decide), if_neg (by decide), if_neg (by decide), if_neg (by decide),
    if_neg (by decide), if_pos trivial, readText_renderText]
  rfl

theorem readValue_digit {b : UInt8} (hb : isDigit b = true) (bs : List UInt8) :
    readValue limit depth (b :: bs) = Read.map Number.toJson (readNumber false (b :: bs)) := by
  rw [readValue.eq_def, skipGap_cons (isGap_of_isDigit hb)]
  simp only
  rw [if_neg (ne_of_isDigit hb (by decide)), if_neg (ne_of_isDigit hb (by decide)),
    if_neg (ne_of_isDigit hb (by decide)), if_neg (ne_of_isDigit hb (by decide)), if_pos hb]

theorem readValue_minus (bs : List UInt8) :
    readValue limit depth (0x2D :: bs) = Read.map Number.toJson (readNumber true bs) := by
  rw [readValue.eq_def, skipGap_cons (by decide)]
  simp only
  rw [if_neg (by decide), if_neg (by decide), if_neg (by decide), if_pos trivial]

theorem readValue_int {i : Int} (hmin : -0x8000000000000000 ≤ i) (hmax : i < 0x10000000000000000)
    (hrest : Ends rest) :
    readValue limit depth (encode (.int i) ++ rest) = .ok (.int i, rest) := by
  have hunsigned : maxUnsigned = 0xFFFFFFFFFFFFFFFF := by decide
  have hsigned : minSigned = -0x8000000000000000 := by decide
  rcases Int.eq_nat_or_neg i with ⟨n, rfl | rfl⟩
  · obtain ⟨b, bs, hbytes, hb⟩ := encodeChars_toDigits n
    have hread := readNumber_toDigits false (n := n) (by omega) hrest
    rw [encode_int_of_nonneg, hbytes, List.cons_append, readValue_digit hb]
    rw [hbytes, List.cons_append, makeWhole_unsigned] at hread
    rw [hread]
    rfl
  · by_cases hn : n = 0
    · subst hn
      have hread := readNumber_zero false hrest
      rw [makeWhole_unsigned] at hread
      show readValue limit depth (0x30 :: rest) = _
      rw [readValue_digit (by decide), hread]
      rfl
    · rw [encode_int_of_neg hn, List.cons_append, readValue_minus,
        readNumber_toDigits true (by omega) hrest, makeWhole_negative hn (by omega)]
      rfl

end Scalars

/-! ## Lists of pieces

The items of an array and the members of an object are written alike: each piece but the first
stands behind a comma, and the last one is followed by the closing bracket.
-/

/-- What stands behind a piece, up to the closing bracket. -/
def behind (close : UInt8) : List (List UInt8) → List UInt8
  | [] => [close]
  | piece :: rest => 0x2C :: (piece ++ behind close rest)

/-- Pieces with commas between them, and the closing bracket. -/
def joined (close : UInt8) : List (List UInt8) → List UInt8
  | [] => [close]
  | piece :: rest => piece ++ behind close rest

theorem ends_behind (close : UInt8)
    (h : isDigit close = false ∧ close ≠ 0x2E ∧ close ≠ 0x65 ∧ close ≠ 0x45)
    (pieces : List (List UInt8)) (more : List UInt8) : Ends (behind close pieces ++ more) := by
  cases pieces with
  | nil => exact ends_cons h more
  | cons piece rest => exact ends_cons (by decide) _

theorem length_behind (close : UInt8) (pieces : List (List UInt8)) :
    pieces.length < (behind close pieces).length ∧
      ∀ piece ∈ pieces, piece.length < (behind close pieces).length := by
  induction pieces with
  | nil => exact ⟨Nat.zero_lt_one, fun _ h => by cases h⟩
  | cons piece rest ih =>
      rw [behind, List.length_cons, List.length_cons, List.length_append, List.forall_mem_cons]
      refine ⟨by omega, by omega, fun other h => ?_⟩
      have := ih.2 other h
      omega

/-- Neither the number of pieces nor the length of one exceeds the length of the whole. -/
theorem length_joined (close : UInt8) (pieces : List (List UInt8)) :
    pieces.length ≤ (joined close pieces).length ∧
      ∀ piece ∈ pieces, piece.length ≤ (joined close pieces).length := by
  cases pieces with
  | nil => exact ⟨Nat.zero_le _, fun _ h => by cases h⟩
  | cons piece rest =>
      have hbehind := length_behind close rest
      rw [joined, List.length_cons, List.length_append, List.forall_mem_cons]
      refine ⟨by omega, by omega, fun other h => ?_⟩
      have := hbehind.2 other h
      omega

theorem encode_renderItems (items : List Json) :
    encodeChars (renderItems items) = joined 0x5D (items.map encode) := by
  cases items with
  | nil => rfl
  | cons v rest =>
      rw [List.map_cons, joined]
      induction rest generalizing v with
      | nil => rw [renderItems, encodeChars_append]; rfl
      | cons w rest ih =>
          rw [List.map_cons, behind, ← ih w]
          show encodeChars (render v ++ ',' :: renderItems (w :: rest)) = _
          rw [encodeChars_append]
          rfl

/-- A member as it is written. -/
def encodeMember (m : String × Json) : List UInt8 :=
  0x22 :: (encodeChars (m.1.toList.flatMap escape ++ ['"']) ++ 0x3A :: encode m.2)

theorem encode_member (m : String × Json) (behind : List Char) :
    encodeChars (renderText m.1 ++ ':' :: (render m.2 ++ behind)) =
      encodeMember m ++ encodeChars behind := by
  rw [encodeChars_append, encodeChars_cons, encodeChars_append, renderText, encodeChars_cons,
    encodeMember, List.cons_append, List.append_assoc, List.append_assoc]
  rfl

theorem encode_renderMembers (members : List (String × Json)) :
    encodeChars (renderMembers members) = joined 0x7D (members.map encodeMember) := by
  cases members with
  | nil => rfl
  | cons m rest =>
      rw [List.map_cons, joined]
      induction rest generalizing m with
      | nil => exact encode_member m ['}']
      | cons n rest ih =>
          rw [List.map_cons, behind, ← ih n]
          exact encode_member m (',' :: renderMembers (n :: rest))

/-! ## Arrays -/

theorem nextItem_closed (first : Bool) (rest : List UInt8) :
    nextItem first (0x5D :: rest) = .ok (.closed rest) := by
  rw [nextItem, skipGap_cons (by decide)]
  simp only [if_pos]

theorem nextItem_first {bs : List UInt8} (h : Starts bs) (more : List UInt8) :
    nextItem true (bs ++ more) = .ok (.item (bs ++ more)) := by
  obtain ⟨b, rest, rfl, hgap, hend⟩ := h
  rw [nextItem, List.cons_append, skipGap_cons hgap]
  simp only [if_neg hend, if_pos]

theorem nextItem_comma {bs : List UInt8} (h : Starts bs) (more : List UInt8) :
    nextItem false (0x2C :: (bs ++ more)) = .ok (.item (bs ++ more)) := by
  obtain ⟨b, rest, rfl, hgap, hend⟩ := h
  rw [nextItem, skipGap_cons (by decide)]
  simp only [List.cons_append, skipGap_cons hgap]
  rw [if_neg (by decide), if_neg (by decide), if_pos trivial, if_neg hend]

section Items

variable {item : List UInt8 → Read Json} {items : List Json}

/-- Behind an item the others are read, as far as `item` reads each of them back. -/
theorem readItemsFrom_behind (hstarts : ∀ v ∈ items, Starts (encode v))
    (hread : ∀ v ∈ items, ∀ rest, Ends rest → item (encode v ++ rest) = .ok (v, rest))
    {seen : List Json} (hseen : seen ≠ []) {fuel : Nat} (hfuel : items.length < fuel)
    (more : List UInt8) :
    readItemsFrom item fuel seen (behind 0x5D (items.map encode) ++ more) =
      .ok (seen.reverse ++ items, more) := by
  induction items generalizing seen fuel with
  | nil =>
      obtain ⟨fuel, rfl⟩ := Nat.exists_eq_add_one.mpr hfuel
      show readItemsFrom item (fuel + 1) seen (0x5D :: more) = _
      rw [readItemsFrom, nextItem_closed, List.append_nil]
  | cons v rest ih =>
      obtain ⟨fuel, rfl⟩ := Nat.exists_eq_add_one.mpr (Nat.zero_lt_of_lt hfuel)
      rw [List.forall_mem_cons] at hstarts hread
      have hempty : seen.isEmpty = false := by simpa using hseen
      rw [List.map_cons, behind, List.cons_append, List.append_assoc, readItemsFrom, hempty,
        nextItem_comma hstarts.1]
      simp only [hread.1 _ (ends_behind 0x5D (by decide) _ more)]
      rw [ih hstarts.2 hread.2 (List.cons_ne_nil v seen) (by simpa using hfuel),
        List.reverse_cons, List.append_assoc]
      rfl

theorem readItems_joined (hstarts : ∀ v ∈ items, Starts (encode v))
    (hread : ∀ v ∈ items, ∀ rest, Ends rest → item (encode v ++ rest) = .ok (v, rest))
    {limit : Nat} (hlimit : items.length < limit) (more : List UInt8) :
    readItems limit item (joined 0x5D (items.map encode) ++ more) = .ok (items, more) := by
  obtain ⟨limit, rfl⟩ := Nat.exists_eq_add_one.mpr (Nat.zero_lt_of_lt hlimit)
  cases items with
  | nil =>
      show readItemsFrom item (limit + 1) [] (0x5D :: more) = _
      rw [readItemsFrom, nextItem_closed]
      rfl
  | cons v rest =>
      rw [List.forall_mem_cons] at hstarts hread
      rw [List.map_cons, joined, readItems, readItemsFrom, List.append_assoc, List.isEmpty_nil,
        nextItem_first hstarts.1]
      simp only [hread.1 _ (ends_behind 0x5D (by decide) _ more)]
      exact readItemsFrom_behind hstarts.2 hread.2 (List.cons_ne_nil v []) (by simpa using hlimit)
        more

end Items

/-! ## Objects -/

theorem nextMember_closed (first : Bool) (rest : List UInt8) :
    nextMember first (0x7D :: rest) = .ok (.closed rest) := by
  rw [nextMember, skipGap_cons (by decide)]
  simp only [if_pos]

theorem nextMember_first (rest : List UInt8) :
    nextMember true (0x22 :: rest) = .ok (.name rest) := by
  rw [nextMember, skipGap_cons (by decide)]
  simp only
  rw [if_neg (by decide), if_pos trivial, if_pos trivial]

theorem nextMember_comma (rest : List UInt8) :
    nextMember false (0x2C :: 0x22 :: rest) = .ok (.name rest) := by
  rw [nextMember, skipGap_cons (by decide)]
  simp only [skipGap_cons (show isGap 0x22 = false by decide)]
  rw [if_neg (by decide), if_neg (by decide), if_pos trivial, if_pos trivial]

theorem readColon_colon (rest : List UInt8) : readColon (0x3A :: rest) = .ok rest := by
  rw [readColon, skipGap_cons (by decide)]
  simp only [if_pos]

section Members

variable {value : List UInt8 → Read Json} {members : List (String × Json)}

/-- Behind a member the others are read, as far as `value` reads the value of each back. -/
theorem readMembersFrom_behind
    (hread : ∀ m ∈ members, ∀ rest, Ends rest → value (encode m.2 ++ rest) = .ok (m.2, rest))
    {seen : List (String × Json)} (hseen : seen ≠ []) {fuel : Nat} (hfuel : members.length < fuel)
    (more : List UInt8) :
    readMembersFrom value fuel seen (behind 0x7D (members.map encodeMember) ++ more) =
      .ok (seen.reverse ++ members, more) := by
  induction members generalizing seen fuel with
  | nil =>
      obtain ⟨fuel, rfl⟩ := Nat.exists_eq_add_one.mpr hfuel
      show readMembersFrom value (fuel + 1) seen (0x7D :: more) = _
      rw [readMembersFrom, nextMember_closed, List.append_nil]
  | cons m rest ih =>
      obtain ⟨fuel, rfl⟩ := Nat.exists_eq_add_one.mpr (Nat.zero_lt_of_lt hfuel)
      rw [List.forall_mem_cons] at hread
      have hempty : seen.isEmpty = false := by simpa using hseen
      rw [List.map_cons, behind, encodeMember, readMembersFrom, hempty]
      simp only [List.cons_append, List.append_assoc, nextMember_comma, readText_renderText,
        readColon_colon, hread.1 _ (ends_behind 0x7D (by decide) _ more)]
      rw [ih hread.2 (List.cons_ne_nil m seen) (by simpa using hfuel), List.reverse_cons,
        List.append_assoc]
      rfl

theorem readMembers_joined
    (hread : ∀ m ∈ members, ∀ rest, Ends rest → value (encode m.2 ++ rest) = .ok (m.2, rest))
    {limit : Nat} (hlimit : members.length < limit) (more : List UInt8) :
    readMembers limit value (joined 0x7D (members.map encodeMember) ++ more) =
      .ok (members, more) := by
  obtain ⟨limit, rfl⟩ := Nat.exists_eq_add_one.mpr (Nat.zero_lt_of_lt hlimit)
  cases members with
  | nil =>
      show readMembersFrom value (limit + 1) [] (0x7D :: more) = _
      rw [readMembersFrom, nextMember_closed]
      rfl
  | cons m rest =>
      rw [List.forall_mem_cons] at hread
      rw [List.map_cons, joined, encodeMember, readMembers, readMembersFrom, List.isEmpty_nil]
      simp only [List.cons_append, List.append_assoc, nextMember_first, readText_renderText,
        readColon_colon, hread.1 _ (ends_behind 0x7D (by decide) _ more)]
      exact readMembersFrom_behind hread.2 (List.cons_ne_nil m []) (by simpa using hlimit) more

end Members

/-! ## Values -/

variable {depth : Nat} {v : Json}

theorem encode_arr (items : List Json) :
    encode (.arr items) = 0x5B :: joined 0x5D (items.map encode) := by
  rw [← encode_renderItems]
  rfl

theorem encode_obj (members : List (String × Json)) :
    encode (.obj members) = 0x7B :: joined 0x7D (members.map encodeMember) := by
  rw [← encode_renderMembers]
  rfl

/-- The reader allows no list as many items as the whole text has bytes, which is enough for every
list in it. -/
theorem length_of_encode_arr {items : List Json} {limit : Nat}
    (h : (encode (.arr items)).length < limit) :
    items.length < limit ∧ ∀ v ∈ items, (encode v).length < limit := by
  rw [encode_arr, List.length_cons] at h
  obtain ⟨hcount, hlength⟩ := length_joined 0x5D (items.map encode)
  rw [List.length_map] at hcount
  refine ⟨by omega, fun v hv => ?_⟩
  have := hlength _ (List.mem_map_of_mem hv)
  omega

theorem length_of_encode_obj {members : List (String × Json)} {limit : Nat}
    (h : (encode (.obj members)).length < limit) :
    members.length < limit ∧ ∀ m ∈ members, (encode m.2).length < limit := by
  rw [encode_obj, List.length_cons] at h
  obtain ⟨hcount, hlength⟩ := length_joined 0x7D (members.map encodeMember)
  rw [List.length_map] at hcount
  refine ⟨by omega, fun m hm => ?_⟩
  have hmember := hlength _ (List.mem_map_of_mem hm)
  simp only [encodeMember, List.length_cons, List.length_append] at hmember
  omega

theorem Portable.starts (h : Portable depth v) : Starts (encode v) := by
  cases h with
  | null => exact ⟨_, _, encode_null, by decide, by decide⟩
  | bool b =>
      cases b with
      | true => exact ⟨_, _, encode_true, by decide, by decide⟩
      | false => exact ⟨_, _, encode_false, by decide, by decide⟩
  | int hmin hmax =>
      rename_i i
      rcases Int.eq_nat_or_neg i with ⟨n, rfl | rfl⟩
      · obtain ⟨b, bs, hbytes, hb⟩ := encodeChars_toDigits n
        exact ⟨b, bs, by rw [encode_int_of_nonneg, hbytes], isGap_of_isDigit hb,
          ne_of_isDigit hb (by decide)⟩
      · by_cases hn : n = 0
        · subst hn
          exact ⟨0x30, [], by decide, by decide, by decide⟩
        · exact ⟨_, _, encode_int_of_neg hn, by decide, by decide⟩
  | str s => exact ⟨_, _, encode_str s, by decide, by decide⟩
  | arr hitems => exact ⟨_, _, encode_arr _, by decide, by decide⟩
  | object hnames hmembers => exact ⟨_, _, encode_obj _, by decide, by decide⟩

theorem readValue_bracket (limit depth : Nat) (bs : List UInt8) :
    readValue limit (depth + 1) (0x5B :: bs) =
      Read.map Json.arr (readItems limit (readValue limit depth) bs) := by
  rw [readValue, skipGap_cons (by decide)]
  simp only
  rw [if_neg (by decide), if_neg (by decide), if_neg (by decide), if_neg (by decide),
    if_neg (by decide), if_neg (by decide), if_pos trivial]

theorem readValue_brace (limit depth : Nat) (bs : List UInt8) :
    readValue limit (depth + 1) (0x7B :: bs) =
      Read.map Json.object (readMembers limit (readValue limit depth) bs) := by
  rw [readValue, skipGap_cons (by decide)]
  simp only
  rw [if_neg (by decide), if_neg (by decide), if_neg (by decide), if_neg (by decide),
    if_neg (by decide), if_neg (by decide), if_neg (by decide), if_pos trivial]

/-- The text of a value is read back as the value, up to whatever follows it. -/
theorem Portable.readValue_encode (h : Portable depth v) {limit : Nat}
    (hlimit : (encode v).length < limit) {rest : List UInt8} (hrest : Ends rest) :
    readValue limit depth (encode v ++ rest) = .ok (v, rest) := by
  induction h generalizing rest with
  | null => exact readValue_null
  | bool b => exact readValue_bool b
  | int hmin hmax => exact readValue_int hmin hmax hrest
  | str s => exact readValue_str s
  | arr hitems ih =>
      obtain ⟨hcount, hlength⟩ := length_of_encode_arr hlimit
      rw [encode_arr, List.cons_append, readValue_bracket,
        readItems_joined (fun v hv => (hitems v hv).starts)
          (fun v hv _ hrest => ih v hv (hlength v hv) hrest) hcount]
      rfl
  | object hnames hmembers ih =>
      -- the members are written in the order of their names, and read back in it
      have hperm := sortMembers_perm hnames
      rw [Json.object] at hlimit
      obtain ⟨hcount, hlength⟩ := length_of_encode_obj hlimit
      rw [Json.object, encode_obj, List.cons_append, readValue_brace,
        readMembers_joined
          (fun m hm _ hrest => ih m (hperm.mem_iff.mp hm) (hlength m hm) hrest) hcount]
      show Except.ok (Json.object (sortMembers _), rest) = _
      rw [object_sortMembers hnames]
      rfl

/-- Reading the whole text of a value gives the value. -/
theorem Portable.parse_encode (h : Portable maxDepth v) : parse (encode v) = .ok v := by
  have hread := h.readValue_encode (Nat.lt_succ_self (encode v).length) ends_nil
  rw [List.append_nil] at hread
  rw [parse, readWhole, hread]
  rfl

end DiagServer.Json
