import DiagServer.Json.Record
import DiagServer.Proofs.Json.Skip

/-!
# Written records read back

A record is read member by member: one that it has goes into the draft, any other is passed over.
`Takes` says what one written member makes of a draft, and a chain of such steps is what reading the
whole object makes of it. Nothing here depends on the order of the members or on the record.
-/

namespace DiagServer.Json

open DiagServer.Text.Utf8

variable {σ : Type} {fields : List (RecordField σ)} {draft draft' : σ}
  {members : List (String × Json)}

/-! ## Members -/

/-- Reading a written member takes a draft to another: its field was not given before and reads the
value, or there is no such field and the value is passed over. -/
def Takes (fields : List (RecordField σ)) (draft : σ) (m : String × Json) (draft' : σ) : Prop :=
  match fields.find? (·.name = m.1) with
  | none => draft' = draft ∧ ∀ rest, Ends rest → skipValue (encode m.2 ++ rest) = .ok rest
  | some field => field.given draft = false ∧
      ∀ rest, Ends rest → field.read draft (encode m.2 ++ rest) = .ok (draft', rest)

/-- A member of a field that was not given takes its value into the draft. -/
theorem Takes.of {α : Type} {name : String} {required : Bool} {get : σ → Option α}
    {put : σ → α → σ} {value : List UInt8 → Read α} {v : Json} {x : α}
    (hfind : fields.find? (·.name = name) = some (.of name required get put value))
    (hget : (get draft).isSome = false)
    (hvalue : ∀ rest, Ends rest → value (encode v ++ rest) = .ok (x, rest))
    (hput : put draft x = draft') : Takes fields draft (name, v) draft' := by
  rw [Takes, hfind]
  refine ⟨hget, fun rest hrest => ?_⟩
  show Read.map (put draft) (value (encode v ++ rest)) = _
  rw [hvalue rest hrest, Read.map, hput]

/-- A scalar under a name that is none of the fields' changes nothing. -/
theorem Takes.other {m : String × Json} (hname : m.1 ∉ fields.map (·.name))
    (hvalue : IsScalar m.2) : Takes fields draft m draft := by
  have hfind : fields.find? (·.name = m.1) = none := by
    rw [List.find?_eq_none]
    intro field hfield heq
    exact hname (List.mem_map.mpr ⟨field, hfield, of_decide_eq_true heq⟩)
  rw [Takes, hfind]
  exact ⟨rfl, fun rest hrest => skipValue_encode hvalue hrest⟩

/-- Reading members one after another takes a draft to another. -/
inductive TakesAll (fields : List (RecordField σ)) : σ → List (String × Json) → σ → Prop
  | nil {draft : σ} : TakesAll fields draft [] draft
  | cons {draft next draft' : σ} {m : String × Json} {rest : List (String × Json)}
      (hm : Takes fields draft m next) (hrest : TakesAll fields next rest draft') :
      TakesAll fields draft (m :: rest) draft'

/-- Behind its opening quote a member is read, and the next ones from the draft that it leaves. -/
theorem readRecordMembers_member {next : σ} {m : String × Json} (hm : Takes fields draft m next)
    {first : Bool} {bs rest : List UInt8}
    (hbs : nextMember first bs =
      .ok (.name (encodeChars (m.1.toList.flatMap escape ++ ['"']) ++ 0x3A :: encode m.2 ++ rest)))
    (hrest : Ends rest) (fuel : Nat) :
    readRecordMembers fields (fuel + 1) first draft bs =
      readRecordMembers fields fuel false next rest := by
  rw [readRecordMembers, hbs]
  simp only [List.append_assoc, List.cons_append, readText_renderText]
  rw [Takes] at hm
  cases hfind : fields.find? (·.name = m.1) with
  | none =>
      rw [hfind] at hm
      obtain ⟨rfl, hskip⟩ := hm
      simp only [readColon_colon, hskip rest hrest]
  | some field =>
      rw [hfind] at hm
      obtain ⟨hgiven, hread⟩ := hm
      simp only [hgiven, readColon_colon, hread rest hrest]
      rfl

theorem readRecordMembers_behind (h : TakesAll fields draft members draft')
    (hmissing : missing? fields draft' = none) {fuel : Nat} (hfuel : members.length < fuel)
    (more : List UInt8) :
    readRecordMembers fields fuel false draft (behind 0x7D (members.map encodeMember) ++ more) =
      .ok (draft', more) := by
  obtain ⟨fuel, rfl⟩ := Nat.exists_eq_add_one.mpr (Nat.zero_lt_of_lt hfuel)
  induction h generalizing fuel with
  | nil =>
      show readRecordMembers fields (fuel + 1) false _ (0x7D :: more) = _
      rw [readRecordMembers, nextMember_closed]
      simp only [hmissing]
  | cons hm hrest ih =>
      rename_i draft next draft' m rest
      rw [List.length_cons] at hfuel
      obtain ⟨fuel, rfl⟩ := Nat.exists_eq_add_one.mpr (show 0 < fuel by omega)
      rw [List.map_cons, behind, encodeMember]
      refine (readRecordMembers_member hm ?_ (ends_behind 0x7D (by decide) _ more) _).trans
        (ih hmissing fuel (by omega))
      rw [List.cons_append, List.cons_append, List.append_assoc, List.cons_append, nextMember_comma]
      simp

/-- The object of some members is read as the draft that they make, whatever follows it. -/
theorem readRecord_encode (h : TakesAll fields draft members draft')
    (hmissing : missing? fields draft' = none) (title : String) (more : List UInt8) :
    readRecord title fields draft (encode (.obj members) ++ more) = .ok (draft', more) := by
  have hopen : ∀ bs, readRecord title fields draft (0x7B :: bs) =
      readRecordMembers fields (bs.length + 1) true draft bs := by
    intro bs
    rw [readRecord, skipGap_cons (by decide)]
    simp only
    rw [if_neg (by decide), if_pos trivial]
  rw [encode_obj, List.cons_append, hopen]
  cases h with
  | nil =>
      show readRecordMembers fields _ true _ (0x7D :: more) = _
      rw [readRecordMembers, nextMember_closed]
      simp only [hmissing]
  | cons hm hrest =>
      rename_i next m rest
      have hcount := (length_behind 0x7D (rest.map encodeMember)).1
      rw [List.length_map] at hcount
      rw [List.map_cons, joined, encodeMember]
      refine (readRecordMembers_member hm ?_ (ends_behind 0x7D (by decide) _ more) _).trans
        (readRecordMembers_behind hrest hmissing ?_ more)
      · rw [List.cons_append, List.cons_append, nextMember_first]
        simp
      · simp only [List.length_append, List.length_cons]
        omega

/-! ## Values of fields -/

theorem readString_encode (s : String) (rest : List UInt8) :
    readString (encode (.str s) ++ rest) = .ok (s, rest) := by
  rw [encode_str, List.cons_append, readString, skipGap_cons (by decide)]
  simp only
  rw [if_pos trivial, readText_renderText]

theorem readUInt32_encode (n : UInt32) {rest : List UInt8} (hrest : Ends rest) :
    readUInt32 (encode (.int n.toNat) ++ rest) = .ok (n, rest) := by
  have hn := n.toNat_lt
  have hmax : maxUnsigned = 0xFFFFFFFFFFFFFFFF := by decide
  obtain ⟨b, bs, hbytes, hb⟩ := encodeChars_toDigits n.toNat
  have hread := readNumber_toDigits false (n := n.toNat) (by omega) hrest
  rw [hbytes, List.cons_append, makeWhole_unsigned] at hread
  rw [encode_int_of_nonneg, hbytes, List.cons_append, readUInt32,
    skipGap_cons (isGap_of_isDigit hb)]
  simp only
  rw [if_neg (ne_of_isDigit hb (by decide)), if_pos hb, hread]
  simp only
  rw [if_pos ⟨by omega, by exact_mod_cast hn⟩, Int.toNat_natCast, UInt32.ofNat_toNat]

end DiagServer.Json
