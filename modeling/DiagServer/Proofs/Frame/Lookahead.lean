import DiagServer.Proofs.Frame.Stream
import DiagServer.Proofs.Text.Lines

/-!
# How far the reader looks, and how far it gets

A frame is read from the bytes that it may have at most: 8192 for the header block and 16777216 for
the body. For the block this is one equation (`readLines_take`): reading lines within a budget is
reading them in the first bytes of the input, as many as the budget has, with all other bytes left
behind what is left of these. The induction is on the budget, and a line that is read takes as much
from the budget as from the bytes, so the equation stays true behind it. It holds of failures too,
which the grammar of frames does not tell apart.

On the other side no frame is shorter than eighteen bytes, since its block states a length on one
line and has a blank line at its end. So a stream has at most one frame for eighteen of its bytes.
-/

namespace DiagServer.Frame

open DiagServer.Text.Utf8

variable {bs s t rest left : List UInt8} {texts : List (List Char)} {text last value : List Char}
  {n : Nat} {os : List Outcome}

/-! ## The bytes within a budget -/

theorem takeLine_take (budget : Nat) (bs : List UInt8) :
    takeLine budget (bs.take budget) = takeLine budget bs := by
  induction budget generalizing bs with
  | zero => rfl
  | succ budget ih =>
      cases bs with
      | nil => rfl
      | cons b bs => rw [List.take_succ_cons, takeLine, takeLine, ih]

/-- Behind what is taken from the front, a budget that is as much smaller ends at the same byte. -/
theorem take_drop_append {k budget : Nat} (hk : k ≤ budget) (bs : List UInt8) :
    (bs.take budget).drop k = (bs.drop k).take (budget - k) ∧
      (bs.drop k).drop (budget - k) = bs.drop budget := by
  refine ⟨List.drop_take, ?_⟩
  rw [List.drop_drop, Nat.add_sub_cancel' hk]

/-- Lines are read in the bytes that the budget has room for, and all others are left. -/
theorem readLines_take (budget : Nat) (length : Option Nat) (bs : List UInt8) :
    readLines budget length bs =
      (readLines budget length (bs.take budget)).map fun r => (r.1, r.2 ++ bs.drop budget) := by
  induction budget using Nat.strongRecOn generalizing length bs with
  | _ budget ih =>
      cases budget with
      | zero =>
          rw [readLines, readLines]
          rfl
      | succ budget =>
          have hle := length_takeLine_le (budget + 1) bs
          rw [readLines, readLines, takeLine_take]
          cases htake : takeLine (budget + 1) bs with
          | nil => rfl
          | cons b more =>
              rw [htake, List.length_cons] at hle
              obtain ⟨hfront, hbehind⟩ := take_drop_append hle bs
              rw [Nat.add_sub_add_right] at hfront hbehind
              have hnext : ∀ length, readLines (budget - more.length) length
                  (bs.drop (b :: more).length) =
                    (readLines (budget - more.length) length
                      ((bs.take (budget + 1)).drop (b :: more).length)).map
                        fun r => (r.1, r.2 ++ bs.drop (budget + 1)) := by
                intro length
                rw [ih _ (by omega), List.length_cons, hfront, hbehind]
              have hrest : bs.drop (b :: more).length =
                  (bs.take (budget + 1)).drop (b :: more).length ++ bs.drop (budget + 1) := by
                rw [List.length_cons, hfront, ← hbehind, List.take_append_drop]
              simp only
              cases firstFlaw? (b :: more) with
              | some flaw => rfl
              | none =>
                  simp only
                  split
                  · rfl
                  · cases Line.ofBytes (b :: more) with
                    | error e => rfl
                    | ok line =>
                        cases line with
                        | blank =>
                            cases length with
                            | none => rfl
                            | some n =>
                                simp only
                                rw [hrest]
                                rfl
                        | length n => exact hnext (some n)
                        | other => exact hnext length

theorem readHeader_take (bs : List UInt8) :
    readHeader bs = (readHeader (bs.take 8192)).map fun r => (r.1, r.2 ++ bs.drop 8192) :=
  readLines_take maxHeader none bs

theorem readBody_take (length : Nat) (bs : List UInt8) :
    (readBody length (bs.take 16777216)).1 = (readBody length bs).1 := by
  rw [readBody, readBody]
  split
  · rfl
  · next hmax =>
      have hle : length ≤ 16777216 := Nat.not_lt.mp hmax
      have htake : (bs.take 16777216).take length = bs.take length := by
        rw [List.take_take, Nat.min_eq_left hle]
      simp only [htake]
      split
      · rfl
      · cases Json.parse (bs.take length) with
        | ok value => rfl
        | error fault => rfl

/-- What comes of reading a frame is told by the bytes that it may have. -/
theorem read_take (bs : List UInt8) :
    (read (bs.take (8192 + 16777216))).1 = (read bs).1 := by
  by_cases hbs : bs = []
  · rw [hbs]
    rfl
  · have hempty : ¬ bs.isEmpty = true := by simpa using hbs
    have hemptyTake : ¬ (bs.take (8192 + 16777216)).isEmpty = true := by simpa using hbs
    have hblock : (bs.take (8192 + 16777216)).take 8192 = bs.take 8192 := by
      rw [List.take_take, Nat.min_eq_left (Nat.le_add_right 8192 16777216)]
    have hbody : (bs.take (8192 + 16777216)).drop 8192 = (bs.drop 8192).take 16777216 := by
      rw [List.drop_take, Nat.add_sub_cancel_left]
    rw [read, read, if_neg hempty, if_neg hemptyTake, readHeader_take bs, readHeader_take, hblock,
      hbody]
    cases readHeader (bs.take 8192) with
    | error e => rfl
    | ok r =>
        obtain ⟨n, rest⟩ := r
        show (readBody n (rest ++ (bs.drop 8192).take 16777216)).1 =
          (readBody n (rest ++ bs.drop 8192)).1
        -- the body may have as many bytes as are taken, also if the block left some of its own
        rw [← readBody_take n (rest ++ (bs.drop 8192).take 16777216),
          ← readBody_take n (rest ++ bs.drop 8192)]
        simp only [List.take_append, List.take_take]
        rw [Nat.min_eq_left (Nat.sub_le 16777216 rest.length)]

theorem readHeader_of_take (ht : t.take 8192 = s.take 8192) {e : FrameError}
    (h : readHeader s = .error e) : readHeader t = .error e := by
  rw [readHeader_take] at h ⊢
  rw [ht]
  cases hblock : readHeader (s.take 8192) with
  | error e' =>
      rw [hblock] at h
      cases h
      rfl
  | ok r =>
      rw [hblock] at h
      cases h

theorem Accepts.length_le {body : List UInt8} (h : Accepts bs body []) :
    bs.length ≤ 8192 + 16777216 := by
  obtain ⟨texts, last, n, -, hblock, hn, rfl, rfl⟩ := h
  simp only [List.length_append, List.length_nil]
  omega

/-- A frame is the same bytes of all streams that begin alike. -/
theorem read_of_take {o : Outcome} (h : read s = (o, rest)) (ho : o.goesOn = true)
    (ht : t.take (8192 + 16777216) = s.take (8192 + 16777216)) :
    ∃ front left, s = front ++ rest ∧ t = front ++ left ∧ read t = (o, left) := by
  obtain ⟨front, body, rfl, haccepts, rfl⟩ := exists_front h ho
  have hle := haccepts.length_le
  obtain ⟨left, rfl⟩ : front <+: t := by
    have htake := congrArg (List.take front.length) ht
    rw [List.take_take, List.take_take, Nat.min_eq_left hle, List.take_left] at htake
    rw [← htake]
    exact List.take_prefix front.length t
  exact ⟨front, left, rfl, rfl, read_of_accepts (haccepts.append left)⟩

/-! ## The bytes of a frame -/

theorem IsDecimal.ne_nil (h : IsDecimal value n) : value ≠ [] := by
  obtain ⟨digits, rfl | rfl, hdigits, -⟩ := h
  · exact hdigits
  · exact List.cons_ne_nil '+' digits

/-- A line that states a length has the name of the header, a colon, a digit and a line feed. -/
theorem StatesLength.length_le (h : StatesLength text value) (hl : IsLine text)
    (hn : IsDecimal value n) : 17 ≤ text.length := by
  obtain ⟨key, rest, htrim, -, hname, rfl⟩ := h
  obtain ⟨content, rfl, -⟩ := hl
  have hkey : 14 ≤ key.length := by
    have hlength := congrArg List.length hname
    rw [List.length_map] at hlength
    have hle := Text.length_trim_le key
    rwa [hlength] at hle
  have hrest : 0 < rest.length := by
    have hpos : 0 < (Text.trim rest).length := List.length_pos_iff.mpr hn.ne_nil
    exact Nat.lt_of_lt_of_le hpos (Text.length_trim_le rest)
  have hcontent : (key ++ ':' :: rest).length ≤ content.length := by
    rw [← htrim, Text.trim_concat_of_blank (by decide)]
    exact Text.length_trim_le content
  simp only [List.length_append, List.length_cons, List.length_nil] at hcontent ⊢
  omega

theorem Lines.length_le (h : Lines none texts last n) : 18 ≤ (block texts last).length := by
  obtain ⟨earlier, text, value, later, rfl, hs, hn, -⟩ | ⟨hnone, -⟩ := h.stated
  · have hfirst : 17 ≤ text.length := hs.length_le (h.isLine text (by simp)) hn
    have hlast : 1 ≤ last.length := by
      obtain ⟨content, rfl, -⟩ := h.isLine last (by simp)
      simp
    have hblock := length_le_encodeChars ((earlier ++ text :: later).flatten ++ last)
    rw [block]
    simp only [List.flatten_append, List.flatten_cons, List.length_append] at hblock ⊢
    omega
  · cases hnone

/-- Whatever is read as a frame, with a body that is JSON or not, takes eighteen bytes. -/
theorem length_of_goesOn {o : Outcome} (h : read bs = (o, rest)) (ho : o.goesOn = true) :
    rest.length + 18 ≤ bs.length := by
  obtain ⟨body, ⟨texts, last, n, hlines, -, -, -, rfl⟩, -⟩ := accepts_of_read h ho
  have hblock := hlines.length_le
  simp only [List.length_append]
  omega

theorem Reads.length_le (h : Reads bs os left) : 18 * os.length + left.length ≤ bs.length := by
  induction h with
  | nil bs => simp
  | cons h ho hrest ih =>
      have hfirst := length_of_goesOn h ho
      rw [List.length_cons]
      omega

theorem stops_cases {o : Outcome} (h : o.goesOn = false) : o = .ended ∨ ∃ e, o = .broken e := by
  cases o with
  | ended => exact .inl rfl
  | broken e => exact .inr ⟨e, rfl⟩
  | _ => cases h

/-! ## Bounds for every stream -/

/-- Two streams that have the same 8192 + 16777216 bytes at the front give the same, and what is
read as a frame is the same bytes of both; if the header block fails, 8192 bytes are enough for
that. A frame takes at least eighteen bytes, with a body that is JSON or not. So reading a stream
comes to an end: after at most one frame for eighteen bytes, cleanly or with one failure. -/
theorem read_bounded (s : List UInt8) :
    (∀ t : List UInt8, t.take (8192 + 16777216) = s.take (8192 + 16777216) →
      (read t).1 = (read s).1 ∧
      ((read s).1.goesOn = true →
        ∃ front, s = front ++ (read s).2 ∧ t = front ++ (read t).2)) ∧
    (∀ (t : List UInt8) (e : FrameError), t.take 8192 = s.take 8192 → s ≠ [] →
      readHeader s = .error e → (read s).1 = .broken e ∧ (read t).1 = .broken e) ∧
    ((read s).1.goesOn = true → (read s).2.length + 18 ≤ s.length) ∧
    ∃ os last, outcomes s = os ++ [last] ∧ (∀ o ∈ os, o.goesOn = true) ∧
      (last = .ended ∨ ∃ e, last = .broken e) ∧ os.length ≤ s.length / 18 := by
  have hbroken : ∀ bs e, bs ≠ [] → readHeader bs = .error e → (read bs).1 = .broken e := by
    intro bs e hne he
    rw [read, if_neg (by simpa using hne), he]
  refine ⟨fun t ht => ⟨?_, fun ho => ?_⟩, fun t e ht hne he => ⟨hbroken s e hne he, ?_⟩,
    length_of_goesOn rfl, ?_⟩
  · rw [← read_take t, ht, read_take s]
  · obtain ⟨front, left, hs, htsplit, hread⟩ := read_of_take rfl ho ht
    exact ⟨front, hs, by rwa [hread]⟩
  · refine hbroken t e ?_ (readHeader_of_take ht he)
    rintro rfl
    exact hne (by simpa using ht.symm)
  · obtain ⟨os, left, last, hreads, -, hstops, houtcomes⟩ := exists_reads s
    have hlength := hreads.length_le
    refine ⟨os, last, houtcomes, hreads.goesOn, stops_cases hstops, ?_⟩
    rw [Nat.le_div_iff_mul_le (by decide)]
    omega

/-- Eighteen bytes can be enough. -/
example :
    let bs := Text.Utf8.encode "Content-Length:0\n\n"
    bs.length = 18 ∧ (read bs).1.goesOn = true := by
  decide +kernel

end DiagServer.Frame
