import DiagServer.Proofs.Frame.Stream

/-!
# Streams that stop early

A frame that stops before its end is never taken for a shorter one. Wherever the cut falls, what
stands before it is read as it would be read in the whole frame: the lines before the cut one by
one, with the same budget left behind each. So the reader comes to the cut in a block that has more
to come, or in a body that has. In the body the bytes that are missing are missed. In the block it
is the line feed of the line that was cut, or all of a line; since the whole block is within the
budget and the cut takes something away, the budget is not used up, so this is no header that is too
large. A line cut inside a character is no UTF-8, which is noticed first.
-/

namespace DiagServer.Frame

open DiagServer.Text.Utf8

/-- The failures of a stream that ends inside a frame: the header stops, or the stream under the
frames fails. -/
def FrameError.IsCut (e : FrameError) : Prop :=
  e = .truncatedHeaders ∨ ∃ cause, e = .transport cause

variable {before : Option Nat} {texts : List (List Char)} {text last : List Char} {n budget : Nat}
  {cut lost body : List UInt8}

/-! ## A cut in the header -/

theorem takeLine_of_notMem (h : 0x0A ∉ cut) (hb : cut.length ≤ budget) :
    takeLine budget cut = cut := by
  induction cut generalizing budget with
  | nil =>
      cases budget with
      | zero => rfl
      | succ budget => rfl
  | cons b more ih =>
      obtain ⟨budget, rfl⟩ := Nat.exists_eq_add_one.mpr (Nat.zero_lt_of_lt hb)
      rw [List.mem_cons, not_or] at h
      rw [takeLine, if_neg (Ne.symm h.1), ih h.2 (by simpa using hb)]

theorem isWhole_of_notMem (h : 0x0A ∉ cut) : isWhole cut = false := by
  refine decide_eq_false fun hlast => h ?_
  exact List.mem_of_getLast? hlast

theorem readLines_of_notMem (h : 0x0A ∉ cut) (hb : cut.length < budget) :
    ∃ e, readLines budget before cut = .error e ∧ e.IsCut := by
  have htake : takeLine budget cut = cut := takeLine_of_notMem h (Nat.le_of_lt hb)
  have hwhole : isWhole cut = false := isWhole_of_notMem h
  obtain ⟨budget, rfl⟩ := Nat.exists_eq_add_one.mpr (Nat.zero_lt_of_lt hb)
  rw [readLines.eq_def]
  simp only [htake]
  cases cut with
  | nil => exact ⟨_, rfl, .inl rfl⟩
  | cons b more =>
      simp only
      cases firstFlaw? (b :: more) with
      | some flaw => exact ⟨_, rfl, .inr ⟨_, rfl⟩⟩
      | none =>
          simp only [hwhole, if_neg (Nat.ne_of_lt hb)]
          exact ⟨_, rfl, .inl rfl⟩

theorem notMem_of_cut (hl : IsLine text) (h : encodeChars text = cut ++ lost) (hlost : lost ≠ []) :
    0x0A ∉ cut := by
  obtain ⟨content, rfl, hcontent⟩ := hl
  rcases List.eq_nil_or_concat lost with rfl | ⟨lost, b, rfl⟩
  · exact absurd rfl hlost
  · -- the one line feed of a line is its last byte, which is lost
    rw [encodeChars_line, List.concat_eq_append, ← List.append_assoc] at h
    obtain ⟨hcut, -⟩ := List.append_inj' h rfl
    intro hmem
    exact notMem_encodeChars hcontent (hcut ▸ List.mem_append_left lost hmem)

/-- A cut through two parts falls behind the first of them or takes something of it away. -/
theorem cut_cases {first second : List UInt8} (h : first ++ second = cut ++ lost) :
    (∃ part, cut = first ++ part ∧ second = part ++ lost) ∨
      ∃ more, more ≠ [] ∧ first = cut ++ more := by
  rcases List.append_eq_append_iff.mp h with ⟨part, hcut, hsecond⟩ | ⟨more, hfirst, hlost⟩
  · exact .inl ⟨part, hcut, hsecond⟩
  · cases more with
    | nil => exact .inl ⟨[], by simpa using hfirst.symm, hlost.symm⟩
    | cons b more => exact .inr ⟨b :: more, List.cons_ne_nil b more, hfirst⟩

theorem readLines_cut (h : Lines before texts last n) (hb : (block texts last).length ≤ budget)
    (hblock : block texts last = cut ++ lost) (hlost : lost ≠ []) :
    ∃ e, readLines budget before cut = .error e ∧ e.IsCut := by
  have hlt : cut.length < budget := by
    have hpos : 0 < lost.length := List.length_pos_iff.mpr hlost
    rw [hblock, List.length_append] at hb
    omega
  induction texts generalizing before budget cut with
  | nil => exact readLines_of_notMem (notMem_of_cut (lines_nil.mp h).1 hblock hlost) hlt
  | cons text texts ih =>
      rw [block_cons] at hblock
      rw [block_cons, List.length_append] at hb
      rcases cut_cases hblock with ⟨part, rfl, hpart⟩ | ⟨more, hmore, htext⟩
      · -- the first line is whole, and the cut is in what the rest of the budget is for
        rw [List.length_append] at hlt
        have hfirst : (encodeChars text).length ≤ budget := by omega
        obtain ⟨after, hafter, hread⟩ := readLines_cons h hfirst
        rw [hread]
        exact ih hafter (by omega) hpart (by omega)
      · have hl : IsLine text := h.isLine text List.mem_cons_self
        exact readLines_of_notMem (notMem_of_cut hl htext hmore) hlt

/-! ## A cut in a frame -/

theorem readBody_cut (hn : body.length ≤ 16777216) (hbody : body = cut ++ lost)
    (hlost : lost ≠ []) :
    (readBody body.length cut).1 = .broken (.transport .earlyEnd) := by
  have hpos : 0 < lost.length := List.length_pos_iff.mpr hlost
  have hmax : ¬ maxBody < body.length := Nat.not_lt.mpr hn
  have hshort : (cut.take body.length).length < body.length := by
    rw [List.length_take, hbody, List.length_append]
    omega
  rw [readBody, if_neg hmax]
  simp only [if_pos hshort]

theorem outcomes_cut (h : Accepts (cut ++ lost) body []) (hcut : cut ≠ []) (hlost : lost ≠ []) :
    ∃ e, outcomes cut = [.broken e] ∧ e.IsCut := by
  obtain ⟨texts, last, n, hlines, hblock, hn, rfl, hsplit⟩ := h
  have hempty : ¬ cut.isEmpty = true := fun he => hcut (List.isEmpty_iff.mp he)
  have hread : ∃ e, (read cut).1 = .broken e ∧ e.IsCut := by
    rw [List.append_nil] at hsplit
    rw [read, if_neg hempty, readHeader, show maxHeader = 8192 from rfl]
    rcases cut_cases hsplit.symm with ⟨part, rfl, hpart⟩ | ⟨more, hmore, hheader⟩
    · rw [readLines_of_lines hlines hblock]
      exact ⟨_, readBody_cut hn hpart hlost, .inr ⟨_, rfl⟩⟩
    · obtain ⟨e, he, hcutShort⟩ := readLines_cut hlines hblock hheader hmore
      rw [he]
      exact ⟨e, rfl, hcutShort⟩
  obtain ⟨e, he, hcutShort⟩ := hread
  exact ⟨e, outcomes_of_stops (Prod.ext he rfl) rfl, hcutShort⟩

/-! ## A cut in a stream -/

/-- A cut between the two ends of a frame leaves a part of it and takes a part away. -/
theorem exists_part {front frame behind : List UInt8}
    (h : front ++ (frame ++ behind) = cut ++ lost) (hstart : front.length < cut.length)
    (hstop : cut.length < front.length + frame.length) :
    ∃ part gone, cut = front ++ part ∧ frame = part ++ gone ∧ part ≠ [] ∧ gone ≠ [] := by
  rcases cut_cases h with ⟨part, rfl, hpart⟩ | ⟨more, -, rfl⟩
  · rw [List.length_append] at hstart hstop
    rcases cut_cases hpart with ⟨more, rfl, -⟩ | ⟨gone, hgone, rfl⟩
    · rw [List.length_append] at hstop
      omega
    · refine ⟨part, gone, rfl, rfl, ?_, hgone⟩
      rintro rfl
      rw [List.length_nil] at hstart
      omega
  · rw [List.length_append] at hstart
    omega

/-- The outcomes of a part of a stream that stops early: the frames and the faulty bodies that it
has are those that the stream has first. Behind the last of them reading ends, cleanly if the part
stops where a frame of the stream does, and with the one failure of a cut if it stops inside. -/
theorem outcomes_truncated {s p : List UInt8} (hp : p <+: s) :
    (outcomes p).filter Outcome.goesOn <+: (outcomes s).filter Outcome.goesOn ∧
    ∀ os left, Reads s os left →
      let start := s.length - left.length
      (p.length = start → outcomes p = os ++ [.ended]) ∧
      ∀ o rest, read left = (o, rest) → o.goesOn = true →
        let stop := s.length - rest.length
        start < p.length → p.length < stop →
        ∃ e, outcomes p = os ++ [.broken e] ∧ e.IsCut := by
  obtain ⟨tail, rfl⟩ := hp
  refine ⟨?_, fun os left hreads => ⟨fun hlength => ?_, fun o rest hread ho hstart hstop => ?_⟩⟩
  · obtain ⟨os, left, last, hreads, -, hstops, houtcomes⟩ := exists_reads p
    have hos : os.filter Outcome.goesOn = os := List.filter_eq_self.mpr hreads.goesOn
    rw [(hreads.append tail).outcomes_eq, houtcomes, List.filter_append, List.filter_append, hos,
      List.filter_cons_of_neg (by simp [hstops]), List.filter_nil, List.append_nil]
    exact List.prefix_append _ _
  · obtain ⟨front, hsplit, hfront⟩ := hreads.exists_front
    have hfrontLength : front.length = p.length := by
      rw [hlength, hsplit, List.length_append, Nat.add_sub_cancel]
    obtain ⟨rfl, -⟩ := List.append_inj hsplit hfrontLength.symm
    rw [hfront.outcomes_eq, outcomes_nil]
  · obtain ⟨front, hsplit, hfront⟩ := hreads.exists_front
    obtain ⟨frame, body, rfl, haccepts, rfl⟩ := exists_front hread ho
    obtain ⟨part, lost, rfl, rfl, hpart, hlost⟩ : ∃ part lost, p = front ++ part ∧
        frame = part ++ lost ∧ part ≠ [] ∧ lost ≠ [] := by
      rw [hsplit] at hstart hstop
      simp only [List.length_append] at hstart hstop
      exact exists_part hsplit.symm (by omega) (by omega)
    obtain ⟨e, he, hcut⟩ := outcomes_cut haccepts hpart hlost
    exact ⟨e, by rw [(hfront.append part).outcomes_eq, List.nil_append, he], hcut⟩

/-- A header that is cut inside a character, in a stream of one frame. -/
theorem outcomes_truncated_character :
    let s := Text.Utf8.encode "é: 1\nContent-Length: 1\n\nx"
    let p := s.take 1
    p <+: s ∧ ((read s).1.goesOn = true ∧ s.length - s.length < p.length ∧
      p.length < s.length - (read s).2.length) ∧
      ∃ e, outcomes p = [.broken e] ∧ e.IsCut := by
  intro s p
  have hp : p <+: s := List.take_prefix 1 s
  have ho : (read s).1.goesOn = true := by decide +kernel
  have hstart : s.length - s.length < p.length := by decide
  have hstop : p.length < s.length - (read s).2.length := by decide +kernel
  refine ⟨hp, ⟨ho, hstart, hstop⟩, ?_⟩
  exact ((outcomes_truncated hp).2 [] s (.nil s)).2 _ _ rfl ho hstart hstop

end DiagServer.Frame
