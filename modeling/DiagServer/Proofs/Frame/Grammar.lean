import DiagServer.Frame.Reader
import DiagServer.Proofs.Text.Utf8

/-!
# The frames that are accepted

The grammar of frames is written here over texts and without a reader. A header block is a run of
lines that ends with the first blank one, at most 8192 bytes in all; each line that states a
length does it in decimals, and the last of them gives the length of the body behind the block.
`Accepts` is that grammar. The reader goes through the bytes of a block line by line with a budget
that shrinks and knows only the length that was stated last, so what the induction carries is the
grammar of the lines still to come, with the length stated before them (`Lines`).
-/

namespace DiagServer.Frame

open DiagServer.Text.Utf8

/-! ## The grammar -/

/-- A line with the line feed that ends it. -/
def IsLine (text : List Char) : Prop := ∃ content, text = content ++ ['\n'] ∧ '\n' ∉ content

/-- A line states a length as this value, without the blanks around it, if the text before its
first colon is the name of the header, in small or capital letters and with blanks around it or
not. -/
def StatesLength (text value : List Char) : Prop :=
  ∃ key rest, Text.trim text = key ++ ':' :: rest ∧ ':' ∉ key ∧
    (Text.trim key).map Char.toLower = "Content-Length".toList.map Char.toLower ∧
    Text.trim rest = value

/-- A value is a decimal number of 64 bits: one digit or more, behind a plus sign or not. -/
def IsDecimal (value : List Char) (n : Nat) : Prop :=
  ∃ digits, (value = digits ∨ value = '+' :: digits) ∧ digits ≠ [] ∧
    (∀ c ∈ digits, c.isDigit = true) ∧ n = Nat.ofDigitChars 10 digits 0 ∧ n < UInt64.size

/-- The length that some lines leave as the stated one: the one that the last line to state a
length states, or the one from before if none does. -/
def LastStated (before : Option Nat) (texts : List (List Char)) (n : Nat) : Prop :=
  (∃ earlier text value later, texts = earlier ++ text :: later ∧ StatesLength text value ∧
    IsDecimal value n ∧ ∀ other ∈ later, ∀ v, ¬ StatesLength other v) ∨
  (before = some n ∧ ∀ other ∈ texts, ∀ v, ¬ StatesLength other v)

/-- The lines of a block, the blank one that ends it apart: all of them are lines, only the last
one is blank, every stated length is a decimal number, and in the end the length `n` is stated. -/
structure Lines (before : Option Nat) (texts : List (List Char)) (last : List Char) (n : Nat) :
    Prop where
  isLine : ∀ text ∈ texts ++ [last], IsLine text
  blank : Text.trim last = []
  notBlank : ∀ text ∈ texts, Text.trim text ≠ []
  decimal : ∀ text ∈ texts, ∀ value, StatesLength text value → ∃ m, IsDecimal value m
  stated : LastStated before texts n

/-- The bytes of a block. -/
def block (texts : List (List Char)) (last : List Char) : List UInt8 :=
  encodeChars (texts.flatten ++ last)

/-- The bytes start with a header block and a body of the length that the block states. -/
def Accepts (bs body rest : List UInt8) : Prop :=
  ∃ texts last n, Lines none texts last n ∧ (block texts last).length ≤ 8192 ∧ n ≤ 16777216 ∧
    body.length = n ∧ bs = block texts last ++ body ++ rest

/-- What a body gives: the value it is the text of, or the reason why it is not one. -/
def decoded (body : List UInt8) : Outcome :=
  match Json.parse body with
  | .ok value => .frame value
  | .error fault => .notJson (fault.message body)

/-! ## What one line means -/

theorem takeWhile_colon {key : List Char} (hk : ':' ∉ key) (rest : List Char) :
    (key ++ ':' :: rest).takeWhile (· ≠ ':') = key := by
  have hpos : ∀ c ∈ key, (decide (c ≠ ':')) = true := by
    intro c hc
    simpa using fun he : c = ':' => hk (he ▸ hc)
  rw [List.takeWhile_append_of_pos hpos, List.takeWhile_cons_of_neg (by simp), List.append_nil]

theorem dropWhile_colon {key : List Char} (hk : ':' ∉ key) (rest : List Char) :
    (key ++ ':' :: rest).dropWhile (· ≠ ':') = ':' :: rest := by
  have h := List.takeWhile_append_dropWhile (p := (· ≠ ':')) (l := key ++ ':' :: rest)
  rw [takeWhile_colon hk] at h
  exact List.append_cancel_left h

theorem eq_of_colon {key key' rest rest' : List Char} (hk : ':' ∉ key) (hk' : ':' ∉ key')
    (h : key ++ ':' :: rest = key' ++ ':' :: rest') : key = key' ∧ rest = rest' := by
  have hkey : key = key' := by rw [← takeWhile_colon hk rest, h, takeWhile_colon hk' rest']
  subst hkey
  simpa using h

theorem StatesLength.unique {text value value' : List Char} (h : StatesLength text value)
    (h' : StatesLength text value') : value = value' := by
  obtain ⟨key, rest, heq, hkey, -, rfl⟩ := h
  obtain ⟨key', rest', heq', hkey', -, rfl⟩ := h'
  rw [(eq_of_colon hkey hkey' (heq.symm.trans heq')).2]

theorem StatesLength.ne_nil {text value : List Char} (h : StatesLength text value) :
    Text.trim text ≠ [] := by
  obtain ⟨key, rest, heq, -⟩ := h
  simp [heq]

theorem foldl_digits (digits : List Char) (n : Nat) :
    digits.foldl (fun n c => n * 10 + (c.toNat - 0x30)) n = Nat.ofDigitChars 10 digits n := by
  rw [Nat.ofDigitChars_eq_foldl]
  congr 1
  funext n c
  rw [Nat.mul_comm]
  rfl

theorem readDigits_eq_some (digits : List Char) {n : Nat} :
    (if digits.isEmpty || !digits.all Char.isDigit then none
      else
        let n := digits.foldl (fun n c => n * 10 + (c.toNat - 0x30)) 0
        if n ≤ maxLength then some n else none) = some n ↔
      digits ≠ [] ∧ (∀ c ∈ digits, c.isDigit = true) ∧ n = Nat.ofDigitChars 10 digits 0 ∧
        n < UInt64.size := by
  have hmax : ∀ m, m ≤ maxLength ↔ m < UInt64.size := fun m => Nat.le_sub_one_iff_lt (by decide)
  by_cases hdigits : digits ≠ [] ∧ ∀ c ∈ digits, c.isDigit = true
  · have hread : ¬ (digits.isEmpty || !digits.all Char.isDigit) = true := by
      simpa [List.all_eq_true] using hdigits
    rw [if_neg hread]
    simp only [foldl_digits, Option.ite_none_right_eq_some, Option.some.injEq, hmax]
    constructor
    · rintro ⟨hlt, rfl⟩
      exact ⟨hdigits.1, hdigits.2, rfl, hlt⟩
    · rintro ⟨-, -, rfl, hlt⟩
      exact ⟨hlt, rfl⟩
  · have hread : (digits.isEmpty || !digits.all Char.isDigit) = true := by
      rw [Bool.or_eq_true, List.isEmpty_iff, Bool.not_eq_true', ← Bool.not_eq_true,
        List.all_eq_true]
      exact Decidable.or_iff_not_not_and_not.mpr (by simpa using hdigits)
    rw [if_pos hread]
    exact ⟨fun h => (by cases h), fun h => absurd ⟨h.1, h.2.1⟩ hdigits⟩

theorem parseLength?_eq_some {value : List Char} {n : Nat} :
    parseLength? value = some n ↔ IsDecimal value n := by
  by_cases hplus : ∃ digits, value = '+' :: digits
  · obtain ⟨digits, rfl⟩ := hplus
    refine (readDigits_eq_some digits).trans ⟨fun h => ⟨digits, .inr rfl, h⟩, ?_⟩
    rintro ⟨digits', hvalue | hvalue, h⟩
    · subst hvalue
      exact absurd (h.2.1 '+' (by simp)) (by decide)
    · cases hvalue
      exact h
  · rw [parseLength?.eq_def]
    split
    · exact absurd ⟨_, rfl⟩ hplus
    refine (readDigits_eq_some value).trans ⟨fun h => ⟨value, .inl rfl, h⟩, ?_⟩
    rintro ⟨digits, rfl | hvalue, h⟩
    · exact h
    · exact absurd ⟨digits, hvalue⟩ hplus

theorem ofList_eq_contentLengthName {name : List Char} :
    String.ofList name = contentLengthName ↔
      name = "Content-Length".toList.map Char.toLower := by
  have h : contentLengthName = String.ofList ("Content-Length".toList.map Char.toLower) := by
    decide
  rw [h, String.ofList_inj]

theorem contentLength_colon {key : List Char} (hk : ':' ∉ key) (rest : List Char) :
    contentLength (key ++ ':' :: rest) =
      if (Text.trim key).map Char.toLower = "Content-Length".toList.map Char.toLower then
        match parseLength? (Text.trim rest) with
        | some n => .ok (some n)
        | none => .error (.invalidContentLength (String.ofList (Text.trim rest)))
      else .ok none := by
  rw [contentLength, dropWhile_colon hk]
  simp only [takeWhile_colon hk]
  by_cases hname : (Text.trim key).map Char.toLower = "Content-Length".toList.map Char.toLower
  · exact (if_neg fun h => h (ofList_eq_contentLengthName.mpr hname)).trans (if_pos hname).symm
  · rw [if_pos (fun h => hname (ofList_eq_contentLengthName.mp h)), if_neg hname]

theorem contentLength_of_notMem {line : List Char} (h : ':' ∉ line) :
    contentLength line = .ok none := by
  have hpos : ∀ c ∈ line, (decide (c ≠ ':')) = true := by
    intro c hc
    simpa using fun he : c = ':' => h (he ▸ hc)
  have hdrop : line.dropWhile (· ≠ ':') = [] := by
    rw [← List.append_nil line, List.dropWhile_append_of_pos hpos, List.dropWhile_nil]
  rw [contentLength, hdrop]

/-- What a line of this text means for the block. -/
inductive Line.Means (text : List Char) : Except FrameError Line → Prop
  | blank (hb : Text.trim text = []) : Line.Means text (.ok .blank)
  | length {value : List Char} {n : Nat} (hs : StatesLength text value) (hn : IsDecimal value n) :
      Line.Means text (.ok (.length n))
  | other (hb : Text.trim text ≠ []) (hs : ∀ value, ¬ StatesLength text value) :
      Line.Means text (.ok .other)
  | invalid {value : List Char} (hs : StatesLength text value) (hn : ∀ n, ¬ IsDecimal value n) :
      Line.Means text (.error (.invalidContentLength (String.ofList value)))

theorem Line.means_ofText (text : List Char) :
    Line.Means text (Line.ofText (Text.trim text)) := by
  rw [Line.ofText]
  split
  · next hb => exact .blank (List.isEmpty_iff.mp hb)
  · next hb =>
      have hb : Text.trim text ≠ [] := fun h => hb (List.isEmpty_iff.mpr h)
      by_cases hcolon : ':' ∈ Text.trim text
      · obtain ⟨key, rest, heq, hkey⟩ := List.eq_append_cons_of_mem hcolon
        rw [heq, contentLength_colon hkey]
        by_cases hname : (Text.trim key).map Char.toLower = "Content-Length".toList.map Char.toLower
        · have hs : StatesLength text (Text.trim rest) := ⟨key, rest, heq, hkey, hname, rfl⟩
          rw [if_pos hname]
          cases hn : parseLength? (Text.trim rest) with
          | some n => exact .length hs (parseLength?_eq_some.mp hn)
          | none =>
              refine .invalid hs fun n h => ?_
              rw [parseLength?_eq_some.mpr h] at hn
              cases hn
        · rw [if_neg hname]
          refine .other hb ?_
          rintro value ⟨key', rest', heq', hkey', hname', -⟩
          rw [(eq_of_colon hkey hkey' (heq.symm.trans heq')).1] at hname
          exact hname hname'
      · rw [contentLength_of_notMem hcolon]
        refine .other hb ?_
        rintro value ⟨key, rest, heq, -⟩
        exact hcolon (by simp [heq])

/-! ## One line at the front -/

theorem takeLine_line {content : List UInt8} (hc : 0x0A ∉ content) {budget : Nat}
    (hb : content.length < budget) (rest : List UInt8) :
    takeLine budget (content ++ 0x0A :: rest) = content ++ [0x0A] := by
  induction content generalizing budget with
  | nil =>
      obtain ⟨budget, rfl⟩ := Nat.exists_eq_add_one.mpr hb
      rfl
  | cons b more ih =>
      obtain ⟨budget, rfl⟩ := Nat.exists_eq_add_one.mpr (Nat.zero_lt_of_lt hb)
      rw [List.mem_cons, not_or] at hc
      rw [List.cons_append, takeLine, if_neg (Ne.symm hc.1), ih hc.2 (by simpa using hb)]
      rfl

theorem notMem_of_takeLine {budget : Nat} {bs content : List UInt8} {b : UInt8}
    (h : takeLine budget bs = content ++ [b]) : 0x0A ∉ content := by
  induction budget generalizing bs content with
  | zero => simp [takeLine] at h
  | succ budget ih =>
      cases bs with
      | nil => simp [takeLine] at h
      | cons a more =>
          cases content with
          | nil => simp
          | cons c content =>
              rw [takeLine] at h
              split at h
              · simp at h
              · next ha =>
                  simp only [List.cons_append, List.cons.injEq] at h
                  obtain ⟨rfl, h⟩ := h
                  rw [List.mem_cons, not_or]
                  exact ⟨Ne.symm ha, ih h⟩

theorem encodeChars_line (content : List Char) :
    encodeChars (content ++ ['\n']) = encodeChars content ++ [0x0A] := by
  rw [encodeChars_append]
  rfl

theorem notMem_encodeChars {content : List Char} (h : '\n' ∉ content) :
    0x0A ∉ encodeChars content := fun hmem => h ((mem_encodeChars (by decide)).mp hmem)

/-- What comes of a block behind a line of this meaning. -/
def readBehind (budget : Nat) (length : Option Nat) (rest : List UInt8) :
    Except FrameError Line → Except FrameError (Nat × List UInt8)
  | .error e => .error e
  | .ok .blank =>
      match length with
      | some n => .ok (n, rest)
      | none => .error .missingContentLength
  | .ok (.length n) => readLines budget (some n) rest
  | .ok .other => readLines budget length rest

/-- A line at the front of the input, within the budget, is read as what its text means. -/
theorem readLines_line {text : List Char} (hl : IsLine text) {budget : Nat}
    (hb : (encodeChars text).length ≤ budget) (length : Option Nat) (rest : List UInt8) :
    readLines budget length (encodeChars text ++ rest) =
      readBehind (budget - (encodeChars text).length) length rest
        (Line.ofText (Text.trim text)) := by
  have hflaw : firstFlaw? (encodeChars text) = none := firstFlaw?_eq_none.mpr ⟨text, rfl⟩
  have hmeaning : Line.ofBytes (encodeChars text) = Line.ofText (Text.trim text) := by
    rw [Line.ofBytes, decodeLossyChars_encodeChars]
  obtain ⟨content, rfl, hcontent⟩ := hl
  rw [encodeChars_line, List.length_append, List.length_singleton] at hb
  have htake : takeLine budget (encodeChars (content ++ ['\n']) ++ rest) =
      encodeChars (content ++ ['\n']) := by
    rw [encodeChars_line, List.append_assoc]
    exact takeLine_line (notMem_encodeChars hcontent) hb rest
  have hwhole : isWhole (encodeChars (content ++ ['\n'])) = true := by
    rw [isWhole, encodeChars_line, List.getLast?_concat]
    rfl
  have hne : encodeChars (content ++ ['\n']) ≠ [] := by simp [encodeChars_line]
  generalize encodeChars (content ++ ['\n']) = line at *
  obtain ⟨budget, rfl⟩ := Nat.exists_eq_add_one.mpr (Nat.zero_lt_of_lt hb)
  obtain ⟨b, more, rfl⟩ := List.exists_cons_of_ne_nil hne
  have hdrop : (b :: more ++ rest).drop (more.length + 1) = rest := List.drop_left
  rw [readLines]
  simp only [htake, hflaw, hwhole, hmeaning, hdrop, List.length_cons, Nat.add_sub_add_right,
    Bool.not_true, Bool.false_eq_true, if_false]
  rfl

theorem exists_line {budget : Nat} {bs line : List UInt8} (htake : takeLine budget bs = line)
    (hflaw : firstFlaw? line = none) (hwhole : isWhole line = true) :
    ∃ text, IsLine text ∧ encodeChars text = line := by
  obtain ⟨text, rfl⟩ := firstFlaw?_eq_none.mp hflaw
  obtain ⟨content, hcontent⟩ := List.getLast?_eq_some_iff.mp (of_decide_eq_true hwhole)
  rw [hcontent] at htake
  obtain ⟨ds, rfl, rfl⟩ := eq_concat_of_encodeChars (by decide) hcontent
  refine ⟨_, ⟨ds, rfl, fun hmem => notMem_of_takeLine htake ?_⟩, rfl⟩
  exact (mem_encodeChars (by decide)).mpr hmem

theorem line_of_readLines {budget : Nat} {length : Option Nat} {bs : List UInt8}
    {r : Nat × List UInt8} (h : readLines budget length bs = .ok r) :
    ∃ text rest, IsLine text ∧ (encodeChars text).length ≤ budget ∧
      bs = encodeChars text ++ rest := by
  rw [readLines.eq_def] at h
  cases budget with
  | zero => cases h
  | succ budget =>
      simp only at h
      split at h
      · cases h
      · next b more htake =>
          split at h
          · cases h
          · next hflaw =>
              split at h
              · cases h
              · next hwhole =>
                  obtain ⟨text, hline, htext⟩ := exists_line htake hflaw (by simpa using hwhole)
                  refine ⟨text, bs.drop (b :: more).length, hline, ?_, ?_⟩
                  · rw [htext, ← htake]
                    exact length_takeLine_le (budget + 1) bs
                  · rw [htext]
                    exact (List.prefix_iff_eq_append.mp
                      (htake ▸ isPrefix_takeLine (budget + 1) bs)).symm

/-! ## The lines of a block -/

variable {before : Option Nat} {texts : List (List Char)} {text last : List Char} {n m : Nat}

theorem lines_nil :
    Lines before [] last n ↔ IsLine last ∧ Text.trim last = [] ∧ before = some n := by
  constructor
  · rintro ⟨hline, hblank, -, -, ⟨earlier, text, value, later, h, -⟩ | ⟨h, -⟩⟩
    · simp at h
    · exact ⟨hline last (by simp), hblank, h⟩
  · rintro ⟨hline, hblank, rfl⟩
    exact ⟨by simpa using hline, hblank, by simp, by simp, .inr ⟨rfl, by simp⟩⟩

theorem IsDecimal.unique {value : List Char} (h : IsDecimal value n) (h' : IsDecimal value m) :
    n = m := by
  have heq := (parseLength?_eq_some.mpr h).symm.trans (parseLength?_eq_some.mpr h')
  exact Option.some.inj heq

theorem lastStated_cons_of_states {value : List Char} (hs : StatesLength text value)
    (hm : IsDecimal value m) :
    LastStated before (text :: texts) n ↔ LastStated (some m) texts n := by
  constructor
  · rintro (⟨earlier, text', value', later, heq, hs', hn, hlater⟩ | ⟨-, hnone⟩)
    · cases earlier with
      | nil =>
          cases heq
          cases hs.unique hs'
          exact .inr ⟨congrArg some (hm.unique hn), hlater⟩
      | cons first earlier =>
          cases heq
          exact .inl ⟨earlier, text', value', later, rfl, hs', hn, hlater⟩
    · exact absurd hs (hnone text List.mem_cons_self value)
  · rintro (⟨earlier, text', value', later, rfl, hs', hn, hlater⟩ | ⟨hbefore, hnone⟩)
    · exact .inl ⟨text :: earlier, text', value', later, rfl, hs', hn, hlater⟩
    · cases hbefore
      exact .inl ⟨[], text, value, texts, rfl, hs, hm, hnone⟩

theorem lastStated_cons_of_not (hs : ∀ value, ¬ StatesLength text value) :
    LastStated before (text :: texts) n ↔ LastStated before texts n := by
  constructor
  · rintro (⟨earlier, text', value', later, heq, hs', hn, hlater⟩ | ⟨hbefore, hnone⟩)
    · cases earlier with
      | nil =>
          cases heq
          exact absurd hs' (hs value')
      | cons first earlier =>
          cases heq
          exact .inl ⟨earlier, text', value', later, rfl, hs', hn, hlater⟩
    · exact .inr ⟨hbefore, fun other h => hnone other (List.mem_cons_of_mem text h)⟩
  · rintro (⟨earlier, text', value', later, rfl, hs', hn, hlater⟩ | ⟨hbefore, hnone⟩)
    · exact .inl ⟨text :: earlier, text', value', later, rfl, hs', hn, hlater⟩
    · exact .inr ⟨hbefore, List.forall_mem_cons.mpr ⟨hs, hnone⟩⟩

/-- A line in front of a block changes nothing but the length that was stated before the rest. -/
theorem lines_cons {after : Option Nat} (hl : IsLine text) (hb : Text.trim text ≠ [])
    (hd : ∀ value, StatesLength text value → ∃ m, IsDecimal value m)
    (hstated : LastStated before (text :: texts) n ↔ LastStated after texts n) :
    Lines before (text :: texts) last n ↔ Lines after texts last n := by
  constructor
  · rintro ⟨hline, hblank, hnotBlank, hdecimal, hlast⟩
    exact ⟨(List.forall_mem_cons.mp hline).2, hblank, (List.forall_mem_cons.mp hnotBlank).2,
      (List.forall_mem_cons.mp hdecimal).2, hstated.mp hlast⟩
  · rintro ⟨hline, hblank, hnotBlank, hdecimal, hlast⟩
    exact ⟨List.forall_mem_cons.mpr ⟨hl, hline⟩, hblank, List.forall_mem_cons.mpr ⟨hb, hnotBlank⟩,
      List.forall_mem_cons.mpr ⟨hd, hdecimal⟩, hstated.mpr hlast⟩

theorem lines_cons_of_states {value : List Char} (hl : IsLine text) (hs : StatesLength text value)
    (hm : IsDecimal value m) :
    Lines before (text :: texts) last n ↔ Lines (some m) texts last n :=
  lines_cons hl hs.ne_nil (fun _ hs' => ⟨m, hs.unique hs' ▸ hm⟩) (lastStated_cons_of_states hs hm)

theorem lines_cons_of_not (hl : IsLine text) (hb : Text.trim text ≠ [])
    (hs : ∀ value, ¬ StatesLength text value) :
    Lines before (text :: texts) last n ↔ Lines before texts last n :=
  lines_cons hl hb (fun value hs' => absurd hs' (hs value)) (lastStated_cons_of_not hs)

theorem block_cons (text : List Char) (texts : List (List Char)) (last : List Char) :
    block (text :: texts) last = encodeChars text ++ block texts last := by
  rw [block, List.flatten_cons, List.append_assoc, encodeChars_append]
  rfl

/-- What is read as a block is one: the first line means something, and what follows it is read as
the rest of the block, with what is left of the budget. -/
theorem lines_of_readLines {budget : Nat} {bs rest : List UInt8}
    (h : readLines budget before bs = .ok (n, rest)) :
    ∃ texts last, Lines before texts last n ∧ (block texts last).length ≤ budget ∧
      bs = block texts last ++ rest := by
  induction budget using Nat.strongRecOn generalizing before bs with
  | _ budget ih =>
      obtain ⟨text, bs, hl, hb, rfl⟩ := line_of_readLines h
      -- a line takes its line feed at least from the budget, which the induction is on
      have hpos : 0 < (encodeChars text).length := by
        obtain ⟨content, rfl, -⟩ := hl
        simp [encodeChars_line]
      rw [readLines_line hl hb] at h
      have hmeans := Line.means_ofText text
      generalize Line.ofText (Text.trim text) = meaning at h hmeans
      cases hmeans with
      | blank hblank =>
          cases before with
          | none => cases h
          | some k =>
              cases h
              exact ⟨[], text, lines_nil.mpr ⟨hl, hblank, rfl⟩, hb, rfl⟩
      | length hs hm =>
          obtain ⟨texts, last, hlines, hbudget, rfl⟩ := ih _ (by omega) h
          refine ⟨text :: texts, last, (lines_cons_of_states hl hs hm).mpr hlines, ?_, ?_⟩
          · rw [block_cons, List.length_append]
            omega
          · rw [block_cons, List.append_assoc]
      | other hnotBlank hs =>
          obtain ⟨texts, last, hlines, hbudget, rfl⟩ := ih _ (by omega) h
          refine ⟨text :: texts, last, (lines_cons_of_not hl hnotBlank hs).mpr hlines, ?_, ?_⟩
          · rw [block_cons, List.length_append]
            omega
          · rw [block_cons, List.append_assoc]
      | invalid hs hn => cases h

/-- The first line of a block is read, and what is behind it is read as the rest of the block. -/
theorem readLines_cons {budget : Nat} (h : Lines before (text :: texts) last n)
    (hb : (encodeChars text).length ≤ budget) :
    ∃ after, Lines after texts last n ∧ ∀ rest,
      readLines budget before (encodeChars text ++ rest) =
        readLines (budget - (encodeChars text).length) after rest := by
  have hl : IsLine text := h.isLine text List.mem_cons_self
  have hnotBlank : Text.trim text ≠ [] := h.notBlank text List.mem_cons_self
  have hread := readLines_line hl hb before
  have hmeans := Line.means_ofText text
  generalize Line.ofText (Text.trim text) = meaning at hread hmeans
  cases hmeans with
  | blank hblank => exact absurd hblank hnotBlank
  | length hs hm => exact ⟨_, (lines_cons_of_states hl hs hm).mp h, hread⟩
  | other _ hs => exact ⟨_, (lines_cons_of_not hl hnotBlank hs).mp h, hread⟩
  | invalid hs hn =>
      obtain ⟨k, hk⟩ := h.decimal text List.mem_cons_self _ hs
      exact absurd hk (hn k)

theorem readLines_of_lines {budget : Nat} (h : Lines before texts last n)
    (hb : (block texts last).length ≤ budget) (rest : List UInt8) :
    readLines budget before (block texts last ++ rest) = .ok (n, rest) := by
  induction texts generalizing before budget with
  | nil =>
      obtain ⟨hl, hblank, rfl⟩ := lines_nil.mp h
      have hmeans : Line.ofText (Text.trim last) = .ok .blank := by rw [hblank]; rfl
      rw [show block [] last = encodeChars last from rfl] at hb ⊢
      rw [readLines_line hl hb, hmeans]
      rfl
  | cons text texts ih =>
      rw [block_cons, List.length_append] at hb
      have hfirst : (encodeChars text).length ≤ budget := by omega
      obtain ⟨after, hafter, hread⟩ := readLines_cons h hfirst
      rw [block_cons, List.append_assoc, hread]
      exact ih hafter (by omega)

/-! ## Frames -/

theorem goesOn_decoded (body : List UInt8) : (decoded body).goesOn = true := by
  rw [decoded]
  split
  · rfl
  · rfl

theorem readBody_of_length {body : List UInt8} (hn : body.length ≤ 16777216) (rest : List UInt8) :
    readBody body.length (body ++ rest) = (decoded body, rest) := by
  have hmax : ¬ maxBody < body.length := Nat.not_lt.mpr hn
  rw [readBody, if_neg hmax]
  simp only [List.take_left, Nat.lt_irrefl, if_false, List.drop_left, decoded]
  cases Json.parse body with
  | ok value => rfl
  | error fault => rfl

theorem readBody_cases (n : Nat) (bs : List UInt8) :
    (n ≤ 16777216 ∧ n ≤ bs.length ∧ readBody n bs = (decoded (bs.take n), bs.drop n)) ∨
      ∃ e, readBody n bs = (.broken e, bs) := by
  by_cases hmax : maxBody < n
  · exact .inr ⟨_, by rw [readBody, if_pos hmax]⟩
  · by_cases hlength : n ≤ bs.length
    · refine .inl ⟨Nat.not_lt.mp hmax, hlength, ?_⟩
      have htake : (bs.take n).length = n := List.length_take_of_le hlength
      have h := readBody_of_length (htake ▸ Nat.not_lt.mp hmax) (bs.drop n)
      rwa [htake, List.take_append_drop] at h
    · have htake : (bs.take n).length < n := by
        rw [List.length_take]
        omega
      exact .inr ⟨_, by simp only [readBody, if_neg hmax, if_pos htake]; rfl⟩

/-- Reading ends at the end of the input, or decodes a frame that is accepted, or breaks. -/
theorem read_cases (bs : List UInt8) :
    (bs = [] ∧ read bs = (.ended, [])) ∨
      (bs ≠ [] ∧ ∃ body rest, Accepts bs body rest ∧ read bs = (decoded body, rest)) ∨
      (bs ≠ [] ∧ ∃ e rest, read bs = (.broken e, rest)) := by
  by_cases hbs : bs = []
  · subst hbs
    exact .inl ⟨rfl, rfl⟩
  · have hempty : ¬ bs.isEmpty = true := fun h => hbs (List.isEmpty_iff.mp h)
    rw [read, if_neg hempty]
    cases hheader : readHeader bs with
    | error e => exact .inr (.inr ⟨hbs, e, bs, rfl⟩)
    | ok r =>
        obtain ⟨n, left⟩ := r
        obtain ⟨texts, last, hlines, hblock, hsplit⟩ := lines_of_readLines hheader
        rcases readBody_cases n left with ⟨hmax, hlength, hbody⟩ | ⟨e, hbody⟩
        · refine .inr (.inl ⟨hbs, left.take n, left.drop n, ?_, hbody⟩)
          refine ⟨texts, last, n, hlines, hblock, hmax, List.length_take_of_le hlength, ?_⟩
          rw [List.append_assoc, List.take_append_drop]
          exact hsplit
        · exact .inr (.inr ⟨hbs, e, left, hbody⟩)

/-- A frame is accepted whatever bytes come behind it. -/
theorem Accepts.append {bs body rest : List UInt8} (h : Accepts bs body rest)
    (more : List UInt8) : Accepts (bs ++ more) body (rest ++ more) := by
  obtain ⟨texts, last, n, hlines, hblock, hn, hlength, rfl⟩ := h
  exact ⟨texts, last, n, hlines, hblock, hn, hlength, by rw [List.append_assoc _ rest more]⟩

theorem read_of_accepts {bs body rest : List UInt8} (h : Accepts bs body rest) :
    read bs = (decoded body, rest) := by
  obtain ⟨texts, last, n, hlines, hblock, hn, rfl, rfl⟩ := h
  have hheader : readHeader (block texts last ++ (body ++ rest)) =
      .ok (body.length, body ++ rest) := readLines_of_lines hlines hblock _
  have hempty : ¬ (block texts last ++ (body ++ rest)).isEmpty = true := by
    have hlength := length_of_readLines hheader
    rw [List.isEmpty_iff_length_eq_zero]
    omega
  rw [read, List.append_assoc, if_neg hempty, hheader]
  exact readBody_of_length hn rest

theorem accepts_of_read {bs rest : List UInt8} {o : Outcome} (h : read bs = (o, rest))
    (ho : o.goesOn = true) : ∃ body, Accepts bs body rest ∧ o = decoded body := by
  rcases read_cases bs with ⟨-, h'⟩ | ⟨-, body, left, haccepts, h'⟩ | ⟨-, e, left, h'⟩
  · rw [h'] at h
    cases h
    cases ho
  · rw [h'] at h
    cases h
    exact ⟨body, haccepts, rfl⟩
  · rw [h'] at h
    cases h
    cases ho

theorem read_eq_ended {bs : List UInt8} : (read bs).1 = .ended ↔ bs = [] := by
  refine ⟨fun h => ?_, fun h => h ▸ rfl⟩
  rcases read_cases bs with ⟨hbs, -⟩ | ⟨-, body, rest, -, h'⟩ | ⟨-, e, rest, h'⟩
  · exact hbs
  · have hgoesOn := goesOn_decoded body
    rw [h'] at h
    rw [show decoded body = .ended from h] at hgoesOn
    cases hgoesOn
  · rw [h'] at h
    cases h

theorem read_eq_broken {bs : List UInt8} :
    (∃ e, (read bs).1 = .broken e) ↔ bs ≠ [] ∧ ¬ ∃ body rest, Accepts bs body rest := by
  constructor
  · rintro ⟨e, he⟩
    refine ⟨fun hbs => ?_, ?_⟩
    · rw [read_eq_ended.mpr hbs] at he
      cases he
    · rintro ⟨body, rest, haccepts⟩
      have hgoesOn := goesOn_decoded body
      rw [read_of_accepts haccepts] at he
      rw [show decoded body = .broken e from he] at hgoesOn
      cases hgoesOn
  · rintro ⟨hbs, hnone⟩
    rcases read_cases bs with ⟨h, -⟩ | ⟨-, body, rest, haccepts, -⟩ | ⟨-, e, rest, h⟩
    · exact absurd h hbs
    · exact absurd ⟨body, rest, haccepts⟩ hnone
    · exact ⟨e, by rw [h]⟩

theorem outcomesFrom_of_read {bs rest : List UInt8} {o : Outcome} (h : read bs = (o, rest))
    (seen : List Outcome) :
    outcomesFrom seen bs =
      if o.goesOn = true then outcomesFrom (o :: seen) rest else (o :: seen).reverse := by
  rw [outcomesFrom]
  split
  next o' rest' h' =>
    rw [h] at h'
    cases h'
    rfl

theorem outcomesFrom_eq (seen : List Outcome) (bs : List UInt8) :
    outcomesFrom seen bs = seen.reverse ++ outcomes bs := by
  induction hn : bs.length using Nat.strongRecOn generalizing seen bs with
  | _ n ih =>
      obtain ⟨o, rest, hread⟩ : ∃ o rest, read bs = (o, rest) := ⟨_, _, rfl⟩
      rw [outcomes, outcomesFrom_of_read hread, outcomesFrom_of_read hread]
      by_cases ho : o.goesOn = true
      · have hrest := ih rest.length (hn ▸ length_of_read hread ho)
        rw [if_pos ho, if_pos ho, hrest (o :: seen) rest rfl, hrest [o] rest rfl,
          List.reverse_cons, List.append_assoc]
        rfl
      · rw [if_neg ho, if_neg ho, List.reverse_cons]
        rfl

theorem outcomes_of_accepts {bs body rest : List UInt8} (h : Accepts bs body rest) :
    outcomes bs = decoded body :: outcomes rest := by
  rw [outcomes, outcomesFrom_of_read (read_of_accepts h), if_pos (goesOn_decoded body),
    outcomesFrom_eq]
  rfl

/-- On every input, reading ends exactly if there is none; it goes on with a result exactly if the
input starts with a frame that is accepted, and then the result is what the body gives and the next
frame is read from what follows the body; and it breaks off otherwise. -/
theorem read_iff_accepts (bs : List UInt8) :
    ((read bs).1 = .ended ↔ bs = []) ∧
    (∀ o rest, o.goesOn = true →
      (read bs = (o, rest) ↔ ∃ body, Accepts bs body rest ∧ o = decoded body)) ∧
    (∀ body rest, Accepts bs body rest → outcomes bs = decoded body :: outcomes rest) ∧
    ((∃ e, (read bs).1 = .broken e) ↔ bs ≠ [] ∧ ¬ ∃ body rest, Accepts bs body rest) := by
  refine ⟨read_eq_ended, fun o rest ho => ⟨fun h => accepts_of_read h ho, ?_⟩,
    fun _ _ => outcomes_of_accepts, read_eq_broken⟩
  rintro ⟨body, haccepts, rfl⟩
  exact read_of_accepts haccepts

end DiagServer.Frame
