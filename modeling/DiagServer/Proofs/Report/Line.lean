import DiagServer.Proofs.Json.OneLine
import DiagServer.Proofs.Json.Record
import DiagServer.Proofs.Text.Lines
import DiagServer.Report
import Mathlib.Data.List.Basic

/-!
# The line of a report

A compiler writes a report as a JSON object on a line of its own. The order of the members says
nothing, and neither do further members or blanks around the object: what is read from such a line
is the report. The reader keeps a draft, and the draft depends on nothing but the names that were
read so far (`Draft.part`), so the order is gone after one step.
-/

namespace DiagServer.Report

open Json

/-- The members of a report, in their declared order. -/
def members (r : Report) : List (String × Json) := [
  ("filename", .str r.file),
  ("startLine", .int r.span.startLine.toNat),
  ("startColumn", .int r.span.startColumn.toNat),
  ("endLine", .int r.span.endLine.toNat),
  ("endColumn", .int r.span.endColumn.toNat),
  ("message", .str r.message)]

/-- A value, if its name is known. -/
def ifKnown {α : Type} (known : List String) (name : String) (x : α) : Option α :=
  if name ∈ known then some x else none

/-- The draft of a report of which the members of some names were read. -/
def Draft.part (r : Report) (known : List String) : Draft where
  file := ifKnown known "filename" r.file
  startLine := ifKnown known "startLine" r.span.startLine
  startColumn := ifKnown known "startColumn" r.span.startColumn
  endLine := ifKnown known "endLine" r.span.endLine
  endColumn := ifKnown known "endColumn" r.span.endColumn
  message := ifKnown known "message" r.message

variable {r : Report} {known : List String} {m : String × Json} {ms : List (String × Json)}

/-! ## Reading members -/

theorem isSome_ifKnown {α : Type} {name : String} (h : name ∉ known) (x : α) :
    (ifKnown known name x).isSome = false := by
  rw [ifKnown, if_neg h]
  rfl

theorem takes_own (hm : m ∈ r.members) (hnew : m.1 ∉ known) :
    Takes fields (.part r known) m (.part r (known ++ [m.1])) := by
  simp only [members, List.mem_cons, List.not_mem_nil, or_false] at hm
  rcases hm with rfl | rfl | rfl | rfl | rfl | rfl
  · exact .of rfl (isSome_ifKnown hnew _) (fun rest _ => readString_encode _ rest)
      (by simp [Draft.part, ifKnown])
  · exact .of rfl (isSome_ifKnown hnew _) (fun _ hrest => readUInt32_encode _ hrest)
      (by simp [Draft.part, ifKnown])
  · exact .of rfl (isSome_ifKnown hnew _) (fun _ hrest => readUInt32_encode _ hrest)
      (by simp [Draft.part, ifKnown])
  · exact .of rfl (isSome_ifKnown hnew _) (fun _ hrest => readUInt32_encode _ hrest)
      (by simp [Draft.part, ifKnown])
  · exact .of rfl (isSome_ifKnown hnew _) (fun _ hrest => readUInt32_encode _ hrest)
      (by simp [Draft.part, ifKnown])
  · exact .of rfl (isSome_ifKnown hnew _) (fun rest _ => readString_encode _ rest)
      (by simp [Draft.part, ifKnown])

theorem map_name_fields (r : Report) : fields.map (·.name) = r.members.map (·.1) := rfl

theorem part_append_of_notMem {name : String} (h : name ∉ fields.map (·.name)) :
    Draft.part r (known ++ [name]) = .part r known := by
  have hifKnown : ∀ {α : Type} (field : String) (x : α), field ∈ fields.map (·.name) →
      ifKnown (known ++ [name]) field x = ifKnown known field x := by
    intro α field x hfield
    have hne : field ≠ name := fun heq => h (heq ▸ hfield)
    simp [ifKnown, hne]
  rw [Draft.part, Draft.part]
  congr 1 <;> exact hifKnown _ _ (by decide)

/-- Members of which none has the name of a field twice are read in any order. -/
theorem takesAll
    (hms : ∀ m ∈ ms, m ∈ r.members ∨ m.1 ∉ fields.map (·.name) ∧ IsScalar m.2)
    (hnew : ∀ m ∈ ms, m.1 ∈ fields.map (·.name) → m.1 ∉ known)
    (hapart : ms.Pairwise fun a b => a.1 = b.1 → a.1 ∉ fields.map (·.name)) :
    TakesAll fields (.part r known) ms (.part r (known ++ ms.map (·.1))) := by
  induction ms generalizing known with
  | nil =>
      rw [List.map_nil, List.append_nil]
      exact .nil
  | cons m rest ih =>
      rw [List.forall_mem_cons] at hms hnew
      rw [List.pairwise_cons] at hapart
      have hm : Takes fields (.part r known) m (.part r (known ++ [m.1])) := by
        rcases hms.1 with hown | ⟨hname, hvalue⟩
        · refine takes_own hown (hnew.1 ?_)
          rw [map_name_fields r]
          exact List.mem_map_of_mem hown
        · rw [part_append_of_notMem hname]
          exact .other hname hvalue
      have hrest : TakesAll fields (.part r (known ++ [m.1])) rest
          (.part r (known ++ [m.1] ++ rest.map (·.1))) := by
        refine ih hms.2 (fun m' hm' hfield hknown => ?_) hapart.2
        rcases List.mem_append.mp hknown with hknown | heq
        · exact hnew.2 m' hm' hfield hknown
        · have heq : m.1 = m'.1 := (List.mem_singleton.mp heq).symm
          exact hapart.1 m' hm' heq (heq ▸ hfield)
      rw [List.append_assoc] at hrest
      exact .cons hm hrest

theorem part_of_mem (h : ∀ name ∈ fields.map (·.name), name ∈ known) :
    Draft.part r known =
      ⟨some r.file, some r.span.startLine, some r.span.startColumn, some r.span.endLine,
        some r.span.endColumn, some r.message⟩ := by
  rw [Draft.part]
  congr 1 <;> exact if_pos (h _ (by decide))

/-! ## Lines -/

/-- A blank that may stand on a line next to the object. -/
inductive Blank where
  | space
  | tab
  | carriageReturn
deriving Repr, DecidableEq

def Blank.char : Blank → Char
  | .space => ' '
  | .tab => '\t'
  | .carriageReturn => '\r'

/-- A report as it may stand on a line: the object of its members and of further ones, in any
order, between blanks. -/
structure Written where
  report : Report
  further : List (String × Json)
  otherNames : ∀ m ∈ further, m.1 ∉ report.members.map (·.1)
  scalars : ∀ m ∈ further, IsScalar m.2
  members : List (String × Json)
  perm : members.Perm (report.members ++ further)
  before : List Blank
  after : List Blank

namespace Written

variable (w : Written)

/-- The characters of the line. -/
def text : List Char :=
  w.before.map Blank.char ++ render (.obj w.members) ++ w.after.map Blank.char

theorem mem_or (w : Written) {m : String × Json} (hm : m ∈ w.members) :
    m ∈ w.report.members ∨ m.1 ∉ fields.map (·.name) ∧ IsScalar m.2 := by
  rcases List.mem_append.mp (w.perm.mem_iff.mp hm) with hown | hfurther
  · exact .inl hown
  · exact .inr ⟨w.otherNames m hfurther, w.scalars m hfurther⟩

theorem pairwise :
    w.members.Pairwise fun a b => a.1 = b.1 → a.1 ∉ fields.map (·.name) := by
  have hsymm : ∀ {a b : String × Json}, (a.1 = b.1 → a.1 ∉ fields.map (·.name)) →
      b.1 = a.1 → b.1 ∉ fields.map (·.name) := by
    intro a b h heq
    rw [heq]
    exact h heq.symm
  rw [w.perm.pairwise_iff hsymm, List.pairwise_append]
  refine ⟨?_, ?_, ?_⟩
  · have hnames : (w.report.members.map (·.1)).Nodup := by
      rw [← map_name_fields]
      decide
    exact (List.pairwise_map.mp hnames).imp fun hne heq => absurd heq hne
  · exact List.pairwise_of_forall_mem_list fun a ha b _ _ => w.otherNames a ha
  · intro a _ b hb heq
    rw [heq]
    exact w.otherNames b hb

/-- The object is read as the report. -/
theorem readWhole_encode :
    ∃ draft, readWhole (readRecord "ReportLine" fields {}) (encode (.obj w.members)) = .ok draft ∧
      draft.finish? = some w.report := by
  have hall : ∀ name ∈ fields.map (·.name), name ∈ w.members.map (·.1) := by
    intro name hname
    rw [map_name_fields w.report] at hname
    refine ((w.perm.map (·.1)).mem_iff).mpr ?_
    rw [List.map_append]
    exact List.mem_append_left _ hname
  have htakes : TakesAll fields (.part w.report []) w.members
      (.part w.report (w.members.map (·.1))) :=
    takesAll (fun m hm => w.mem_or hm) (fun m _ _ => List.not_mem_nil) w.pairwise
  have hdraft := part_of_mem (r := w.report) hall
  refine ⟨.part w.report (w.members.map (·.1)), ?_, ?_⟩
  · have hmissing : missing? fields (.part w.report (w.members.map (·.1))) = none := by
      rw [hdraft]
      rfl
    have hread := readRecord_encode htakes hmissing "ReportLine" []
    rw [List.append_nil] at hread
    show readWhole (readRecord "ReportLine" fields (.part w.report [])) _ = _
    rw [readWhole, hread]
    rfl
  · rw [hdraft]
    rfl

theorem isBlank_of_mem {blanks : List Blank} :
    ∀ c ∈ blanks.map Blank.char, Text.isBlank c = true := by
  rw [List.forall_mem_map]
  intro blank _
  cases blank <;> decide

theorem exists_renderMembers (ms : List (String × Json)) :
    ∃ body, renderMembers ms = body ++ ['}'] := by
  induction ms with
  | nil => exact ⟨[], rfl⟩
  | cons m rest ih =>
      cases rest with
      | nil => exact ⟨renderText m.1 ++ ':' :: render m.2, by simp [renderMembers]⟩
      | cons n rest =>
          obtain ⟨body, hbody⟩ := ih
          exact ⟨renderText m.1 ++ ':' :: (render m.2 ++ ',' :: body),
            by simp [renderMembers, hbody]⟩

theorem trim_text : Text.trim w.text = '{' :: renderMembers w.members := by
  obtain ⟨body, hbody⟩ := exists_renderMembers w.members
  rw [text, Text.trim_blanks isBlank_of_mem isBlank_of_mem, render, hbody]
  exact Text.trim_of_not_blank (by decide) (by decide) body

/-- The report is recovered from its line. -/
theorem parseLine_text : parseLine w.text = some w.report := by
  obtain ⟨draft, hread, hfinish⟩ := w.readWhole_encode
  have hbytes : Text.Utf8.encodeChars ('{' :: renderMembers w.members) =
      encode (.obj w.members) := by
    rw [encode, render]
  rw [parseLine, trim_text]
  simp only
  rw [hbytes, hread]
  exact hfinish

theorem newline_notMem_text : '\n' ∉ w.text := by
  have hblanks : ∀ blanks : List Blank, '\n' ∉ blanks.map Blank.char := by
    intro blanks hmem
    obtain ⟨blank, -, heq⟩ := List.mem_map.mp hmem
    cases blank <;> cases heq
  rw [text, List.mem_append, List.mem_append, not_or, not_or]
  exact ⟨⟨hblanks _, newline_notMem_render _⟩, hblanks _⟩

end Written

end DiagServer.Report
