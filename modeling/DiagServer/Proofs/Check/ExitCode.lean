import DiagServer.Proofs.Check.Trace
import DiagServer.Run

/-!
# What the exit code of a check tells

The exit code is taken from the store in the end, which keeps the last parse of each document only.
If a document is checked twice and the second parse reports nothing, the records of the first stay
printed while the code is zero. Nothing else can part the two: a code of one always comes with a
record, and where no document is checked twice a record comes with a code of one.
-/

namespace DiagServer

variable {σ π : Type} {f : FrontEnd σ π} {filesOf : σ → FileSystem}
  {settings : Config.Diagnostics} {paths : List (List UInt8)}

namespace Check

variable {checked : List (Checked σ)}

/-- The lines for a file that was checked, as bytes. -/
def Checked.bytes (e : Checked σ) : List UInt8 :=
  e.records.flatMap fun line => Text.Utf8.encode (line ++ "\n")

theorem encode_line (line : String) :
    Text.Utf8.encode (line ++ "\n") = Text.Utf8.encode line ++ [0x0A] := by
  rw [Text.Utf8.encode, String.toList_append, Text.Utf8.encodeChars_append]
  rfl

theorem Checked.bytes_eq_nil {e : Checked σ} : e.bytes = [] ↔ e.parse.reports = [] := by
  rw [bytes, List.flatMap_eq_nil_iff, records, List.forall_mem_map]
  constructor
  · intro h
    refine List.eq_nil_iff_forall_not_mem.mpr fun r hr => ?_
    have hline := h r hr
    rw [encode_line] at hline
    exact List.append_ne_nil_of_right_ne_nil _ (List.cons_ne_nil _ _) hline
  · intro h r hr
    rw [h] at hr
    cases hr

theorem lastReports_of_nodup (h : (checked.map (·.document.id)).Nodup) {e : Checked σ}
    (he : e ∈ checked) : lastReports checked e.document.id = e.parse.reports := by
  have hmem : (e.document.id, e.parse.reports) ∈
      checked.map fun e => (e.document.id, e.parse.reports) :=
    List.mem_map.mpr ⟨e, he, rfl⟩
  rw [lastReports, Keyed.last?_of_mem (by rwa [List.map_map]) hmem, Option.getD_some]

end Check

open Check

/-! ## What comes out -/

theorem checkFiles_eq (f : FrontEnd σ π) (filesOf : σ → FileSystem)
    (settings : Config.Diagnostics) (paths : List (List UInt8)) :
    let t := trace f filesOf settings f.newSystem paths
    (Run.checkFiles f filesOf settings paths).output = t.1.flatMap Checked.bytes ∧
      (Run.checkFiles f filesOf settings paths).code =
        if t.2 = none ∧ countLast t.1 = 0 then 0 else 1 := by
  intro t
  obtain ⟨hprinted, hresult⟩ := check_eq_trace f filesOf settings paths
  have hbytes : ((check f filesOf settings paths).1.printed.flatMap fun line =>
      Text.Utf8.encode (line ++ "\n")) = t.1.flatMap Checked.bytes := by
    rw [hprinted, List.flatMap_assoc]
    rfl
  unfold Run.checkFiles
  cases hcheck : check f filesOf settings paths with
  | mk c result =>
      rw [hcheck] at hresult hbytes
      cases hend : t.2 with
      | some e =>
          obtain rfl : result = .error e := hresult.trans (outcome_eq_error.mpr hend)
          exact ⟨hbytes, (if_neg fun h => nomatch h.1).symm⟩
      | none =>
          obtain rfl : result = .ok (countLast t.1) := hresult.trans (outcome_eq_ok.mpr ⟨hend, rfl⟩)
          refine ⟨hbytes, ?_⟩
          simp

/-- Whenever a check ends with a number, the code is one if the number is positive, and it is
positive if the last parse of some document has reported something, while something is printed if
any parse has. So a code of one never comes without a record, and if no document was checked twice,
no record comes without a code of one. -/
theorem exit_code_of_check {n : Nat} (h : (check f filesOf settings paths).2 = .ok n) :
    let checked := (trace f filesOf settings f.newSystem paths).1
    let result := Run.checkFiles f filesOf settings paths
    (result.code = 1 ↔ 0 < n) ∧
    (0 < n ↔ ∃ id, lastReports checked id ≠ []) ∧
    (result.output ≠ [] ↔ ∃ e ∈ checked, e.parse.reports ≠ []) ∧
    (0 < n → result.output ≠ []) ∧
    ((checked.map (·.document.id)).Nodup → (0 < n ↔ result.output ≠ [])) := by
  intro checked result
  obtain ⟨houtput, hcode⟩ := checkFiles_eq f filesOf settings paths
  have hresult := (check_eq_trace f filesOf settings paths).2
  obtain ⟨hend, hn⟩ := outcome_eq_ok.mp (hresult.symm.trans h)
  have hpos : 0 < n ↔ ∃ id, lastReports checked id ≠ [] := by
    rw [← hn]
    exact countLast_pos
  have hprinted : result.output ≠ [] ↔ ∃ e ∈ checked, e.parse.reports ≠ [] := by
    rw [show result.output = checked.flatMap Checked.bytes from houtput, ne_eq,
      List.flatMap_eq_nil_iff]
    simp only [Checked.bytes_eq_nil, not_forall, exists_prop, ne_eq]
  have hshown : 0 < n → result.output ≠ [] := by
    rw [hpos, hprinted]
    rintro ⟨id, hid⟩
    obtain ⟨e, he, -, hreports⟩ := exists_of_lastReports hid
    exact ⟨e, he, by rwa [hreports]⟩
  refine ⟨?_, hpos, hprinted, hshown, fun hnodup => ⟨hshown, ?_⟩⟩
  · rw [show result.code = _ from hcode, hend, hn]
    cases n with
    | zero => simp
    | succ n => simp
  · rw [hpos, hprinted]
    rintro ⟨e, he, hreports⟩
    exact ⟨e.document.id, by rwa [lastReports_of_nodup hnodup he]⟩

/-! ## A record without a code of one -/

/-- A report, under the name of a file. -/
def unexpected (file : String) : Report := ⟨file, ⟨1, 5, 1, 6⟩, "unexpected token"⟩

/-- A front-end whose system remembers whether it was reported before that a token is unexpected;
it is reported once. -/
def reportsOnce : FrontEnd Bool Unit where
  newSystem := false
  newProgram := ()
  parse := fun context file _ =>
    ({ context with system := true }, if context.system then [] else [unexpected file])

/-- A directory with one file. -/
def oneFile : FileSystem where
  current := [Text.Utf8.encode "w"]
  entries := [([Text.Utf8.encode "w"], .directory),
    ([Text.Utf8.encode "w", Text.Utf8.encode "a.fu"], .file (Text.Utf8.encode "x"))]

/-- The check of a file ends with one diagnostic. -/
theorem exit_code_of_one_file :
    (check reportsOnce (fun _ => oneFile) {} [Text.Utf8.encode "a.fu"]).2 = .ok 1 ∧
      (Run.checkFiles reportsOnce (fun _ => oneFile) {} [Text.Utf8.encode "a.fu"]).code = 1 ∧
      (Run.checkFiles reportsOnce (fun _ => oneFile) {} [Text.Utf8.encode "a.fu"]).output ≠ [] := by
  have h : (check reportsOnce (fun _ => oneFile) {} [Text.Utf8.encode "a.fu"]).2 = .ok 1 := by
    decide +kernel
  obtain ⟨hcode, -, -, hshown, -⟩ := exit_code_of_check h
  exact ⟨h, hcode.mpr Nat.one_pos, hshown Nat.one_pos⟩

/-- A file is checked twice, and only the first parse reports something: its record is printed, and
still the number of diagnostics and the code are zero. -/
theorem record_without_exit_code :
    let paths := [Text.Utf8.encode "a.fu", Text.Utf8.encode "a.fu"]
    (check reportsOnce (fun _ => oneFile) {} paths).2 = .ok 0 ∧
      (Run.checkFiles reportsOnce (fun _ => oneFile) {} paths).code = 0 ∧
      (Run.checkFiles reportsOnce (fun _ => oneFile) {} paths).output =
        Text.Utf8.encode "a.fu:1:5: error: unexpected token\n" := by
  decide +kernel

end DiagServer
