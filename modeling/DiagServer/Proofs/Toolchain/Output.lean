import DiagServer.Proofs.Report.Line
import DiagServer.Proofs.Text.Lossy
import DiagServer.Toolchain

/-!
# Reports are recovered from the output of a compiler

A compiler prints reports among lines that mean something else, in whatever encoding. The whole
output is decoded before it is cut into lines, yet every line counts by itself: a line feed is a
byte that ends what is broken before it, so a line is decoded as if it stood alone, and its report
does not depend on how it ends. What comes out are the reports, in the order of their lines.
-/

namespace DiagServer.Compiler

open Text.Utf8

/-- A line that holds no report: it is anything but an object, decoded or not. -/
structure Noise where
  bytes : List UInt8
  oneLine : 0x0A ∉ bytes
  noObject : (Text.trim (decodeLossyChars bytes)).head? ≠ some '{'

/-- A line of output, without its end. -/
inductive Line where
  | noise (n : Noise)
  | report (w : Report.Written)

def Line.bytes : Line → List UInt8
  | .noise n => n.bytes
  | .report w => encodeChars w.text

/-- The report on a line. -/
def Line.report? : Line → Option Report
  | .noise _ => none
  | .report w => some w.report

/-- How a line ends. -/
inductive LineEnd where
  | lf
  | crlf
deriving Repr, DecidableEq

def LineEnd.bytes : LineEnd → List UInt8
  | .lf => [0x0A]
  | .crlf => [0x0D, 0x0A]

/-- The output of a compiler: lines with their ends, and perhaps a last one that has none. -/
structure Output where
  ended : List (Line × LineEnd)
  unended : Option Line := none

namespace Output

def bytes (o : Output) : List UInt8 :=
  (o.ended.flatMap fun l => l.1.bytes ++ l.2.bytes) ++ (o.unended.map Line.bytes).getD []

/-- The reports on all lines, in their order. -/
def reports (o : Output) : List Report :=
  (o.ended.map (·.1) ++ o.unended.toList).filterMap Line.report?

end Output

/-! ## One line -/

theorem parseLine_congr {cs ds : List Char} (h : Text.trim cs = Text.trim ds) :
    Report.parseLine cs = Report.parseLine ds := by
  rw [Report.parseLine, Report.parseLine, h]

theorem Noise.parseLine (n : Noise) : Report.parseLine (decodeLossyChars n.bytes) = none := by
  have hhead := n.noObject
  rw [Report.parseLine]
  split
  · next heq =>
      rw [heq] at hhead
      exact absurd rfl hhead
  · rfl

theorem Line.newline_notMem (l : Line) : 0x0A ∉ l.bytes := by
  cases l with
  | noise n => exact n.oneLine
  | report w =>
      intro hmem
      exact w.newline_notMem_text ((mem_encodeChars (by decide)).mp hmem)

theorem Line.parseLine (l : Line) : Report.parseLine (decodeLossyChars l.bytes) = l.report? := by
  cases l with
  | noise n => exact n.parseLine
  | report w =>
      show Report.parseLine (decodeLossyChars (encodeChars w.text)) = some w.report
      rw [decodeLossyChars_encodeChars]
      exact w.parseLine_text

/-! ## Lines of an output -/

variable {bs : List UInt8}

theorem filterMap_cons_toList {α β : Type} (f : α → Option β) (x : α) (xs : List α) :
    (x :: xs).filterMap f = (f x).toList ++ xs.filterMap f := by
  rw [List.filterMap_cons]
  cases f x with
  | none => rfl
  | some y => rfl

theorem reportsOf_newline (h : 0x0A ∉ bs) (rest : List UInt8) :
    reportsOf (bs ++ 0x0A :: rest) =
      (Report.parseLine (decodeLossyChars bs)).toList ++ reportsOf rest := by
  have hline : '\n' ∉ decodeLossyChars bs := notMem_decodeLossyChars (b := 0x0A) (by decide) h
  have hdecode : decodeLossyChars (bs ++ 0x0A :: rest) =
      decodeLossyChars bs ++ '\n' :: decodeLossyChars rest :=
    decodeLossyChars_append_cons (by decide) bs rest
  rw [reportsOf, hdecode, Text.lines_append_newline hline, filterMap_cons_toList,
    parseLine_congr (Text.trim_endLine _)]
  rfl

/-- A carriage return at the end of a line changes nothing. -/
theorem reportsOf_carriageReturn (h : 0x0A ∉ bs) (rest : List UInt8) :
    reportsOf (bs ++ 0x0D :: 0x0A :: rest) =
      (Report.parseLine (decodeLossyChars bs)).toList ++ reportsOf rest := by
  have hline : 0x0A ∉ bs ++ [0x0D] := by
    rw [List.mem_append, not_or]
    exact ⟨h, by decide⟩
  have hdecode : decodeLossyChars (bs ++ [0x0D]) = decodeLossyChars bs ++ ['\r'] := by
    rw [decodeLossyChars_append_cons (by decide), decodeLossyChars_nil]
    rfl
  have hreports := reportsOf_newline hline rest
  rw [List.append_assoc, hdecode, parseLine_congr (Text.trim_concat_of_blank (by decide) _)]
    at hreports
  exact hreports

theorem reportsOf_unended (h : 0x0A ∉ bs) :
    reportsOf bs = (Report.parseLine (decodeLossyChars bs)).toList := by
  have hline : '\n' ∉ decodeLossyChars bs := notMem_decodeLossyChars (b := 0x0A) (by decide) h
  rw [reportsOf, Text.lines_of_notMem hline]
  split
  · next heq =>
      rw [heq]
      rfl
  · rw [filterMap_cons_toList, List.filterMap_nil, List.append_nil]

theorem reportsOf_line (l : Line) (e : LineEnd) (rest : List UInt8) :
    reportsOf (l.bytes ++ e.bytes ++ rest) = l.report?.toList ++ reportsOf rest := by
  rw [List.append_assoc, ← l.parseLine]
  cases e with
  | lf => exact reportsOf_newline l.newline_notMem rest
  | crlf => exact reportsOf_carriageReturn l.newline_notMem rest

/-- The reports in an output are those on its lines. -/
theorem reportsOf_bytes (o : Output) : reportsOf o.bytes = o.reports := by
  obtain ⟨ended, unended⟩ := o
  induction ended with
  | nil =>
      cases unended with
      | none =>
          show reportsOf [] = []
          rw [reportsOf, decodeLossyChars_nil]
          rfl
      | some l =>
          show reportsOf l.bytes = [l].filterMap Line.report?
          rw [reportsOf_unended l.newline_notMem, l.parseLine, filterMap_cons_toList,
            List.filterMap_nil, List.append_nil]
  | cons line ended ih =>
      obtain ⟨l, e⟩ := line
      have hbytes : Output.bytes ⟨(l, e) :: ended, unended⟩ =
          l.bytes ++ e.bytes ++ Output.bytes ⟨ended, unended⟩ := by
        rw [Output.bytes, List.flatMap_cons, List.append_assoc]
        rfl
      rw [hbytes, reportsOf_line, ih, Output.reports, Output.reports, List.map_cons,
        List.cons_append, filterMap_cons_toList]

/-! ## A parse -/

/-- Whatever a compiler that can be started prints for a document, as long as each line of it is
noise or holds a report: the parse reports what is on the lines, every report once, in their order
and with all that it says, and nothing else. -/
theorem parse_reports_output (run? : Runner) (files : FileSystem) (c : Compiler)
    (context : ParseContext Toolchain Unit) (file : String) (input : List UInt8)
    (hstart : canStart ⟨context.system.program, c.argsFor file, input⟩ = true)
    (printed : Output) (left : FileSystem)
    (hrun : run? context.system.files ⟨context.system.program, c.argsFor file, input⟩ =
      some (printed.bytes, left)) :
    ((c.frontEnd run? files).parse context file input).2 = printed.reports := by
  have hparse : ((c.frontEnd run? files).parse context file input).2 = reportsOf printed.bytes := by
    simp only [frontEnd, hstart, if_true, hrun, Option.getD_some]
  rw [hparse, reportsOf_bytes]

/-- A report of which every field has another value. -/
def quoteReport : Report := ⟨"a \"b\".fu", ⟨4294967295, 0, 2, 3⟩, "line\nfeed"⟩

/-- A line that is cut inside a character, and a report between blanks whose members stand in
reverse order behind a further one. -/
def sampleOutput : Output where
  ended := [
    (.noise ⟨[0x67, 0xE2, 0x82], by decide, by decide +kernel⟩, .crlf),
    (.report
      { report := quoteReport
        further := [("severity", Json.double ⟨true, ⟨3, -1⟩⟩)]
        otherNames := by decide
        scalars := by
          intro m hm
          rw [List.mem_singleton.mp hm]
          trivial
        members := (quoteReport.members ++ [("severity", Json.double ⟨true, ⟨3, -1⟩⟩)]).reverse
        perm := List.reverse_perm _
        before := [.tab, .carriageReturn]
        after := [.space] }, .lf)]

/-- The report of the sample is found. -/
theorem parse_reports_sample :
    let run? : Runner := fun fs _ => some (sampleOutput.bytes, fs)
    let c : Compiler := ⟨[Path.slash], ["-"]⟩
    let launch : Launch := ⟨[Path.slash], ["-"], []⟩
    canStart launch = true ∧ run? {} launch = some (sampleOutput.bytes, {}) ∧
      ((c.frontEnd run? {}).parse ⟨{ program := [Path.slash], files := {} }, ()⟩ "a" []).2 =
        [quoteReport] := by
  intro run? c launch
  have hstart : canStart launch = true := by decide +kernel
  refine ⟨hstart, rfl, ?_⟩
  exact parse_reports_output run? {} c ⟨{ program := [Path.slash], files := {} }, ()⟩ "a" [] hstart
    sampleOutput {} rfl

end DiagServer.Compiler
