import DiagServer.Proofs.Check.ExitCode
import DiagServer.Proofs.Host.FileSystem

/-!
# What a check prints and counts, told by its files

If the files stay as they are and a parse reports nothing but what its file holds, then a check can
be told without its parses. Every record comes from a file that can be read, up to the first one
that cannot, in the order of the paths and under each path as it was given. Two paths with one
identity lead to one file, so the last parse of a document has reported what each parse of it has,
and the number of diagnostics is a sum over identities.
-/

namespace DiagServer

variable {σ π : Type} {f : FrontEnd σ π} {filesOf : σ → FileSystem} {fs : FileSystem}
  {settings : Config.Diagnostics} {report : String → List UInt8 → List Report}
  {name : DocumentId → String}

/-- No parse changes the files that are there with a system. -/
structure FrontEnd.KeepsFiles (f : FrontEnd σ π) (filesOf : σ → FileSystem) (fs : FileSystem) :
    Prop where
  new : filesOf f.newSystem = fs
  parse : ∀ context file input, filesOf context.system = fs →
    filesOf (f.parse context file input).1.system = fs

/-- The path that a check could not go past. -/
def CheckError.path : CheckError → List UInt8
  | .unreadable path _ => path
  | .noIdentity path => path

namespace Check

/-- The paths whose extension is one of the language's. -/
def recognised (settings : Config.Diagnostics) (paths : List (List UInt8)) : List (List UInt8) :=
  paths.filter fun path => Path.extension path ∈ settings.fileExtensions

theorem recognised_cons_of_mem {path : List UInt8}
    (h : Path.extension path ∈ settings.fileExtensions) (paths : List (List UInt8)) :
    settings.languageForExtension? (Path.extension path) = some settings.languageId ∧
      recognised settings (path :: paths) = path :: recognised settings paths :=
  ⟨if_pos h, List.filter_cons_of_pos (by rwa [decide_eq_true_eq])⟩

theorem recognised_cons_of_notMem {path : List UInt8}
    (h : Path.extension path ∉ settings.fileExtensions) (paths : List (List UInt8)) :
    settings.languageForExtension? (Path.extension path) = none ∧
      recognised settings (path :: paths) = recognised settings paths :=
  ⟨if_neg h, List.filter_cons_of_neg (by rwa [decide_eq_true_eq])⟩

/-- The identity of the file at a path. -/
def idAt? (fs : FileSystem) (path : List UInt8) : Option DocumentId :=
  (fs.absolute? path).bind DocumentId.ofPath?

/-- Whether the file at a path can be read as a text and has an identity. -/
def checkable (fs : FileSystem) (path : List UInt8) : Bool :=
  (fs.readText path).isOk && (idAt? fs path).isSome

/-- What is reported of the file at a path, nothing if it cannot be checked. -/
def reportsAt (name : DocumentId → String) (fs : FileSystem)
    (report : String → List UInt8 → List Report) (path : List UInt8) : List Report :=
  match fs.readText path, idAt? fs path with
  | .ok text, some id => report (name id) (Text.Utf8.encode text)
  | _, _ => []

/-! ## One file -/

theorem document_eq (fs : FileSystem) (language : String) (path : List UInt8) :
    (checkable fs path = true ∧ ∃ id text, fs.readText path = .ok text ∧ idAt? fs path = some id ∧
        document fs language path = .ok ⟨id, language, text⟩) ∨
      (checkable fs path = false ∧ ∃ e, document fs language path = .error e ∧ e.path = path) := by
  cases hread : fs.readText path with
  | error cause =>
      refine .inr ⟨by simp [checkable, hread, Except.isOk, Except.toBool],
        .unreadable path cause, ?_, rfl⟩
      rw [document, hread]
  | ok text =>
      cases hid : idAt? fs path with
      | none =>
          refine .inr ⟨by simp [checkable, hid], .noIdentity path, ?_, rfl⟩
          rw [idAt?] at hid
          rw [document, hread]
          simp only [hid]
      | some id =>
          refine .inl ⟨by simp [checkable, hread, hid, Except.isOk, Except.toBool], id, text, rfl,
            rfl, ?_⟩
          rw [idAt?] at hid
          rw [document, hread]
          simp only [hid]

theorem readText_eq_of_idAt? (hplace : fs.InPlace) {a b : List UInt8} {id : DocumentId}
    (ha : idAt? fs a = some id) (hb : idAt? fs b = some id) {textA textB : String}
    (hreadA : fs.readText a = .ok textA) (hreadB : fs.readText b = .ok textB) :
    textA = textB := by
  obtain ⟨absoluteA, habsoluteA, hidA⟩ := Option.bind_eq_some_iff.mp ha
  obtain ⟨absoluteB, habsoluteB, hidB⟩ := Option.bind_eq_some_iff.mp hb
  exact FileSystem.readText_eq hplace habsoluteA habsoluteB
    (DocumentId.components_eq_of_ofPath? hidA hidB) hreadA hreadB

/-- What was checked is what is at its path. -/
structure Seen (name : DocumentId → String) (fs : FileSystem)
    (report : String → List UInt8 → List Report) (e : Checked σ) : Prop where
  text : fs.readText e.path = .ok e.document.text
  id : idAt? fs e.path = some e.document.id
  reports : e.parse.reports = report (name e.document.id) (Text.Utf8.encode e.document.text)

theorem Seen.reportsAt {e : Checked σ} (h : Seen name fs report e) :
    reportsAt name fs report e.path = e.parse.reports := by
  rw [Check.reportsAt, h.text, h.id, h.reports]

/-- Two files with the same identity are reported the same. -/
theorem Seen.reports_eq (hplace : fs.InPlace) {e e' : Checked σ} (h : Seen name fs report e)
    (h' : Seen name fs report e') (hid : e'.document.id = e.document.id) :
    e'.parse.reports = e.parse.reports := by
  have htext : e'.document.text = e.document.text :=
    readText_eq_of_idAt? hplace (by rw [h'.id, hid]) h.id h'.text h.text
  rw [h'.reports, h.reports, hid, htext]

/-! ## The trace over fixed files -/

/-- The trace goes over the paths that are recognised, up to the first that cannot be checked. -/
structure Covers (name : DocumentId → String) (fs : FileSystem)
    (report : String → List UInt8 → List Report) (recognised : List (List UInt8))
    (t : List (Checked σ) × Option CheckError) : Prop where
  paths : t.1.map (·.path) = recognised.takeWhile (checkable fs)
  seen : ∀ e ∈ t.1, Seen name fs report e
  ending : t.2.map CheckError.path = recognised.find? fun path => !checkable fs path

theorem covers_trace (hreports : f.Reports report) (hfiles : f.KeepsFiles filesOf fs) {start : σ}
    (hstart : filesOf start = fs) (paths : List (List UInt8)) :
    Covers f.name fs report (recognised settings paths) (trace f filesOf settings start paths) := by
  induction paths generalizing start with
  | nil => exact ⟨rfl, fun e he => (List.not_mem_nil he).elim, rfl⟩
  | cons path paths ih =>
      by_cases hext : Path.extension path ∈ settings.fileExtensions
      · obtain ⟨hl, hrec⟩ := recognised_cons_of_mem hext paths
        rw [hrec]
        obtain ⟨hcan, id, text, hread, hid, hd⟩ | ⟨hcan, e, hd, hpath⟩ :=
          document_eq fs settings.languageId path
        · let d : TextDocument := ⟨id, settings.languageId, text⟩
          have hrest := ih (hfiles.parse ⟨start, f.newProgram⟩ (f.name d.id)
            (Text.Utf8.encode d.text) hstart)
          rw [trace_cons_of_ok hl (by rw [hstart]; exact hd)]
          refine ⟨?_, ?_, ?_⟩
          · rw [List.takeWhile_cons_of_pos hcan]
            exact congrArg (path :: ·) hrest.paths
          · intro e he
            rcases List.mem_cons.mp he with rfl | he
            · exact ⟨hread, hid, hreports _ _ _⟩
            · exact hrest.seen e he
          · rw [List.find?_cons_of_neg (by simp [hcan])]
            exact hrest.ending
        · rw [trace_cons_of_error hl (by rw [hstart]; exact hd)]
          refine ⟨?_, fun e he => (List.not_mem_nil he).elim, ?_⟩
          · rw [List.takeWhile_cons_of_neg (by simp [hcan])]
            rfl
          · rw [List.find?_cons_of_pos (by simp [hcan])]
            exact congrArg some hpath
      · obtain ⟨hl, hrec⟩ := recognised_cons_of_notMem hext paths
        rw [hrec, trace_cons_of_none hl]
        exact ih hstart

/-! ## The files that are looked at -/

theorem document_congr {fs' : FileSystem} {path : List UInt8}
    (hread : fs'.readText path = fs.readText path)
    (habsolute : fs'.absolute? path = fs.absolute? path) (language : String) :
    document fs' language path = document fs language path := by
  rw [document, document, hread, habsolute]

/-- A check looks at no path but the recognised ones. -/
theorem files_congr {filesOf' : σ → FileSystem} {fs' : FileSystem}
    (hfiles : f.KeepsFiles filesOf fs) (hfiles' : f.KeepsFiles filesOf' fs')
    {paths : List (List UInt8)}
    (hsame : ∀ path ∈ recognised settings paths,
      fs'.readText path = fs.readText path ∧ fs'.absolute? path = fs.absolute? path)
    {c : Check σ} (hlanguage : c.session.language = settings.languageId)
    (hc : filesOf (c.session.systemFor f) = fs) (hc' : filesOf' (c.session.systemFor f) = fs') :
    files f filesOf' settings c paths = files f filesOf settings c paths := by
  induction paths generalizing c with
  | nil => rfl
  | cons path paths ih =>
      by_cases hext : Path.extension path ∈ settings.fileExtensions
      · obtain ⟨hl, hrec⟩ := recognised_cons_of_mem hext paths
        rw [hrec, List.forall_mem_cons] at hsame
        rw [files, files, hl]
        simp only [hc, hc', document_congr hsame.1.1 hsame.1.2]
        cases hd : document fs settings.languageId path with
        | error e => rfl
        | ok d =>
            have hsession : (c.add f path d).session =
                c.session.keep d (f.parseOf (c.session.systemFor f) d) :=
              add_session (by rw [language_of_document hd, hlanguage]) path
            refine ih hsame.2 ?_ ?_ ?_
            · rw [hsession]
              exact hlanguage
            · rw [hsession]
              exact hfiles.parse _ _ _ hc
            · rw [hsession]
              exact hfiles'.parse _ _ _ hc'
      · obtain ⟨hl, hrec⟩ := recognised_cons_of_notMem hext paths
        rw [hrec] at hsame
        rw [files, files, hl]
        exact ih hsame hlanguage hc hc'

theorem check_congr {filesOf' : σ → FileSystem} {fs' : FileSystem}
    (hfiles : f.KeepsFiles filesOf fs) (hfiles' : f.KeepsFiles filesOf' fs')
    {paths : List (List UInt8)}
    (hsame : ∀ path ∈ recognised settings paths,
      fs'.readText path = fs.readText path ∧ fs'.absolute? path = fs.absolute? path) :
    check f filesOf' settings paths = check f filesOf settings paths := by
  have h : files f filesOf' settings { session := { language := settings.languageId } } paths =
      files f filesOf settings { session := { language := settings.languageId } } paths :=
    files_congr hfiles hfiles' hsame rfl hfiles.new hfiles'.new
  rw [check, check, h]

/-! ## What is printed and counted -/

/-- The lines for reports on the file at a path, as bytes. -/
def lines (path : List UInt8) (reports : List Report) : List UInt8 :=
  reports.flatMap fun r => Text.Utf8.encode (r.record path ++ "\n")

theorem Checked.bytes_eq (e : Checked σ) : e.bytes = lines e.path e.parse.reports := by
  rw [bytes, records, List.flatMap_map, lines]

variable {rec : List (List UInt8)} {t : List (Checked σ) × Option CheckError}

theorem Covers.bytes (h : Covers name fs report rec t) :
    t.1.flatMap Checked.bytes =
      (rec.takeWhile (checkable fs)).flatMap fun path =>
        lines path (reportsAt name fs report path) := by
  rw [← h.paths, List.flatMap_map]
  refine List.flatMap_congr fun e he => ?_
  rw [Checked.bytes_eq, (h.seen e he).reportsAt]

/-- The last parse of a document has reported what any parse of it has. -/
theorem Covers.lastReports (h : Covers name fs report rec t) (hplace : fs.InPlace) {e : Checked σ}
    (he : e ∈ t.1) : lastReports t.1 e.document.id = e.parse.reports := by
  cases hlast : Keyed.last? e.document.id (t.1.map fun e => (e.document.id, e.parse.reports)) with
  | none =>
      have hnone := Keyed.last?_eq_none.mp hlast
      exact absurd rfl (hnone (e.document.id, e.parse.reports) (List.mem_map.mpr ⟨e, he, rfl⟩))
  | some reports =>
      obtain ⟨e', he', heq⟩ := List.mem_map.mp (Keyed.mem_of_last? hlast)
      rw [Check.lastReports, hlast, Option.getD_some]
      obtain ⟨hid, rfl⟩ := Prod.mk.inj heq
      exact (h.seen e he).reports_eq hplace (h.seen e' he') hid

theorem Covers.takeWhile_eq (h : Covers name fs report rec t) (hend : t.2 = none) :
    rec.takeWhile (checkable fs) = rec := by
  have hending := h.ending
  rw [hend, Option.map_none, eq_comm, List.find?_eq_none] at hending
  rw [List.takeWhile_eq_self_iff]
  intro path hpath
  simpa using hending path hpath

theorem Covers.ids (h : Covers name fs report rec t) (hend : t.2 = none) :
    t.1.map (·.document.id) = rec.filterMap (idAt? fs) := by
  rw [← h.takeWhile_eq hend, ← h.paths, List.filterMap_map, ← List.filterMap_eq_map]
  exact List.filterMap_congr fun e he => ((h.seen e he).id).symm

/-- The number of diagnostics is a sum over the identities of the paths. -/
theorem Covers.countLast_eq (h : Covers name fs report rec t) (hplace : fs.InPlace)
    (hend : t.2 = none) :
    ∃ number : DocumentId → Nat,
      (∀ path ∈ rec, ∀ id, idAt? fs path = some id →
        number id = (reportsAt name fs report path).length) ∧
      countLast t.1 = ∑ id ∈ (rec.filterMap (idAt? fs)).toFinset, number id := by
  refine ⟨fun id => (Check.lastReports t.1 id).length, ?_, ?_⟩
  · intro path hpath id hid
    rw [← h.takeWhile_eq hend, ← h.paths] at hpath
    obtain ⟨e, he, rfl⟩ := List.mem_map.mp hpath
    have hown : e.document.id = id := Option.some.inj ((h.seen e he).id.symm.trans hid)
    rw [(h.seen e he).reportsAt, ← h.lastReports hplace he, hown]
  · rw [countLast, h.ids hend]

theorem Covers.countLast_eq_zero (h : Covers name fs report rec t) (hplace : fs.InPlace) :
    countLast t.1 = 0 ↔ t.1.flatMap Checked.bytes = [] := by
  rw [← not_iff_not, ← ne_eq, ← Nat.pos_iff_ne_zero, countLast_pos, List.flatMap_eq_nil_iff]
  simp only [Checked.bytes_eq_nil, not_forall]
  constructor
  · rintro ⟨id, hid⟩
    obtain ⟨e, he, -, hreports⟩ := exists_of_lastReports hid
    exact ⟨e, he, by rwa [hreports]⟩
  · rintro ⟨e, he, hreports⟩
    exact ⟨e.document.id, by rwa [h.lastReports hplace he]⟩

end Check

open Check

/-- Where files are fixed and what is reported depends on name and bytes only: a check goes over the
paths of the language, in order, up to the first whose file cannot be read or has no identity, and
it fails if there is one, at this one. It prints a record for each report on each file that it came
to, under the path as it was given. If it does not fail, it counts the reports on each identity
once, so it counts none if it has printed nothing. No other path is looked at: the check is the same
over all files that agree on the paths of the language. -/
theorem check_fixed_files (hreports : f.Reports report) (hfiles : f.KeepsFiles filesOf fs)
    (hplace : fs.InPlace) (settings : Config.Diagnostics) (paths : List (List UInt8)) :
    let recognised := paths.filter fun path => Path.extension path ∈ settings.fileExtensions
    let result := (check f filesOf settings paths).2
    let output := (Run.checkFiles f filesOf settings paths).output
    output = ((recognised.takeWhile (checkable fs)).flatMap fun path =>
      (reportsAt f.name fs report path).flatMap fun r => Text.Utf8.encode (r.record path ++ "\n")) ∧
    ((∃ e, result = .error e) ↔ ∃ path ∈ recognised, checkable fs path = false) ∧
    (∀ e, result = .error e → recognised.find? (fun path => !checkable fs path) = some e.path) ∧
    (∀ n, result = .ok n →
      (∃ number : DocumentId → Nat,
        (∀ path ∈ recognised, ∀ id, idAt? fs path = some id →
          number id = (reportsAt f.name fs report path).length) ∧
        n = ∑ id ∈ (recognised.filterMap (idAt? fs)).toFinset, number id) ∧
      (n = 0 ↔ output = [])) ∧
    ∀ filesOf' fs', f.KeepsFiles filesOf' fs' →
      (∀ path ∈ recognised,
        fs'.readText path = fs.readText path ∧ fs'.absolute? path = fs.absolute? path) →
      check f filesOf' settings paths = check f filesOf settings paths := by
  intro recognised result output
  let t := trace f filesOf settings f.newSystem paths
  have h : Covers f.name fs report recognised t := covers_trace hreports hfiles hfiles.new paths
  have houtput : output = t.1.flatMap Checked.bytes := (checkFiles_eq f filesOf settings paths).1
  have hresult : result = outcome t := (check_eq_trace f filesOf settings paths).2
  have hending := h.ending
  refine ⟨houtput.trans h.bytes, ?_, ?_, ?_, fun filesOf' fs' hfiles' hsame =>
    check_congr hfiles hfiles' hsame⟩
  · have hends : (∃ e, result = .error e) ↔
        (recognised.find? fun path => !checkable fs path).isSome = true := by
      rw [hresult, ← hending, Option.isSome_map, Option.isSome_iff_exists]
      exact exists_congr fun e => outcome_eq_error
    rw [hends, List.find?_isSome]
    simp only [Bool.not_eq_true']
  · intro e he
    rw [hresult, outcome_eq_error] at he
    rw [← hending, he, Option.map_some]
  · intro n hn
    rw [hresult, outcome_eq_ok] at hn
    obtain ⟨hend, rfl⟩ := hn
    rw [houtput]
    exact ⟨h.countLast_eq hplace hend, h.countLast_eq_zero hplace⟩

/-- A file under two spellings of its path, and a path of another kind that is not looked at: two
records, which count once. -/
theorem check_two_spellings :
    let paths := ["a.fu", "b.txt", "/w/./a.fu"].map Text.Utf8.encode
    let f := FrontEnd.memoryless fun file _ => [unexpected file]
    oneFile.InPlace ∧ f.KeepsFiles (fun _ => oneFile) oneFile ∧
      (Run.checkFiles f (fun _ => oneFile) {} paths).output =
        Text.Utf8.encode
          "a.fu:1:5: error: unexpected token\n/w/./a.fu:1:5: error: unexpected token\n" ∧
      (check f (fun _ => oneFile) {} paths).2 = .ok 1 := by
  intro paths f
  have hplace : oneFile.InPlace := by
    unfold FileSystem.InPlace
    decide
  have hfiles : f.KeepsFiles (fun _ => oneFile) oneFile := ⟨rfl, fun _ _ _ _ => rfl⟩
  obtain ⟨houtput, -⟩ :=
    check_fixed_files (FrontEnd.memoryless_reports _) hfiles hplace {} paths
  refine ⟨hplace, hfiles, houtput.trans ?_, ?_⟩
  · decide +kernel
  · decide +kernel

end DiagServer
