import DiagServer.Proofs.Store.History
import DiagServer.Proofs.Uri.Escape

/-!
# The identity of a file leads back to the file

The URI of a path is written by one routine and read by another, each with an alphabet of its own.
They meet in the characters that are written: a byte that is not escaped is printable and is no
slash, backslash, question mark or number sign, and no character of an escape is one of these.
Reading passes nothing over, ends nothing and separates nothing at such a character (`Plain`), so
each component is read as one segment. The induction is on the components, and what it carries is
that the path read so far starts with two slashes, the one of the root and one that reading adds: a
drive letter is looked for behind one slash only.

A segment of one dot or two, escaped or not, is written for no component but the one of these dots.
So only two dots are read as something else than a name, and every other path comes back as it was,
but for a slash at its end if it ends with a drive letter.
-/

namespace DiagServer.Uri

open DiagServer.Text.Utf8

variable {c : Char} {b : UInt8} {name done rest : List Char} {names : List (List Char)}
  {component path : List UInt8} {cs : List (List UInt8)}

/-! ## What is written for a byte -/

/-- A character to which reading the path of a `file` URI gives no meaning but its own. -/
def Plain (c : Char) : Prop := 0x20 < c.toNat ∧ c ≠ '/' ∧ c ≠ '\\' ∧ c ≠ '?' ∧ c ≠ '#'

instance (c : Char) : Decidable (Plain c) := inferInstanceAs (Decidable (_ ∧ _))

theorem plain_hexDigit {k : Nat} (hk : k < 16) : Plain (hexDigit k) := by
  have hall : ∀ k : Fin 16, Plain (hexDigit k) := by decide
  exact hall ⟨k, hk⟩

/-- A byte that is not escaped is a plain character. It cannot be taken for the sign of an escape,
and the dot is the only one that can be taken for a dot. -/
theorem plain_ofNat (h : isEscaped b = false) :
    Plain (Char.ofNat b.toNat) ∧ (Char.ofNat b.toNat).toLower ≠ '%' ∧
      ((Char.ofNat b.toNat).toLower = '.' → b = Path.dot) := by
  have hall : ∀ k : Fin 128, isEscaped (UInt8.ofNat k.val) = false →
      Plain (Char.ofNat k.val) ∧ (Char.ofNat k.val).toLower ≠ '%' ∧
        ((Char.ofNat k.val).toLower = '.' → UInt8.ofNat k.val = Path.dot) := by decide
  have hb := hall ⟨b.toNat, (isEscaped_of_ne h).1⟩
  rw [UInt8.ofNat_toNat] at hb
  exact hb h

theorem plain_of_mem_escapeByte (h : c ∈ escapeByte b) : Plain c := by
  have hb := b.toNat_lt
  rw [escapeByte] at h
  split at h
  · simp only [List.mem_cons, List.not_mem_nil, or_false] at h
    rcases h with rfl | rfl | rfl
    · decide
    · exact plain_hexDigit (by omega)
    · exact plain_hexDigit (by omega)
  · next hplain =>
      rw [List.mem_singleton] at h
      rw [h]
      exact (plain_ofNat (by simpa using hplain)).1

/-- No component is written with an escaped dot at its front. -/
theorem lower_escaped_ne (component : List UInt8) (rest : List Char) :
    (component.flatMap escapeByte).map Char.toLower ≠ '%' :: '2' :: 'e' :: rest := by
  intro h
  cases component with
  | nil => cases h
  | cons b component =>
      have hb := b.toNat_lt
      rw [List.flatMap_cons, escapeByte] at h
      split at h
      · next hescaped =>
          have hdigits : ∀ k : Fin 16, ((hexDigit k).toLower = '2' → k.val = 2) ∧
              ((hexDigit k).toLower = 'e' → k.val = 14) := by decide
          simp only [List.cons_append, List.map_cons, List.cons.injEq] at h
          have hhigh := (hdigits ⟨b.toNat / 16, by omega⟩).1 h.2.1
          have hlow := (hdigits ⟨b.toNat % 16, by omega⟩).2 h.2.2.1
          simp only at hhigh hlow
          obtain rfl : b = Path.dot := UInt8.toNat_inj.mp (by
            rw [show Path.dot.toNat = 0x2E from rfl]
            omega)
          exact absurd hescaped (by decide)
      · next hplain =>
          simp only [List.cons_append, List.map_cons, List.cons.injEq] at h
          exact (plain_ofNat (by simpa using hplain)).2.1 h.1

theorem lower_escaped_dot (h : (component.flatMap escapeByte).map Char.toLower = '.' :: rest) :
    ∃ more, component = Path.dot :: more ∧
      (more.flatMap escapeByte).map Char.toLower = rest := by
  cases component with
  | nil => cases h
  | cons b more =>
      rw [List.flatMap_cons, escapeByte] at h
      split at h
      · simp only [List.cons_append, List.map_cons, List.cons.injEq] at h
        exact absurd h.1 (by decide)
      · next hplain =>
          simp only [List.cons_append, List.nil_append, List.map_cons, List.cons.injEq] at h
          obtain rfl := (plain_ofNat (by simpa using hplain)).2.2 h.1
          exact ⟨more, rfl, h.2⟩

theorem escaped_eq_nil (h : (component.flatMap escapeByte).map Char.toLower = []) :
    component = [] := by
  cases component with
  | nil => rfl
  | cons b component =>
      rw [List.map_eq_nil_iff, List.flatMap_cons, escapeByte] at h
      split at h <;> cases h

theorem isDot_cases (h : isDot name = true) :
    name.map Char.toLower = ['.'] ∨ name.map Char.toLower = ['%', '2', 'e'] := by
  rw [isDot, List.contains_iff_mem] at h
  simp only [List.mem_cons, List.not_mem_nil, or_false] at h
  exact h.imp (fun h => String.ofList_injective h) fun h => String.ofList_injective h

theorem isTwoDots_cases (h : isTwoDots name = true) :
    name.map Char.toLower = ['.', '.'] ∨ name.map Char.toLower = ['.', '%', '2', 'e'] ∨
      name.map Char.toLower = ['%', '2', 'e', '.'] ∨
      name.map Char.toLower = ['%', '2', 'e', '%', '2', 'e'] := by
  rw [isTwoDots, List.contains_iff_mem] at h
  simp only [List.mem_cons, List.not_mem_nil, or_false] at h
  exact h.imp (fun h => String.ofList_injective h) fun h =>
    h.imp (fun h => String.ofList_injective h) fun h =>
      h.imp (fun h => String.ofList_injective h) fun h => String.ofList_injective h

theorem isDot_escaped (h : component ≠ Path.here) :
    isDot (component.flatMap escapeByte) = false := by
  rw [Bool.eq_false_iff]
  intro hdot
  rcases isDot_cases hdot with hplain | hescaped
  · obtain ⟨more, rfl, hmore⟩ := lower_escaped_dot hplain
    exact h (by rw [escaped_eq_nil hmore]; rfl)
  · exact lower_escaped_ne component [] hescaped

theorem isTwoDots_escaped (h : component ≠ Path.up) :
    isTwoDots (component.flatMap escapeByte) = false := by
  rw [Bool.eq_false_iff]
  intro hdots
  rcases isTwoDots_cases hdots with hplain | hsecond | hfirst | hboth
  · obtain ⟨more, rfl, hmore⟩ := lower_escaped_dot hplain
    obtain ⟨last, rfl, hlast⟩ := lower_escaped_dot hmore
    exact h (by rw [escaped_eq_nil hlast]; rfl)
  · obtain ⟨more, rfl, hmore⟩ := lower_escaped_dot hsecond
    exact lower_escaped_ne more [] hmore
  · exact lower_escaped_ne component ['.'] hfirst
  · exact lower_escaped_ne component ['%', '2', 'e'] hboth

/-! ## What is read of it -/

theorem Plain.separates (h : Plain c) : separates .file c = false := by
  simp [Uri.separates, h.2.1, h.2.2.1]

theorem Plain.endsPath (h : Plain c) : endsPath c = false := by
  simp [Uri.endsPath, h.2.2.2.1, h.2.2.2.2]

theorem Plain.isBreak (h : Plain c) : isBreak c = false := by
  have hne : ∀ d : Char, d.toNat ≤ 0x20 → c ≠ d := by
    rintro d hd rfl
    exact absurd h.1 (Nat.not_lt.mpr hd)
  simp [Uri.isBreak, hne '\t' (by decide), hne '\n' (by decide), hne '\r' (by decide)]

namespace Trail

/-- Plain characters that are read as a name. -/
structure IsSegment (name : List Char) : Prop where
  plain : ∀ c ∈ name, Plain c
  isDot : isDot name = false
  isTwoDots : isTwoDots name = false

theorem push_unbroken (c : Char) (done segment : List Char) :
    push .file c ⟨done, segment, false, false⟩ = ⟨done, c :: segment, false, false⟩ := by
  rw [push.eq_def]
  split
  · next heq =>
      simp only at heq
      subst heq
      simp
  · rfl

theorem follow_plain (h : ∀ c ∈ name, Plain c) (done segment rest : List Char) :
    follow .file ⟨done, segment, false, false⟩ (name ++ rest) =
      follow .file ⟨done, name.reverse ++ segment, false, false⟩ rest := by
  induction name generalizing segment with
  | nil => rfl
  | cons c name ih =>
      rw [List.forall_mem_cons] at h
      rw [List.cons_append, follow, if_neg (by simp [h.1.separates]),
        if_neg (by simp [h.1.endsPath]), if_neg (by simp [h.1.isBreak]), push_unbroken, ih h.2,
        List.reverse_cons, List.append_assoc]
      rfl

theorem endSegment_name (h : IsSegment name) (hdone : done ≠ ['/']) (separated : Bool) :
    endSegment .file separated ⟨done, name.reverse, false, false⟩ =
      start (if separated then '/' :: (name.reverse ++ done) else name.reverse ++ done) false := by
  simp only [endSegment, List.reverse_reverse, h.isTwoDots, h.isDot]
  simp [hdone]

/-- Names with slashes between them are read as they stand there. -/
theorem follow_segments (hname : IsSegment name) (hnames : ∀ name ∈ names, IsSegment name)
    (hdone : 2 ≤ done.length) :
    follow .file (start done false) (name ++ names.flatMap ('/' :: ·)) =
      start ((name ++ names.flatMap ('/' :: ·)).reverse ++ done) false := by
  have hne : ∀ done : List Char, 2 ≤ done.length → done ≠ ['/'] := by
    rintro done hlength rfl
    simp at hlength
  induction names generalizing name done with
  | nil =>
      rw [List.flatMap_nil, start, follow_plain hname.plain, List.append_nil, follow,
        endSegment_name hname (hne done hdone), List.append_nil]
      rfl
  | cons next names ih =>
      rw [List.forall_mem_cons] at hnames
      have hslash : separates .file '/' = true := rfl
      rw [List.flatMap_cons, List.cons_append, start, follow_plain hname.plain, List.append_nil,
        follow, if_pos hslash, endSegment_name hname (hne done hdone), if_pos rfl,
        ih hnames.1 hnames.2 (by simp; omega)]
      simp

end Trail

/-! ## The path of a URI -/

theorem isSegment_escaped (h : Path.IsName component) (hup : component ≠ Path.up) :
    Trail.IsSegment (component.flatMap escapeByte) where
  plain c hc := by
    obtain ⟨b, -, hb⟩ := List.mem_flatMap.mp hc
    exact plain_of_mem_escapeByte hb
  isDot := isDot_escaped h.ne_here
  isTwoDots := isTwoDots_escaped hup

theorem renderComponents_cons (component : List UInt8) (cs : List (List UInt8)) :
    renderComponents (component :: cs) = '/' :: (component.flatMap escapeByte ++
      (cs.map fun c => c.flatMap escapeByte).flatMap ('/' :: ·)) := by
  rw [renderComponents, List.flatMap_cons, List.flatMap_map]
  · rfl
  · exact List.cons_ne_nil component cs

theorem dropWhile_escaped (h : Path.IsName component) (rest : List Char) :
    (component.flatMap escapeByte ++ rest).dropWhile (· = '/') =
      component.flatMap escapeByte ++ rest := by
  have hne : component.flatMap escapeByte ≠ [] := by
    intro heq
    exact h.ne_nil (escaped_eq_nil (by rw [heq]; rfl))
  obtain ⟨c, more, heq⟩ := List.exists_cons_of_ne_nil hne
  have hmem : c ∈ component.flatMap escapeByte := by
    rw [heq]
    exact List.mem_cons_self
  obtain ⟨b, -, hb⟩ := List.mem_flatMap.mp hmem
  have hc : Plain c := plain_of_mem_escapeByte hb
  rw [heq, List.cons_append, List.dropWhile_cons_of_neg (by simp [hc.2.1])]

/-- A `file` URI that is written for some components has the path that was written for them. -/
theorem filePath?_render (h : ∀ component ∈ cs, Path.IsName component) (hup : Path.up ∉ cs) :
    filePath? ('/' :: '/' :: renderComponents cs) = some (renderComponents cs) := by
  have hroot : ∀ rest, fileTrail? ('/' :: '/' :: '/' :: rest) =
      some ((Trail.start ['/', '/'] false).follow .file rest) := fun rest => rfl
  cases cs with
  | nil => rfl
  | cons component cs =>
      rw [List.forall_mem_cons] at h
      rw [List.mem_cons, not_or] at hup
      have hname := isSegment_escaped h.1 (Ne.symm hup.1)
      have hnames : ∀ name ∈ cs.map (fun c => c.flatMap escapeByte), Trail.IsSegment name := by
        intro name hmem
        obtain ⟨c, hc, rfl⟩ := List.mem_map.mp hmem
        exact isSegment_escaped (h.2 c hc) fun heq => hup.2 (heq ▸ hc)
      rw [renderComponents_cons, filePath?, hroot, Trail.follow_segments hname hnames
        (show 2 ≤ ['/', '/'].length from Nat.le_refl 2)]
      show some ('/' :: List.dropWhile _ (List.reverse (_ ++ ['/', '/']))) = _
      rw [List.reverse_append, List.reverse_reverse]
      -- all slashes at the front are dropped, and one is put back
      exact congrArg (some ∘ ('/' :: ·)) (dropWhile_escaped h.1 _)

theorem trim_eq_self (h : ∀ c ∈ name, 0x20 < c.toNat) : trim name = name := by
  have hdrop : ∀ cs : List Char, (∀ c ∈ cs, 0x20 < c.toNat) →
      cs.dropWhile (fun c => c.toNat ≤ 0x20) = cs := by
    intro cs hcs
    cases cs with
    | nil => rfl
    | cons c cs =>
        have hc := hcs c List.mem_cons_self
        exact List.dropWhile_cons_of_neg (by simpa using hc)
  rw [trim, hdrop name h, hdrop name.reverse (by simpa using h), List.reverse_reverse]

theorem lt_of_mem_renderComponents (h : c ∈ renderComponents cs) : 0x20 < c.toNat := by
  have hslash : 0x20 < '/'.toNat := by decide
  cases cs with
  | nil =>
      rw [List.mem_singleton.mp h]
      exact hslash
  | cons component cs =>
      rw [renderComponents, List.mem_flatMap] at h
      · obtain ⟨component', -, hmem⟩ := h
        rcases List.mem_cons.mp hmem with rfl | hmem
        · exact hslash
        · obtain ⟨b, -, hb⟩ := List.mem_flatMap.mp hmem
          exact (plain_of_mem_escapeByte hb).1
      · exact List.cons_ne_nil component cs

/-- The URI of some components names the path that is made from them. -/
theorem toPath?_render (h : ∀ component ∈ cs, Path.IsName component) (hup : Path.up ∉ cs) :
    toPath? (['f', 'i', 'l', 'e', ':', '/', '/'] ++ renderComponents cs) =
      some (closeDrive (Path.ofComponents cs)) := by
  have htrim : trim (['f', 'i', 'l', 'e', ':', '/', '/'] ++ renderComponents cs) =
      ['f', 'i', 'l', 'e', ':', '/', '/'] ++ renderComponents cs := by
    refine trim_eq_self fun c hc => ?_
    rcases List.mem_append.mp hc with hc | hc
    · have hall : ['f', 'i', 'l', 'e', ':', '/', '/'].all (fun c => 0x20 < c.toNat) = true := rfl
      exact of_decide_eq_true (List.all_eq_true.mp hall c hc)
    · exact lt_of_mem_renderComponents hc
  have hscheme : splitScheme? (['f', 'i', 'l', 'e', ':', '/', '/'] ++ renderComponents cs) =
      some (['f', 'i', 'l', 'e'], '/' :: '/' :: renderComponents cs) := rfl
  have hfile : Scheme.ofName ['f', 'i', 'l', 'e'] = .file := by decide
  rw [toPath?, htrim, hscheme]
  simp only [hfile, filePath?_render h hup, Option.map_some, unescape_renderComponents]

/-! ## The slash behind a drive letter -/

theorem closeDrive_cases (path : List UInt8) :
    closeDrive path = path ∨ closeDrive path = path ++ [Path.slash] := by
  rw [closeDrive]
  split
  · split
    · exact .inr rfl
    · exact .inl rfl
  · exact .inl rfl

theorem components_closeDrive (path : List UInt8) :
    Path.components (closeDrive path) = Path.components path := by
  rcases closeDrive_cases path with h | h
  · rw [h]
  · rw [h, Path.components_concat]

theorem isAbsolute_closeDrive (h : Path.isAbsolute path = true) :
    Path.isAbsolute (closeDrive path) = true := by
  rcases closeDrive_cases path with h' | h'
  · rwa [h']
  · rw [h']
    cases path with
    | nil => exact absurd h (by decide)
    | cons b path => exact h

end DiagServer.Uri

namespace DiagServer.DocumentId

variable {path : List UInt8} {id : DocumentId}

theorem ofPath?_eq_some : ofPath? path = some id ↔ Path.isAbsolute path = true ∧
    id = ⟨String.ofList (['f', 'i', 'l', 'e', ':', '/', '/'] ++
      Uri.renderComponents (Path.components path))⟩ := by
  rw [ofPath?, Uri.ofPath?, Option.map_eq_some_iff]
  constructor
  · rintro ⟨uri, huri, rfl⟩
    obtain ⟨habsolute, huri⟩ := Option.ite_none_right_eq_some.mp huri
    cases huri
    exact ⟨habsolute, rfl⟩
  · rintro ⟨habsolute, rfl⟩
    exact ⟨_, if_pos habsolute, rfl⟩

/-- A path has an identity if it is absolute, and only then. Absolute paths share one if and only if
they have the same components, so what is published for a file is stored for no file with other
components. The identity of a path without two dots leads back to an absolute path of the same
components. -/
theorem ofPath?_faithful :
    (∀ path, (∃ id, ofPath? path = some id) ↔ Path.isAbsolute path = true) ∧
    (∀ a b, Path.isAbsolute a = true → Path.isAbsolute b = true →
      (ofPath? a = ofPath? b ↔ Path.components a = Path.components b)) ∧
    (∀ a b ida idb, ofPath? a = some ida → ofPath? b = some idb →
      Path.components a ≠ Path.components b →
      ∀ (s : Store) (items : List Diagnostic), (s.publish ida items).get? idb = s.get? idb) ∧
    (∀ path id, ofPath? path = some id → Path.up ∉ Path.components path →
      ∃ back, id.toPath? = some back ∧ Path.isAbsolute back = true ∧
        Path.components back = Path.components path) := by
  refine ⟨?_, ?_, ?_, ?_⟩
  · intro path
    constructor
    · rintro ⟨id, hid⟩
      exact (ofPath?_eq_some.mp hid).1
    · intro habsolute
      exact ⟨_, ofPath?_eq_some.mpr ⟨habsolute, rfl⟩⟩
  · intro a b ha hb
    have hida := ofPath?_eq_some.mpr ⟨ha, rfl⟩
    have hidb := ofPath?_eq_some.mpr ⟨hb, rfl⟩
    constructor
    · intro heq
      exact components_eq_of_ofPath? hida (heq ▸ hida)
    · intro heq
      rw [hida, hidb, heq]
  · intro a b ida idb ha hb hne s items
    rw [Store.get?_publish, if_neg]
    rintro rfl
    exact hne (components_eq_of_ofPath? ha hb)
  · intro path id hid hup
    obtain ⟨-, rfl⟩ := ofPath?_eq_some.mp hid
    have hnames : ∀ component ∈ Path.components path, Path.IsName component :=
      fun _ => Path.isName_of_mem_components
    refine ⟨Uri.closeDrive (Path.ofComponents (Path.components path)), ?_, ?_, ?_⟩
    · rw [toPath?, String.toList_ofList]
      exact Uri.toPath?_render hnames hup
    · exact Uri.isAbsolute_closeDrive (Path.isAbsolute_ofComponents _)
    · rw [Uri.components_closeDrive, Path.components_ofComponents hnames]

end DiagServer.DocumentId
