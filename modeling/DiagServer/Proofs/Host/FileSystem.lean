import DiagServer.Host.FileSystem
import DiagServer.Proofs.Uri.Escape

/-!
# Paths with the same components lead to the same file

Following a path asks more of it than its components say: an empty part or a dot wants a directory
where it stands. A path that was followed to a place asks no less than its components do, so these
lead to the place as well; and an absolute path is followed by them from the root. Hence two
spellings of a path cannot show two files, and what is read at a path depends on its identity only.
-/

namespace DiagServer.FileSystem

variable {fs : FileSystem} {path : List UInt8} {place stop : List (List UInt8)}

/-- The process stands where the path of its directory leads. -/
def InPlace (fs : FileSystem) : Prop :=
  fs.follow [] (Path.components (Path.ofComponents fs.current)) = .ok fs.current

/-! ## Following parts -/

/-- A part that is followed stands in a directory, and what remains is followed from where the part
leads. -/
theorem follow_cons {part : List UInt8} {parts : List (List UInt8)}
    (h : fs.follow place (part :: parts) = .ok stop) :
    fs.entry? place = some .directory ∧
      ((part = [] ∨ part = Path.here) ∧ fs.follow place parts = .ok stop ∨
        ¬(part = [] ∨ part = Path.here) ∧ ∃ next, fs.follow next parts = .ok stop ∧
          ∀ more, fs.follow place (part :: more) = fs.follow next more) := by
  rw [follow] at h
  split at h
  · cases h
  · cases h
  · next hplace =>
      refine ⟨hplace, ?_⟩
      split at h
      · next hskip => exact .inl ⟨hskip, h⟩
      · next hskip =>
          refine .inr ⟨hskip, ?_⟩
          split at h
          · next hup =>
              refine ⟨_, h, fun more => ?_⟩
              rw [follow, hplace]
              simp only [if_neg hskip, if_pos hup]
          · next hup =>
              split at h
              · cases h
              · next hlength =>
                  refine ⟨_, h, fun more => ?_⟩
                  rw [follow, hplace]
                  simp only [if_neg hskip, if_neg hup, if_neg hlength]

theorem follow_append {parts more : List (List UInt8)} {middle : List (List UInt8)}
    (h : fs.follow place parts = .ok middle) :
    fs.follow place (parts ++ more) = fs.follow middle more := by
  induction parts generalizing place with
  | nil =>
      cases h
      rfl
  | cons part parts ih =>
      obtain ⟨hplace, ⟨hskip, hrest⟩ | ⟨-, next, hrest, hnext⟩⟩ := follow_cons h
      · rw [List.cons_append, follow, hplace]
        simp only [if_pos hskip]
        exact ih hrest
      · rw [List.cons_append, hnext]
        exact ih hrest

/-- Parts that say nothing can be left out. -/
theorem follow_filter {parts : List (List UInt8)} (h : fs.follow place parts = .ok stop) :
    fs.follow place (parts.filter fun c => c ≠ [] ∧ c ≠ Path.here) = .ok stop := by
  induction parts generalizing place with
  | nil => exact h
  | cons part parts ih =>
      obtain ⟨-, ⟨hskip, hrest⟩ | ⟨hskip, next, hrest, hnext⟩⟩ := follow_cons h
      · have hdrop : ¬(part ≠ [] ∧ part ≠ Path.here) := fun hname => hskip.elim hname.1 hname.2
        rw [List.filter_cons_of_neg (by rwa [decide_eq_true_eq])]
        exact ih hrest
      · rw [List.filter_cons_of_pos (by rwa [decide_eq_true_eq, ← not_or]), hnext]
        exact ih hrest

/-! ## Following paths -/

theorem follow_of_resolve (h : fs.resolve path = .ok place) :
    fs.follow (if Path.isAbsolute path then [] else fs.current) (Path.split path) = .ok place := by
  rw [resolve] at h
  split at h
  · cases h
  · split at h
    · cases h
    · exact h

/-- Where a path leads is where the components of its absolute path lead from the root. -/
theorem follow_absolute (hplace : fs.InPlace) {absolute : List UInt8}
    (habsolute : fs.absolute? path = some absolute) (h : fs.resolve path = .ok place) :
    fs.follow [] (Path.components absolute) = .ok place := by
  have hcomponents := follow_filter (follow_of_resolve h)
  rw [Path.components_absolute habsolute]
  split
  · next hroot =>
      rw [if_pos hroot] at hcomponents
      exact hcomponents
  · next hroot =>
      rw [if_neg hroot] at hcomponents
      rw [follow_append hplace]
      exact hcomponents

theorem read_of_readText {text : String} (h : fs.readText path = .ok text) :
    ∃ place bytes, fs.resolve path = .ok place ∧ fs.entry? place = some (.file bytes) ∧
      Text.Utf8.decode? bytes = some text := by
  simp only [readText, read, lookup, bind, Except.bind] at h
  cases hresolve : fs.resolve path with
  | error e => simp [hresolve] at h
  | ok place =>
      cases hentry : fs.entry? place with
      | none => simp [hresolve, hentry] at h
      | some e =>
          cases e with
          | directory => simp [hresolve, hentry] at h
          | file bytes =>
              cases hdecode : Text.Utf8.decode? bytes with
              | none => simp [hresolve, hentry, hdecode] at h
              | some s =>
                  simp only [hresolve, hentry, hdecode, Except.ok.injEq] at h
                  exact ⟨place, bytes, rfl, hentry, by rw [hdecode, h]⟩

theorem exists?_of_readText {text : String} (h : fs.readText path = .ok text) :
    fs.exists? path = true := by
  obtain ⟨place, bytes, hresolve, hentry, -⟩ := read_of_readText h
  simp only [exists?, lookup, bind, Except.bind, hresolve, hentry]
  rfl

/-- Paths whose absolute paths have the same components show the same text. -/
theorem readText_eq (hplace : fs.InPlace) {a b : List UInt8} {absoluteA absoluteB : List UInt8}
    (ha : fs.absolute? a = some absoluteA) (hb : fs.absolute? b = some absoluteB)
    (hsame : Path.components absoluteA = Path.components absoluteB) {textA textB : String}
    (hreadA : fs.readText a = .ok textA) (hreadB : fs.readText b = .ok textB) :
    textA = textB := by
  obtain ⟨placeA, bytesA, hresolveA, hentryA, hdecodeA⟩ := read_of_readText hreadA
  obtain ⟨placeB, bytesB, hresolveB, hentryB, hdecodeB⟩ := read_of_readText hreadB
  have hfollowA := follow_absolute hplace ha hresolveA
  have hfollowB := follow_absolute hplace hb hresolveB
  rw [hsame, hfollowB, Except.ok.injEq] at hfollowA
  rw [← hfollowA, hentryB, Option.some.injEq, Entry.file.injEq] at hentryA
  rw [← hentryA, hdecodeB] at hdecodeA
  exact (Option.some.inj hdecodeA).symm

end DiagServer.FileSystem
