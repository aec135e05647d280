import DiagServer.Config.Template
import Mathlib.Data.List.Basic

/-!
# A text is a template in one way only

Filling in goes by the parts of a template, so what an expansion gives hangs on where the parts are
cut. Nothing is left to choose there. The first opening in a text ends its first literal, because no
literal holds one and no two openings overlap; behind it the first closing brace ends the name, and
if there is none the opening and all behind it is the unclosed rest. `Regular` says of the parts
what these cuts say of the text, and reading a text as a template is the one way to come by regular
parts that make up the text. The induction is on the references, each of which takes its part off
the front.

Values come in only when the parts are there. So no value can open or close a reference, whatever
it holds, and a text in which no opening is ever closed has nothing to fill in.
-/

namespace DiagServer.Config.Template

/-- The parts of a template can be told from its text: no literal holds an opening, no name a
closing brace, and an opening that is left at the end is never closed. -/
structure Regular (t : Template) : Prop where
  literals : ∀ r ∈ t.references, ¬ ['$', '{'] <:+: r.literal
  names : ∀ r ∈ t.references, '}' ∉ r.name
  literal : ¬ ['$', '{'] <:+: t.literal
  unclosed : t.unclosed = [] ∨ ['$', '{'] <+: t.unclosed ∧ '}' ∉ t.unclosed

variable {c : Char} {cs literal name rest seen : List Char} {references : List Reference}

/-! ## Where a text is cut -/

theorem cutAtOpening_cons (h : ¬ ['$', '{'] <+: c :: cs) :
    cutAtOpening seen (c :: cs) = cutAtOpening (c :: seen) cs := by
  rw [cutAtOpening.eq_def]
  split
  · next heq => cases heq
  · next tail heq =>
      rw [heq] at h
      exact absurd (List.prefix_append ['$', '{'] tail) h
  · next heq =>
      cases heq
      rfl

theorem cutAtOpening_of_not_infix (h : ¬ ['$', '{'] <:+: cs) (seen : List Char) :
    cutAtOpening seen cs = (seen.reverse ++ cs, none) := by
  induction cs generalizing seen with
  | nil => rw [cutAtOpening, List.append_nil]
  | cons c cs ih =>
      rw [List.infix_cons_iff, not_or] at h
      rw [cutAtOpening_cons h.1, ih h.2, List.reverse_cons, List.append_assoc]
      rfl

/-- No opening starts in a literal and ends behind it. -/
theorem cutAtOpening_append (h : ¬ ['$', '{'] <:+: literal) (seen rest : List Char) :
    cutAtOpening seen (literal ++ '$' :: '{' :: rest) = (seen.reverse ++ literal, some rest) := by
  induction literal generalizing seen with
  | nil => rw [List.nil_append, cutAtOpening, List.append_nil]
  | cons c literal ih =>
      rw [List.infix_cons_iff, not_or] at h
      have hcons : ¬ ['$', '{'] <+: c :: (literal ++ '$' :: '{' :: rest) := by
        intro hp
        rw [List.cons_prefix_cons] at hp
        cases literal with
        | nil => simp at hp
        | cons d literal =>
            refine h.1 ?_
            rw [List.cons_append, List.cons_prefix_cons] at hp
            rw [List.cons_prefix_cons, List.cons_prefix_cons]
            exact ⟨hp.1, hp.2.1, List.nil_prefix⟩
      rw [List.cons_append, cutAtOpening_cons hcons, ih h.2, List.reverse_cons, List.append_assoc]
      rfl

theorem cutAtClosing_of_notMem (h : '}' ∉ cs) (seen : List Char) :
    cutAtClosing seen cs = (seen.reverse ++ cs, none) := by
  induction cs generalizing seen with
  | nil => rw [cutAtClosing, List.append_nil]
  | cons c cs ih =>
      rw [List.mem_cons, not_or] at h
      rw [cutAtClosing.eq_3 _ _ _ (fun heq => h.1 heq.symm), ih h.2, List.reverse_cons,
        List.append_assoc]
      rfl

theorem cutAtClosing_append (h : '}' ∉ name) (seen rest : List Char) :
    cutAtClosing seen (name ++ '}' :: rest) = (seen.reverse ++ name, some rest) := by
  induction name generalizing seen with
  | nil => rw [List.nil_append, cutAtClosing, List.append_nil]
  | cons c name ih =>
      rw [List.mem_cons, not_or] at h
      rw [List.cons_append, cutAtClosing.eq_3 _ _ _ (fun heq => h.1 heq.symm), ih h.2,
        List.reverse_cons, List.append_assoc]
      rfl

theorem exists_first_opening (h : ['$', '{'] <:+: cs) :
    ∃ literal rest, cs = literal ++ '$' :: '{' :: rest ∧ ¬ ['$', '{'] <:+: literal := by
  induction cs with
  | nil => simp at h
  | cons c cs ih =>
      by_cases hfront : ['$', '{'] <+: c :: cs
      · obtain ⟨rest, hrest⟩ := hfront
        exact ⟨[], rest, hrest.symm, by simp⟩
      · obtain ⟨literal, rest, rfl, hliteral⟩ := ih ((List.infix_cons_iff.mp h).resolve_left hfront)
        refine ⟨c :: literal, rest, rfl, fun hin => ?_⟩
        rcases List.infix_cons_iff.mp hin with hin | hin
        · exact hfront (hin.trans (List.prefix_append (c :: literal) _))
        · exact hliteral hin

/-! ## Reading a template -/

theorem ofCharsFrom_plain (h : ¬ ['$', '{'] <:+: cs) :
    ofCharsFrom references cs = ⟨references.reverse, cs, []⟩ := by
  have hcut := cutAtOpening_of_not_infix h []
  rw [ofCharsFrom]
  split <;> rename_i hcut' <;> rw [hcut] at hcut' <;> cases hcut'
  rfl

theorem ofCharsFrom_unclosed (h : ¬ ['$', '{'] <:+: literal) (hrest : '}' ∉ rest) :
    ofCharsFrom references (literal ++ '$' :: '{' :: rest) =
      ⟨references.reverse, literal, '$' :: '{' :: rest⟩ := by
  have hopening := cutAtOpening_append h [] rest
  have hclosing := cutAtClosing_of_notMem hrest []
  rw [ofCharsFrom]
  split <;> rename_i hcut <;> rw [hopening] at hcut <;> cases hcut
  split <;> rename_i hcut <;> rw [hclosing] at hcut <;> cases hcut
  rfl

theorem ofCharsFrom_reference (h : ¬ ['$', '{'] <:+: literal) (hname : '}' ∉ name) :
    ofCharsFrom references (literal ++ '$' :: '{' :: (name ++ '}' :: rest)) =
      ofCharsFrom (⟨literal, name⟩ :: references) rest := by
  have hopening := cutAtOpening_append h [] (name ++ '}' :: rest)
  have hclosing := cutAtClosing_append hname [] rest
  rw [ofCharsFrom]
  split <;> rename_i hcut <;> rw [hopening] at hcut <;> cases hcut
  split <;> rename_i hcut <;> rw [hclosing] at hcut <;> cases hcut
  rfl

theorem text_cons (r : Reference) (literal unclosed : List Char) :
    text ⟨r :: references, literal, unclosed⟩ =
      r.literal ++ '$' :: '{' :: (r.name ++ '}' :: text ⟨references, literal, unclosed⟩) := by
  simp [text, written]

/-- Parts that can be told from the text are the ones that are read. -/
theorem Regular.ofCharsFrom_text {t : Template} (h : t.Regular) (before : List Reference) :
    ofCharsFrom before t.text = ⟨before.reverse ++ t.references, t.literal, t.unclosed⟩ := by
  obtain ⟨references, literal, unclosed⟩ := t
  induction references generalizing before with
  | nil =>
      rw [List.append_nil]
      rcases h.unclosed with hnil | ⟨⟨rest, hopening⟩, hclosed⟩
      · subst hnil
        have hliteral : text ⟨[], literal, []⟩ = literal := by simp [text]
        rw [hliteral]
        exact ofCharsFrom_plain h.literal
      · subst hopening
        have hclosed : '}' ∉ rest := by simpa using hclosed
        exact ofCharsFrom_unclosed h.literal hclosed
  | cons r references ih =>
      obtain ⟨hliteral, hliterals⟩ := List.forall_mem_cons.mp h.literals
      obtain ⟨hname, hnames⟩ := List.forall_mem_cons.mp h.names
      rw [text_cons, ofCharsFrom_reference hliteral hname,
        ih _ ⟨hliterals, hnames, h.literal, h.unclosed⟩, List.reverse_cons, List.append_assoc]
      rfl

/-- Every text has such parts. -/
theorem exists_regular (cs : List Char) : ∃ t : Template, t.Regular ∧ t.text = cs := by
  induction hn : cs.length using Nat.strongRecOn generalizing cs with
  | _ n ih =>
      by_cases hopening : ['$', '{'] <:+: cs
      · obtain ⟨literal, rest, rfl, hliteral⟩ := exists_first_opening hopening
        by_cases hclosing : '}' ∈ rest
        · obtain ⟨name, rest, rfl, hname⟩ := List.eq_append_cons_of_mem hclosing
          simp only [List.length_append, List.length_cons] at hn
          obtain ⟨⟨references, last, unclosed⟩, ht, rfl⟩ := ih rest.length (by omega) rest rfl
          let r : Reference := ⟨literal, name⟩
          refine ⟨⟨r :: references, last, unclosed⟩, ⟨?_, ?_, ht.literal, ht.unclosed⟩,
            text_cons r last unclosed⟩
          · exact List.forall_mem_cons.mpr ⟨hliteral, ht.literals⟩
          · exact List.forall_mem_cons.mpr ⟨hname, ht.names⟩
        · refine ⟨⟨[], literal, '$' :: '{' :: rest⟩,
            ⟨by simp, by simp, hliteral, .inr ⟨?_, ?_⟩⟩, rfl⟩
          · exact List.prefix_append ['$', '{'] rest
          · simpa using hclosing
      · exact ⟨⟨[], cs, []⟩, ⟨by simp, by simp, hopening, .inl rfl⟩, by simp [text]⟩

/-- Reading a text gives the one template with its parts in place that has this text. -/
theorem ofChars_eq_iff {t : Template} : ofChars cs = t ↔ t.Regular ∧ t.text = cs := by
  have hread : ∀ {u : Template}, u.Regular → ofChars u.text = u := fun hu => hu.ofCharsFrom_text []
  constructor
  · rintro rfl
    obtain ⟨u, hu, rfl⟩ := exists_regular cs
    rw [hread hu]
    exact ⟨hu, rfl⟩
  · rintro ⟨ht, rfl⟩
    exact hread ht

/-! ## Filling in -/

theorem fill_congr {lookup lookup' : String → Option String} {t : Template}
    (h : ∀ r ∈ t.references, valueOf lookup r.name = valueOf lookup' r.name) :
    t.fill lookup = t.fill lookup' := by
  have hvalues : (t.references.flatMap fun r => r.literal ++ valueOf lookup r.name) =
      t.references.flatMap fun r => r.literal ++ valueOf lookup' r.name := by
    refine List.flatMap_congr fun r hr => ?_
    rw [h r hr]
  rw [fill, fill, hvalues]

theorem fill_of_no_references {t : Template} (h : t.references = [])
    (lookup : String → Option String) : t.fill lookup = t.text := by
  rw [fill, text, h]
  rfl

theorem text_of_mem {t : Template} {r : Reference} (h : r ∈ t.references) :
    ∃ before behind, t.text = before ++ written r.name ++ behind := by
  obtain ⟨earlier, later, hsplit⟩ := List.append_of_mem h
  refine ⟨(earlier.flatMap fun r => r.literal ++ written r.name) ++ r.literal,
    (later.flatMap fun r => r.literal ++ written r.name) ++ t.literal ++ t.unclosed, ?_⟩
  rw [text, hsplit]
  simp

/-- A text falls apart in exactly one way into literals that hold no opening, references whose names
hold no closing brace, and a rest that is empty or opens a reference and never closes it. However
variables are looked up, expanding the text puts the value in the place of each reference, nothing
if the reference names no variable or one without a value, and keeps all else; so two look-ups that
agree on the references give the same, and a text without a complete reference stays as it is. -/
theorem expand_by_parts (s : String) :
    (∃! t : Template, t.Regular ∧ t.text = s.toList) ∧
    ∀ t : Template, t.Regular ∧ t.text = s.toList →
      (∀ lookup, (expand lookup s).toList =
        (t.references.flatMap fun r => r.literal ++
          if r.name = [] then [] else ((lookup (String.ofList r.name)).getD "").toList) ++
        t.literal ++ t.unclosed) ∧
      (∀ lookup lookup' : String → Option String,
        (∀ r ∈ t.references, r.name ≠ [] →
          (lookup (String.ofList r.name)).getD "" = (lookup' (String.ofList r.name)).getD "") →
        expand lookup s = expand lookup' s) ∧
      ((∀ before name behind, s.toList ≠ before ++ '$' :: '{' :: name ++ '}' :: behind) →
        ∀ lookup, expand lookup s = s) := by
  have hparts : ∀ t : Template, t.Regular ∧ t.text = s.toList → ofChars s.toList = t :=
    fun t => ofChars_eq_iff.mpr
  refine ⟨⟨ofChars s.toList, ofChars_eq_iff.mp rfl, fun t ht => (hparts t ht).symm⟩, ?_⟩
  intro t ht
  have hexpand : ∀ lookup, expand lookup s = String.ofList (t.fill lookup) := by
    intro lookup
    rw [expand, hparts t ht]
  refine ⟨fun lookup => ?_, fun lookup lookup' hsame => ?_, fun hnone lookup => ?_⟩
  · rw [hexpand, String.toList_ofList]
    rfl
  · rw [hexpand, hexpand, fill_congr]
    intro r hr
    rw [valueOf, valueOf]
    split
    · rfl
    · next hname => rw [hsame r hr hname]
  · -- a reference of the template would be a complete one in the text
    have hreferences : t.references = [] := by
      rw [List.eq_nil_iff_forall_not_mem]
      intro r hr
      obtain ⟨before, behind, hsplit⟩ := text_of_mem hr
      refine hnone before r.name behind ?_
      rw [← ht.2, hsplit]
      simp [written]
    rw [hexpand, fill_of_no_references hreferences, ht.2, String.ofList_toList]

/-- A value is not looked at again, and a dollar sign in front of an opening stands for itself. -/
example : ofChars "$$\x7bA\x7d$\x7b\x7d\x7d$\x7bB".toList =
    ⟨[⟨['$'], ['A']⟩, ⟨[], []⟩], ['}'], ['$', '{', 'B']⟩ ∧
      fill (fun _ => some "$\x7bB\x7d") ⟨[⟨['$'], ['A']⟩, ⟨[], []⟩], ['}'], ['$', '{', 'B']⟩ =
        "$$\x7bB\x7d\x7d$\x7bB".toList := by
  refine ⟨ofChars_eq_iff.mpr ⟨⟨?_, ?_, ?_, ?_⟩, ?_⟩, ?_⟩ <;> decide

end DiagServer.Config.Template
