import FrameScript.ActionLine.Parser
import FrameScript.Proofs.Text.Trim

/-!
# Fields between commas

Reading first trims the whole line, cuts it at the commas and then trims every field. The first of
the three changes nothing, since the blanks that it takes stand around fields anyway, so cutting and
trimming are enough: `fields_eq`. Then a comma ends whatever stands before it, blanks around fields
do not matter, and fields that are written one after the other, each between any blanks, are read
as they are.

## Main definitions

* `ActionLine.IsField` — what can stand between two commas, without the blanks around it
* `ActionLine.Spells` — the text is certain fields with commas between them and blanks around them

## Main results

* `ActionLine.fields_eq` — cut at the commas, and trim
* `ActionLine.fields_append` — a comma ends whatever stands before it
* `ActionLine.spells_iff` — fields are read as they are spelled
-/

namespace FrameScript

namespace ActionLine

/-! ### Cutting -/

/-- Blanks are no commas. -/
theorem comma_not_mem_of_blanks {t : Text} (h : ∀ c ∈ t, Text.isBlank c = true) : ',' ∉ t := by
  intro hc
  exact absurd (h ',' hc) (by decide)

theorem comma_not_mem_of_mem_splitOn {t piece : Text} (h : piece ∈ t.splitOn ',') :
    ',' ∉ piece := by
  rw [List.splitOn_eq_splitOnP] at h
  intro hc
  exact absurd (Text.not_separator_of_mem_splitOnP h ',' hc) (by decide)

/-- Blanks at the end of a line stand behind its last field. -/
theorem trim_splitOn_append_blanks {after : Text} (h : ∀ c ∈ after, Text.isBlank c = true)
    (t : Text) : ((t ++ after).splitOn ',').map Text.trim = (t.splitOn ',').map Text.trim := by
  have hpieces : ∀ pieces : List Text, pieces ≠ [] → (∀ piece ∈ pieces, ',' ∉ piece) →
      (([','].intercalate pieces ++ after).splitOn ',').map Text.trim = pieces.map Text.trim := by
    intro pieces hne hcomma
    induction pieces with
    | nil => exact absurd rfl hne
    | cons piece pieces ih =>
      have hpiece := hcomma piece (List.mem_cons_self ..)
      cases pieces with
      | nil =>
        have hall : ',' ∉ piece ++ after := by
          rw [List.mem_append]
          exact not_or_intro hpiece (comma_not_mem_of_blanks h)
        rw [List.intercalate_singleton, List.splitOn_eq_singleton hall, List.map_singleton,
          Text.trim_append_blanks h, List.map_singleton]
      | cons next pieces =>
        have hrest := ih (List.cons_ne_nil _ _) fun p hp => hcomma p (List.mem_cons_of_mem _ hp)
        rw [List.intercalate_cons_cons, List.append_assoc, List.append_assoc,
          List.singleton_append, List.splitOn_append_cons_self_of_not_mem hpiece, List.map_cons,
          hrest]
        rfl
  have hcut := hpieces (t.splitOn ',') (List.splitOn_ne_nil _ _)
    fun piece hpiece => comma_not_mem_of_mem_splitOn hpiece
  rwa [List.intercalate_splitOn] at hcut

/-- And those at its beginning stand before the first. -/
theorem trim_splitOn_blanks_append {before : Text} (h : ∀ c ∈ before, Text.isBlank c = true)
    (t : Text) : ((before ++ t).splitOn ',').map Text.trim = (t.splitOn ',').map Text.trim := by
  induction before with
  | nil => rfl
  | cons c before ih =>
    have hc := h c (List.mem_cons_self ..)
    have hcomma : c ≠ ',' := by
      rintro rfl
      exact absurd hc (by decide)
    rw [← ih fun d hd => h d (List.mem_cons_of_mem _ hd), List.cons_append,
      List.splitOn_cons_eq_if_modifyHead, if_neg (by simpa using hcomma)]
    obtain ⟨first, rest, hcut⟩ := List.exists_cons_of_ne_nil (List.splitOn_ne_nil ',' (before ++ t))
    have hblank : ∀ d ∈ [c], Text.isBlank d = true := fun d hd => List.mem_singleton.mp hd ▸ hc
    rw [hcut, List.modifyHead_cons, List.map_cons, List.map_cons]
    exact congrArg (· :: rest.map Text.trim) (Text.trim_blanks_append hblank first)

/-- **The fields** are the pieces between the commas, trimmed. -/
theorem fields_eq (text : Text) : fields text = (text.splitOn ',').map Text.trim := by
  obtain ⟨before, after, hbefore, hafter, htext⟩ := Text.exists_eq_blanks_trim text
  calc fields text = (text.trim.splitOn ',').map Text.trim := rfl
    _ = ((text.trim ++ after).splitOn ',').map Text.trim :=
        (trim_splitOn_append_blanks hafter _).symm
    _ = ((before ++ (text.trim ++ after)).splitOn ',').map Text.trim :=
        (trim_splitOn_blanks_append hbefore _).symm
    _ = (text.splitOn ',').map Text.trim := by rw [← htext]

/-- **A comma ends** whatever stands before it. -/
theorem fields_append (before after : Text) :
    fields (before ++ ',' :: after) = fields before ++ fields after := by
  rw [fields_eq, fields_eq, fields_eq, List.splitOn_append_cons_self, List.map_append]

theorem fields_intercalate {pieces : List Text} (hne : pieces ≠ [])
    (hcomma : ∀ piece ∈ pieces, ',' ∉ piece) :
    fields ([','].intercalate pieces) = pieces.map Text.trim := by
  rw [fields_eq, List.splitOn_intercalate ',' hcomma hne]

theorem fields_of_comma_not_mem {text : Text} (h : ',' ∉ text) : fields text = [text.trim] := by
  rw [fields_eq, List.splitOn_eq_singleton h, List.map_singleton]

/-- A line with something in its first field is not blank. -/
theorem trim_ne_nil_of_fields {text first : Text} {rest : List Text}
    (hfields : fields text = first :: rest) (hfirst : first ≠ []) : text.trim ≠ [] := by
  intro hnil
  rw [fields, hnil] at hfields
  cases hfields
  exact hfirst rfl

/-! ### Spelling -/

/-- What can stand between two commas, without the blanks around it. -/
def IsField (f : Text) : Prop := ',' ∉ f ∧ f.trim = f

/-- The piece is the field between any blanks. -/
def Pads (piece f : Text) : Prop :=
  ∃ before after, (∀ c ∈ before, Text.isBlank c = true) ∧ (∀ c ∈ after, Text.isBlank c = true) ∧
    piece = before ++ (f ++ after)

/-- The text is the fields one after the other, with a comma between any two and any blanks around
each. -/
inductive Spells : Text → List Text → Prop
  | single {piece f : Text} : IsField f → Pads piece f → Spells piece [f]
  | cons {piece f text : Text} {fs : List Text} : IsField f → Pads piece f → Spells text fs →
      Spells (piece ++ ',' :: text) (f :: fs)

theorem Pads.fields_eq {piece f : Text} (h : Pads piece f) (hf : IsField f) :
    fields piece = [f] := by
  obtain ⟨before, after, hbefore, hafter, rfl⟩ := h
  have hcomma : ',' ∉ before ++ (f ++ after) := by
    rw [List.mem_append, List.mem_append]
    exact not_or_intro (comma_not_mem_of_blanks hbefore)
      (not_or_intro hf.1 (comma_not_mem_of_blanks hafter))
  rw [fields_of_comma_not_mem hcomma, Text.trim_blanks_append hbefore,
    Text.trim_append_blanks hafter, hf.2]

/-- **Fields are read as they are spelled**, however many blanks stand around them. -/
theorem Spells.fields_eq {text : Text} {fs : List Text} (h : Spells text fs) :
    fields text = fs := by
  induction h with
  | single hf hpads => exact hpads.fields_eq hf
  | cons hf hpads _ ih => rw [fields_append, hpads.fields_eq hf, ih, List.singleton_append]

theorem isField_trim {piece : Text} (h : ',' ∉ piece) : IsField piece.trim := by
  obtain ⟨before, after, hbefore, hafter, hpiece⟩ := Text.exists_eq_blanks_trim piece
  constructor
  · intro hc
    rw [hpiece] at h
    exact h (List.mem_append_right _ (List.mem_append_left _ hc))
  · have htrim := congrArg Text.trim hpiece
    rw [Text.trim_blanks_append hbefore, Text.trim_append_blanks hafter] at htrim
    exact htrim.symm

theorem spells_intercalate {pieces : List Text} (hne : pieces ≠ [])
    (hcomma : ∀ piece ∈ pieces, ',' ∉ piece) :
    Spells ([','].intercalate pieces) (pieces.map Text.trim) := by
  induction pieces with
  | nil => exact absurd rfl hne
  | cons piece pieces ih =>
    have hfield := isField_trim (hcomma piece (List.mem_cons_self ..))
    have hpads : Pads piece piece.trim := Text.exists_eq_blanks_trim piece
    cases pieces with
    | nil =>
      rw [List.intercalate_singleton]
      exact .single hfield hpads
    | cons next pieces =>
      rw [List.intercalate_cons_cons, List.append_assoc]
      exact .cons hfield hpads
        (ih (List.cons_ne_nil _ _) fun p hp => hcomma p (List.mem_cons_of_mem _ hp))

/-- And every text spells the fields that are read from it. -/
theorem spells_iff {text : Text} {fs : List Text} : Spells text fs ↔ fields text = fs := by
  refine ⟨Spells.fields_eq, ?_⟩
  rintro rfl
  have hspells := spells_intercalate (List.splitOn_ne_nil ',' text)
    fun piece hpiece => comma_not_mem_of_mem_splitOn hpiece
  rwa [List.intercalate_splitOn, ← fields_eq] at hspells

end ActionLine

end FrameScript
