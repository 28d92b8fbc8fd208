import FrameScript.Proofs.ActionLine.Field
import FrameScript.Proofs.ActionLine.Spacing

/-!
# The first field that does not fit

A line that is refused is refused for the first thing that does not fit. Reading goes from left to
right and stops there, so that the fields before form a line, and what follows is never looked at:
the same fields with any other end are refused for the same reason. `parse_eq_error_iff` says where
reading can stop, and the rest is a matter of cutting the text at its commas.

## Main definitions

* `ActionLine.ParseError.laterField?` — the field after the frame count that an error is about

## Main results

* `ActionLine.parse_eq_error_iff` — reading stops at the frame count, or at a field after it
* `ActionLine.exists_misfit` — what an error about a later field says about the fields
* `ActionLine.parse_error_names_first_misfit` — the same said of the text, for every kind of error
-/

namespace FrameScript

namespace ActionLine

variable {columns : Nat} {text field : Text} {e : ParseError}

/-- The field after the frame count that an error is about. Blank lines and frame counts are not
about such a field. -/
def ParseError.laterField? : ParseError → Option Text
  | blank => none
  | badFrames _ => none
  | tooManyDigits _ _ => none
  | emptyField => some []
  | unknownInput field => some field
  | badNumber field => some field
  | strayNumber field => some field

/-! ### Errors of single fields -/

theorem readFrames_eq_error {width : FrameWidth} (h : readFrames width field = .error e) :
    e = .badFrames field ∨ e = .tooManyDigits field.length width.columns := by
  rw [readFrames] at h
  split at h
  · cases h
    exact Or.inl rfl
  · split at h
    · cases h
      exact Or.inr rfl
    · cases h

theorem readValue_eq_error (h : readValue field = .error e) : e = .badNumber field := by
  rw [readValue] at h
  split at h
  · split at h <;> cases h
    rfl
  · cases h
    rfl

theorem readInput_eq_error (h : readInput field = .error e) : e = .unknownInput field := by
  rcases field with _ | ⟨c, _ | ⟨d, rest⟩⟩
  · cases h
    rfl
  · rw [readInput] at h
    cases hletter : Input.ofLetter? c with
    | none =>
      rw [hletter] at h
      cases h
      rfl
    | some i =>
      rw [hletter] at h
      cases h
  · cases h
    rfl

/-- An error of a field after the frame count is about that field. -/
theorem Draft.laterField?_of_read_eq_error {draft : Draft} (h : draft.read field = .error e) :
    e.laterField? = some field := by
  rw [read] at h
  split at h
  · rename_i hnil
    cases h
    rw [hnil]
    rfl
  split at h
  · split at h
    · cases h
      rfl
    · rw [Outcome.map_eq_error_iff] at h
      rw [readValue_eq_error h]
      rfl
    · rw [Outcome.map_eq_error_iff] at h
      rw [readValue_eq_error h]
      rfl
  · rw [Outcome.map_eq_error_iff] at h
    rw [readInput_eq_error h]
    rfl

theorem Draft.exists_laterField?_of_foldlM {draft : Draft} {fs : List Text}
    (h : fs.foldlM read draft = .error e) : ∃ field, e.laterField? = some field := by
  obtain ⟨-, field, -, mid, -, -, hstops⟩ := Outcome.foldlM_eq_error_iff.mp h
  exact ⟨field, laterField?_of_read_eq_error hstops⟩

/-! ### Where reading stops -/

/-- **Where reading stops.** At the frame count, or at a later field; a blank line is not read at
all. -/
theorem parse_eq_error_iff : parse columns text = .error e ↔
    (text.trim = [] ∧ e = .blank) ∨ text.trim ≠ [] ∧ ∃ first rest, fields text = first :: rest ∧
      (readFrames (.clamp columns) first = .error e ∨ IsFrames (.clamp columns) first ∧
        rest.foldlM Draft.read (.start columns (Decimal.digitsValue first)) = .error e) := by
  by_cases hblank : text.trim = []
  · simp [parse, hblank, eq_comm]
  obtain ⟨first, rest, hfields⟩ : ∃ first rest, fields text = first :: rest :=
    List.exists_cons_of_ne_nil fun hnil => List.splitOn_ne_nil _ _ (List.map_eq_nil_iff.mp hnil)
  rw [parse_of_fields hblank hfields, Outcome.bind_eq_error_iff]
  constructor
  · rintro (hframes | ⟨_, hframes, hread⟩)
    · exact Or.inr ⟨hblank, first, rest, hfields, Or.inl hframes⟩
    · obtain ⟨hfirst, rfl⟩ := readFrames_eq_ok_iff.mp hframes
      exact Or.inr ⟨hblank, first, rest, hfields,
        Or.inr ⟨hfirst, Outcome.map_eq_error_iff.mp hread⟩⟩
  · rintro (⟨hnil, -⟩ | ⟨-, _, _, hcons, hstops⟩)
    · exact absurd hnil hblank
    · rw [hfields] at hcons
      cases hcons
      rcases hstops with hframes | ⟨hfirst, hread⟩
      · exact Or.inl hframes
      · exact Or.inr ⟨_, readFrames_eq_ok_iff.mpr ⟨hfirst, rfl⟩,
          Outcome.map_eq_error_iff.mpr hread⟩

/-- An error about a later field: the fields before it are read, and it is not. -/
theorem exists_misfit (h : parse columns text = .error e) (hfield : e.laterField? = some field) :
    ∃ first before after mid, fields text = first :: (before ++ field :: after) ∧
      IsFrames (.clamp columns) first ∧
      before.foldlM Draft.read (.start columns (Decimal.digitsValue first)) = .ok mid ∧
      mid.read field = .error e := by
  rcases parse_eq_error_iff.mp h with
    ⟨-, rfl⟩ | ⟨-, first, rest, hfields, hframes | ⟨hfirst, hread⟩⟩
  · cases hfield
  · rcases readFrames_eq_error hframes with rfl | rfl <;> cases hfield
  · obtain ⟨before, f, after, mid, rfl, hbefore, hstops⟩ := Outcome.foldlM_eq_error_iff.mp hread
    have hsame := Draft.laterField?_of_read_eq_error hstops
    rw [hfield] at hsame
    cases hsame
    exact ⟨first, before, after, mid, hfields, hfirst, hbefore, hstops⟩

/-- A misfit stops reading, whatever follows. -/
theorem parse_of_misfit {first : Text} {before after : List Text} {mid : Draft}
    (hfields : fields text = first :: (before ++ field :: after))
    (hfirst : IsFrames (.clamp columns) first)
    (hbefore : before.foldlM Draft.read (.start columns (Decimal.digitsValue first)) = .ok mid)
    (hstops : mid.read field = .error e) : parse columns text = .error e :=
  parse_eq_error_iff.mpr (Or.inr ⟨trim_ne_nil_of_fields hfields hfirst.1, first, _, hfields,
    Or.inr ⟨hfirst, Outcome.foldlM_eq_error_iff.mpr
      ⟨before, field, after, mid, rfl, hbefore, hstops⟩⟩⟩)

/-- **The misfit in the text.** The pieces of the text before it are read, and with it they are
not. -/
theorem exists_misfit_piece (h : parse columns text = .error e)
    (hfield : e.laterField? = some field) :
    ∃ k piece, 1 ≤ k ∧ (text.trim.splitOn ',')[k]? = some piece ∧ Text.trim piece = field ∧
      (∃ line, parse columns ([','].intercalate ((text.trim.splitOn ',').take k)) = .ok line) ∧
      parse columns ([','].intercalate ((text.trim.splitOn ',').take (k + 1))) = .error e ∧
      ∀ more, parse columns
        ([','].intercalate ((text.trim.splitOn ',').take (k + 1)) ++ ',' :: more) = .error e := by
  obtain ⟨first, before, after, mid, hfields, hfirst, hbefore, hstops⟩ := exists_misfit h hfield
  have hread : ∀ j, 1 ≤ j → fields ([','].intercalate ((text.trim.splitOn ',').take j)) =
      (first :: (before ++ field :: after)).take j := by
    intro j hj
    have hne : (text.trim.splitOn ',').take j ≠ [] := by
      rw [ne_eq, List.take_eq_nil_iff, not_or]
      exact ⟨by omega, List.splitOn_ne_nil _ _⟩
    rw [fields_intercalate hne fun piece hpiece =>
      comma_not_mem_of_mem_splitOn (List.mem_of_mem_take hpiece), List.map_take, ← hfields]
    rfl
  have hshort := hread (before.length + 1) (Nat.le_add_left ..)
  have hlong := hread (before.length + 2) (Nat.le_add_left ..)
  rw [List.take_succ_cons, List.take_left] at hshort
  rw [List.take_succ_cons, List.take_length_add_append] at hlong
  have hpiece : ((text.trim.splitOn ',').map Text.trim)[before.length + 1]? = some field := by
    rw [show (text.trim.splitOn ',').map Text.trim = _ from hfields, List.getElem?_cons_succ,
      List.getElem?_append_right (Nat.le_refl _), Nat.sub_self]
    rfl
  rw [List.getElem?_map, Option.map_eq_some_iff] at hpiece
  obtain ⟨piece, hpiece, htrim⟩ := hpiece
  refine ⟨before.length + 1, piece, Nat.le_add_left .., hpiece, htrim, ⟨mid.line, ?_⟩, ?_, ?_⟩
  · exact parse_eq_ok_iff.mpr ⟨trim_ne_nil_of_fields hshort hfirst.1, first, before, mid.awaits,
      hshort, hfirst, hbefore⟩
  · exact parse_of_misfit hlong hfirst hbefore hstops
  · intro more
    have hfollowed :
        fields ([','].intercalate ((text.trim.splitOn ',').take (before.length + 1 + 1)) ++
          ',' :: more) = first :: (before ++ field :: fields more) := by
      rw [fields_append, hlong]
      show first :: (before ++ [field] ++ fields more) = _
      rw [List.append_assoc, List.singleton_append]
    exact parse_of_misfit hfollowed hfirst hbefore hstops

/-- What is read before a comma is read without the comma. -/
theorem exists_parse_of_append {before after : Text} {line : ActionLine}
    (h : parse columns (before ++ ',' :: after) = .ok line) :
    ∃ shorter, parse columns before = .ok shorter := by
  obtain ⟨-, first, rest, awaits, hfields, hfirst, hread⟩ := parse_eq_ok_iff.mp h
  obtain ⟨f, more, hbefore⟩ : ∃ f more, fields before = f :: more :=
    List.exists_cons_of_ne_nil fun hnil => List.splitOn_ne_nil _ _ (List.map_eq_nil_iff.mp hnil)
  rw [fields_append, hbefore, List.cons_append] at hfields
  cases hfields
  obtain ⟨⟨shorter, awaits'⟩, hmore, -⟩ := Outcome.foldlM_append_eq_ok_iff.mp hread
  exact ⟨shorter, parse_eq_ok_iff.mpr ⟨trim_ne_nil_of_fields hbefore hfirst.1, first, more,
    awaits', hbefore, hfirst, hmore⟩⟩

/-- **Why a line is refused.** An error about a field after the frame count names the first field
that does not fit: the fields before it are read as a line, and with it they are refused for the
same reason, whatever follows. An error about the frame count comes back with every line that begins
with the same field, and only a line of blanks is refused as blank. So whatever stands before a
comma of a line is itself a line. -/
theorem parse_error_names_first_misfit (columns : Nat) (text : Text) :
    (∀ e field, parse columns text = .error e → e.laterField? = some field →
      ∃ k piece, 1 ≤ k ∧ (text.trim.splitOn ',')[k]? = some piece ∧ Text.trim piece = field ∧
        (∃ line, parse columns ([','].intercalate ((text.trim.splitOn ',').take k)) = .ok line) ∧
        parse columns ([','].intercalate ((text.trim.splitOn ',').take (k + 1))) = .error e ∧
        ∀ more, parse columns
          ([','].intercalate ((text.trim.splitOn ',').take (k + 1)) ++ ',' :: more) = .error e) ∧
    (∀ e, parse columns text = .error e →
      ((∃ field, e = .badFrames field) ∨ ∃ digits limit, e = .tooManyDigits digits limit) →
      ∀ other, other.trim ≠ [] → (fields other).head? = (fields text).head? →
        parse columns other = .error e) ∧
    (parse columns text = .error .blank ↔ ∀ c ∈ text, Text.isBlank c = true) ∧
    ∀ line, parse columns text = .ok line → ∀ before after, text = before ++ ',' :: after →
      ∃ shorter, parse columns before = .ok shorter := by
  refine ⟨fun e field => exists_misfit_piece, ?_, ?_, ?_⟩
  · intro e h hkind other hother hhead
    have hlater : ∀ field, e.laterField? ≠ some field := by
      intro field
      rcases hkind with ⟨f, rfl⟩ | ⟨digits, limit, rfl⟩ <;> exact nofun
    rcases parse_eq_error_iff.mp h with ⟨-, rfl⟩ | ⟨-, first, rest, hfields, hframes | ⟨-, hread⟩⟩
    · rcases hkind with ⟨f, hf⟩ | ⟨digits, limit, hlong⟩
      · cases hf
      · cases hlong
    · rw [hfields, List.head?_cons, List.head?_eq_some_iff] at hhead
      obtain ⟨more, hother'⟩ := hhead
      exact parse_eq_error_iff.mpr (Or.inr ⟨hother, first, more, hother', Or.inl hframes⟩)
    · obtain ⟨field, hfield⟩ := Draft.exists_laterField?_of_foldlM hread
      exact absurd hfield (hlater field)
  · rw [parse_eq_error_iff, ← Text.trim_eq_nil_iff]
    constructor
    · rintro (⟨hnil, -⟩ | ⟨-, first, rest, -, hframes | ⟨-, hread⟩⟩)
      · exact hnil
      · rcases readFrames_eq_error hframes with h | h <;> cases h
      · obtain ⟨field, hfield⟩ := Draft.exists_laterField?_of_foldlM hread
        cases hfield
    · intro hnil
      exact Or.inl ⟨hnil, rfl⟩
  · rintro line h before after rfl
    exact exists_parse_of_append h

/-- An angle with two points is refused whatever follows it, letters are no frame count, and before
a field that is no input stands a line. -/
theorem parse_error_names_angle :
    parse 4 " 15, r ,f, 4.5.1 ,?".toList = .error (.badNumber "4.5.1".toList) ∧
      (∃ k piece, 1 ≤ k ∧ (Text.trim " 15, r ,f, 4.5.1 ,?".toList |>.splitOn ',')[k]? = some piece ∧
        Text.trim piece = "4.5.1".toList ∧
        ∃ line, parse 4 ([','].intercalate
          ((Text.trim " 15, r ,f, 4.5.1 ,?".toList |>.splitOn ',').take k)) = .ok line) ∧
      parse 4 "# 15,R".toList = .error (.badFrames "# 15".toList) ∧
      parse 4 "\t# 15 ,,".toList = .error (.badFrames "# 15".toList) ∧
      (∃ line, parse 4 "15,r,f,.5".toList = .ok line) ∧
      ∃ shorter, parse 4 "15,r,f".toList = .ok shorter := by
  have hnumber : parse 4 " 15, r ,f, 4.5.1 ,?".toList = .error (.badNumber "4.5.1".toList) := by
    decide +kernel
  have hframes : parse 4 "# 15,R".toList = .error (.badFrames "# 15".toList) := by decide +kernel
  obtain ⟨line, hline⟩ : ∃ line, parse 4 "15,r,f,.5".toList = .ok line :=
    exists_parse_of_isSome (by decide +kernel)
  obtain ⟨k, piece, hk, hpiece, htrim, hbefore, -⟩ :=
    (parse_error_names_first_misfit 4 " 15, r ,f, 4.5.1 ,?".toList).1 _ _ hnumber rfl
  exact ⟨hnumber, ⟨k, piece, hk, hpiece, htrim, hbefore⟩, hframes,
    (parse_error_names_first_misfit 4 _).2.1 _ hframes (Or.inl ⟨_, rfl⟩) _ (by decide) (by decide),
    ⟨line, hline⟩,
    (parse_error_names_first_misfit 4 _).2.2.2 line hline "15,r,f".toList ".5".toList rfl⟩

end ActionLine

end FrameScript
