import FrameScript.Options
import FrameScript.Proofs.Outcome
import Mathlib.Data.List.TakeWhile

/-!
# What a settings text does

Every word of a settings text asks one option for a value, or nothing that there is. A switch is
asked to be on by its name and to be off by its name behind `no`; a number is asked for by a name, an
equals sign and digits. The word is accepted exactly if the option allows the value, and then this
option has it and all others are as they were. So whatever a text does, it does word by word, and
options that are in range stay in range.

A text is read from the left. Up to the first word that is refused all words take effect, and that
word and those behind it take none.

## Main definitions

* `OptionValue`, `OptionName.Allows`, `Options.value` — values, and which of them an option allows
* `Setting.Asks` — which option a word asks for which value
* `Options.Sets` — one option gets a value and the others are left alone
* `Options.InRange` — every option has a value that it allows

## Main results

* `Options.applyWord_eq_ok_iff` — which words are accepted, and what they do
* `Options.InRange.applyText` — options stay in range
* `Options.applyText_eq_ok_iff`, `Options.applyText_eq_error_iff` — a text is applied up to the first
  word that is refused
* `Options.applyText_append` — texts with blanks between them apply one after the other
* `Options.settings_apply_in_order` — all of it
-/

namespace FrameScript

/-! ### Values of options -/

/-- A value of an option. -/
inductive OptionValue
  | number (n : Nat)
  | switch (on : Bool)
deriving DecidableEq, Repr

namespace OptionName

/-- The option goes by a name, in full or abbreviated. -/
def GoesBy (option : OptionName) (name : Text) : Prop :=
  name = option.fullName.toList ∨ name = option.shortName.toList

/-- The values that an option may have. -/
def Allows : OptionName → OptionValue → Prop
  | frameColumns, .number n => 1 ≤ n ∧ n ≤ FrameWidth.limit
  | pageLines, .number n => 1 ≤ n
  | rectangles, .switch _ => True
  | _, _ => False

variable {option : OptionName} {name value : Text}

theorem ofText?_eq_some_iff : ofText? name = some option ↔ option.GoesBy name := by
  constructor
  · intro h
    have hfound := List.find?_some h
    rw [GoesBy]
    exact of_decide_eq_true hfound
  · rintro (rfl | rfl)
    · exact option.ofText?_fullName
    · exact option.ofText?_shortName

theorem isSwitch_of_allows {on : Bool} (h : option.Allows (.switch on)) :
    option.isSwitch = true := by
  cases option with
  | rectangles => rfl
  | _ => exact h.elim

theorem not_isSwitch_of_allows {n : Nat} (h : option.Allows (.number n)) :
    option.isSwitch = false := by
  cases option with
  | rectangles => exact h.elim
  | _ => rfl

theorem GoesBy.equals_not_mem (h : option.GoesBy name) : '=' ∉ name := by
  rcases h with rfl | rfl <;> cases option <;> decide

theorem GoesBy.afterNo?_eq_none (h : option.GoesBy name) : Setting.afterNo? name = none := by
  rcases h with rfl | rfl <;> cases option <;> decide

end OptionName

/-! ### Words -/

namespace Setting

variable {word name value : Text}

/-- A word asks an option for a value. -/
inductive Asks : Text → OptionName → OptionValue → Prop
  | on {name : Text} {option : OptionName} (hname : option.GoesBy name) :
    Asks name option (.switch true)
  | off {name : Text} {option : OptionName} (hname : option.GoesBy name) :
    Asks ('n' :: 'o' :: name) option (.switch false)
  | assign {name value : Text} {option : OptionName} {n : Nat} (hname : option.GoesBy name)
    (hvalue : readNumber? value = some n) : Asks (name ++ '=' :: value) option (.number n)

theorem ofWord_assign (h : '=' ∉ name) : ofWord (name ++ '=' :: value) = .assign name value := by
  have hname : ∀ c ∈ name, decide (c ≠ '=') = true := by
    rintro c hc
    exact decide_eq_true fun heq => h (heq ▸ hc)
  rw [ofWord, List.dropWhile_append_of_pos hname, List.takeWhile_append_of_pos hname]
  simp

theorem ofWord_of_not_mem (h : '=' ∉ word) : ofWord word =
    match afterNo? word with
    | some name => if namesSwitch name then .off name else .on word
    | none => .on word := by
  have hdrop : word.dropWhile (· ≠ '=') = [] := by
    rw [List.dropWhile_eq_nil_iff]
    intro c hc
    exact decide_eq_true fun heq => h (heq ▸ hc)
  unfold ofWord
  split
  · rename_i hvalue
    rw [hdrop] at hvalue
    cases hvalue
  · rfl

theorem afterNo?_eq_some_iff : afterNo? word = some name ↔ word = 'n' :: 'o' :: name := by
  constructor
  · intro h
    unfold afterNo? at h
    split at h
    · cases h
      rfl
    · cases h
  · rintro rfl
    rfl

theorem ofWord_on {option : OptionName} (h : option.GoesBy name) : ofWord name = .on name := by
  rw [ofWord_of_not_mem h.equals_not_mem, h.afterNo?_eq_none]

/-- **What a word is read as**: an assignment if there is an equals sign in it, and else a switch,
which is off only if the name behind `no` is that of a switch. -/
theorem ofWord_cases (word : Text) :
    (∃ name value, word = name ++ '=' :: value ∧ ofWord word = .assign name value) ∨
      (∃ name, word = 'n' :: 'o' :: name ∧ ofWord word = .off name) ∨ ofWord word = .on word := by
  by_cases h : '=' ∈ word
  · obtain ⟨name, value, rfl, hname⟩ := List.eq_append_cons_of_mem h
    exact Or.inl ⟨name, value, rfl, ofWord_assign hname⟩
  · right
    rw [ofWord_of_not_mem h]
    cases hafter : afterNo? word with
    | none => exact Or.inr rfl
    | some name =>
      dsimp only
      split
      · exact Or.inl ⟨name, afterNo?_eq_some_iff.mp hafter, rfl⟩
      · exact Or.inr rfl

theorem ofWord_off {option : OptionName} (h : option.GoesBy name) (hswitch : option.isSwitch = true) :
    ofWord ('n' :: 'o' :: name) = .off name := by
  have hmem : '=' ∉ 'n' :: 'o' :: name := by
    simpa using h.equals_not_mem
  have hnames : namesSwitch name = true := by
    rw [namesSwitch, OptionName.ofText?_eq_some_iff.mpr h]
    exact hswitch
  rw [ofWord_of_not_mem hmem]
  exact if_pos hnames

end Setting

/-- The reason of a refusal, without the name that the refused word was written with. -/
def SettingError.withoutName : SettingError → SettingError
  | unknown _ => unknown []
  | noSwitch _ => noSwitch []
  | noNumber _ => noNumber []
  | badValue option value => badValue option value

namespace Options

variable {options after after' : Options} {option : OptionName} {word : Text} {n : Nat}

/-- What an option is set to. -/
def value (options : Options) : OptionName → OptionValue
  | .frameColumns => .number options.frameColumns
  | .pageLines => .number options.pageLines
  | .rectangles => .switch options.rectangles

theorem ext_value {a b : Options} (h : ∀ option, a.value option = b.value option) : a = b := by
  obtain ⟨frameColumns, pageLines, rectangles⟩ := a
  cases h .frameColumns
  cases h .pageLines
  cases h .rectangles
  rfl

/-- The options with a value for one of them, if it is of the kind that the option has. -/
def put (options : Options) : OptionName → OptionValue → Options
  | .frameColumns, .number n => { options with frameColumns := n }
  | .pageLines, .number n => { options with pageLines := n }
  | .rectangles, .switch on => { options with rectangles := on }
  | _, _ => options

/-- One option gets a value, and the others are left alone. -/
structure Sets (options : Options) (option : OptionName) (value : OptionValue) (after : Options) :
    Prop where
  value_eq : after.value option = value
  others : ∀ other, other ≠ option → after.value other = options.value other

theorem Sets.unique {value : OptionValue} (h : options.Sets option value after)
    (h' : options.Sets option value after') : after = after' := by
  refine ext_value fun other => ?_
  by_cases hother : other = option
  · rw [hother, h.value_eq, h'.value_eq]
  · rw [h.others other hother, h'.others other hother]

theorem sets_put {value : OptionValue} (h : option.Allows value) :
    options.Sets option value (options.put option value) := by
  refine ⟨?_, fun other hother => ?_⟩
  · cases option <;> cases value <;> first | rfl | exact h.elim
  · cases option <;> cases value <;> cases other <;> first | rfl | exact absurd rfl hother

theorem put_eq_iff {value : OptionValue} (h : option.Allows value) :
    options.put option value = after ↔ options.Sets option value after := by
  constructor
  · rintro rfl
    exact sets_put h
  · intro hafter
    exact (sets_put h).unique hafter

/-- Every option has a value that it allows. -/
def InRange (options : Options) : Prop := ∀ option : OptionName, option.Allows (options.value option)

theorem inRange_iff : options.InRange ↔
    (1 ≤ options.frameColumns ∧ options.frameColumns ≤ FrameWidth.limit) ∧ 1 ≤ options.pageLines := by
  constructor
  · intro h
    exact ⟨h .frameColumns, h .pageLines⟩
  · rintro ⟨hcolumns, hlines⟩ (_ | _ | _)
    · exact hcolumns
    · exact hlines
    · trivial

/-! ### One word -/

theorem switch_eq_ok_iff {name : Text} {on : Bool} : options.switch name on = .ok after ↔
    ∃ option : OptionName, option.GoesBy name ∧ option.Allows (.switch on) ∧
      options.put option (.switch on) = after := by
  constructor
  · intro h
    rw [switch] at h
    split at h
    · cases h
    · rename_i hname
      cases h
      exact ⟨.rectangles, OptionName.ofText?_eq_some_iff.mp hname, trivial, rfl⟩
    · cases h
  · rintro ⟨option, hname, hallows, rfl⟩
    rw [switch, OptionName.ofText?_eq_some_iff.mpr hname]
    cases option with
    | frameColumns => exact hallows.elim
    | pageLines => exact hallows.elim
    | rectangles => rfl

theorem assign?_eq_some_iff : options.assign? option n = some after ↔
    option.Allows (.number n) ∧ options.put option (.number n) = after := by
  cases option with
  | frameColumns => exact Option.ite_none_right_eq_some.trans (and_congr_right' Option.some_inj)
  | pageLines => exact Option.ite_none_right_eq_some.trans (and_congr_right' Option.some_inj)
  | rectangles => exact iff_of_false nofun fun h => h.1

theorem apply_assign_eq_ok_iff {name value : Text} :
    options.apply (.assign name value) = .ok after ↔ ∃ (option : OptionName) (n : Nat),
      option.GoesBy name ∧ readNumber? value = some n ∧ option.Allows (.number n) ∧
        options.put option (.number n) = after := by
  constructor
  · intro h
    simp only [apply] at h
    split at h
    · cases h
    · rename_i option hname
      split at h
      · cases h
      · split at h
        · rename_i hassign
          cases h
          obtain ⟨n, hvalue, hset⟩ := Option.bind_eq_some_iff.mp hassign
          obtain ⟨hallows, hput⟩ := assign?_eq_some_iff.mp hset
          exact ⟨option, n, OptionName.ofText?_eq_some_iff.mp hname, hvalue, hallows, hput⟩
        · cases h
  · rintro ⟨option, n, hname, hvalue, hallows, hput⟩
    simp only [apply, OptionName.ofText?_eq_some_iff.mpr hname,
      OptionName.not_isSwitch_of_allows hallows, Bool.false_eq_true, if_false, hvalue,
      Option.bind_some, assign?_eq_some_iff.mpr ⟨hallows, hput⟩]

/-- Applies a word of a settings text. -/
def applyWord (options : Options) (word : Text) : Except SettingError Options :=
  options.apply (.ofWord word)

/-- **A word is accepted** exactly if it asks an option for a value that it allows. Then the option
has this value, and the others are left alone. -/
theorem applyWord_eq_ok_iff : options.applyWord word = .ok after ↔
    ∃ option value, Setting.Asks word option value ∧ option.Allows value ∧
      options.Sets option value after := by
  constructor
  · intro h
    rw [applyWord] at h
    rcases Setting.ofWord_cases word with ⟨name, value, rfl, hword⟩ | ⟨name, rfl, hword⟩ | hword <;>
      rw [hword] at h
    · obtain ⟨option, n, hname, hvalue, hallows, hput⟩ := apply_assign_eq_ok_iff.mp h
      exact ⟨option, .number n, .assign hname hvalue, hallows, (put_eq_iff hallows).mp hput⟩
    · obtain ⟨option, hname, hallows, hput⟩ := switch_eq_ok_iff.mp h
      exact ⟨option, .switch false, .off hname, hallows, (put_eq_iff hallows).mp hput⟩
    · obtain ⟨option, hname, hallows, hput⟩ := switch_eq_ok_iff.mp h
      exact ⟨option, .switch true, .on hname, hallows, (put_eq_iff hallows).mp hput⟩
  · rintro ⟨option, value, hasks, hallows, hsets⟩
    have hput := (put_eq_iff hallows).mpr hsets
    rw [applyWord]
    cases hasks with
    | on hname =>
      rw [Setting.ofWord_on hname]
      exact switch_eq_ok_iff.mpr ⟨option, hname, hallows, hput⟩
    | off hname =>
      rw [Setting.ofWord_off hname (OptionName.isSwitch_of_allows hallows)]
      exact switch_eq_ok_iff.mpr ⟨option, hname, hallows, hput⟩
    | assign hname hvalue =>
      rw [Setting.ofWord_assign hname.equals_not_mem]
      exact apply_assign_eq_ok_iff.mpr ⟨option, _, hname, hvalue, hallows, hput⟩

theorem InRange.applyWord (h : options.InRange) (hword : options.applyWord word = .ok after) :
    after.InRange := by
  obtain ⟨option, value, -, hallows, hsets⟩ := applyWord_eq_ok_iff.mp hword
  intro other
  by_cases hother : other = option
  · rw [hother, hsets.value_eq]
    exact hallows
  · rw [hsets.others other hother]
    exact h other

/-! ### Names -/

/-- Two words do the same to the options, or are refused for the same reason. -/
def ActAlike (options : Options) (word word' : Text) : Prop :=
  (options.applyWord word).mapError SettingError.withoutName =
    (options.applyWord word').mapError SettingError.withoutName

theorem actAlike_names (options : Options) (option : OptionName) :
    options.ActAlike option.fullName.toList option.shortName.toList := by
  rw [ActAlike]
  cases option <;> rfl

theorem actAlike_no_names (options : Options) (option : OptionName) :
    options.ActAlike ('n' :: 'o' :: option.fullName.toList)
      ('n' :: 'o' :: option.shortName.toList) := by
  rw [ActAlike]
  cases option <;> rfl

theorem actAlike_assign (options : Options) (option : OptionName) (value : Text) :
    options.ActAlike (option.fullName.toList ++ '=' :: value)
      (option.shortName.toList ++ '=' :: value) := by
  rw [ActAlike, applyWord, applyWord,
    Setting.ofWord_assign (OptionName.GoesBy.equals_not_mem (Or.inl rfl)),
    Setting.ofWord_assign (OptionName.GoesBy.equals_not_mem (Or.inr rfl))]
  simp only [apply, option.ofText?_fullName, option.ofText?_shortName]
  split <;> rfl

/-! ### All words of a text -/

variable {settings : List Setting} {text : Text} {e : SettingError}

theorem applyEach_eq_ok_iff : options.applyEach settings = (.ok (), after) ↔
    settings.foldlM apply options = .ok after := by
  induction settings generalizing options with
  | nil => simp [applyEach, pure, Except.pure]
  | cons setting rest ih =>
    rw [List.foldlM_cons, applyEach]
    cases options.apply setting with
    | ok next =>
      rw [Outcome.ok_bind]
      exact ih
    | error e =>
      constructor <;> intro h <;> cases h

/-- **Settings are refused** at the first of them that is, and the options are those that the ones
before it give. -/
theorem applyEach_eq_error_iff : options.applyEach settings = (.error e, after) ↔
    ∃ before setting later, settings = before ++ setting :: later ∧
      before.foldlM apply options = .ok after ∧ after.apply setting = .error e := by
  constructor
  · intro h
    cases hall : settings.foldlM apply options with
    | ok last =>
      rw [applyEach_eq_ok_iff.mpr hall] at h
      cases h
    | error e' =>
      obtain ⟨before, setting, later, mid, rfl, hbefore, hrefused⟩ :=
        Outcome.foldlM_eq_error_iff.mp hall
      rw [applyEach_append, applyEach_eq_ok_iff.mpr hbefore] at h
      simp only [applyEach, hrefused] at h
      cases h
      exact ⟨before, setting, later, rfl, hbefore, hrefused⟩
  · rintro ⟨before, setting, later, rfl, hbefore, hrefused⟩
    rw [applyEach_append, applyEach_eq_ok_iff.mpr hbefore]
    simp only [applyEach, hrefused]

theorem applyText_eq_ok_iff : options.applyText text = (.ok (), after) ↔
    text.words.foldlM applyWord options = .ok after := by
  rw [applyText, Setting.ofText, applyEach_eq_ok_iff, List.foldlM_map]
  exact Iff.rfl

theorem applyText_eq_error_iff : options.applyText text = (.error e, after) ↔
    ∃ before word later, text.words = before ++ word :: later ∧
      before.foldlM applyWord options = .ok after ∧ after.applyWord word = .error e := by
  rw [applyText, Setting.ofText, applyEach_eq_error_iff]
  constructor
  · rintro ⟨before, setting, later, hsplit, hbefore, hrefused⟩
    obtain ⟨words, rest, hwords, rfl, hrest⟩ := List.map_eq_append_iff.mp hsplit
    obtain ⟨word, later', rfl, rfl, rfl⟩ := List.map_eq_cons_iff.mp hrest
    rw [List.foldlM_map] at hbefore
    exact ⟨words, word, later', hwords, hbefore, hrefused⟩
  · rintro ⟨before, word, later, hwords, hbefore, hrefused⟩
    refine ⟨before.map .ofWord, .ofWord word, later.map .ofWord, ?_, ?_, hrefused⟩
    · rw [hwords, List.map_append, List.map_cons]
    · rw [List.foldlM_map]
      exact hbefore

/-- **Texts with blanks between them** apply one after the other, as long as nothing is refused. -/
theorem applyText_append {blanks : Text} (hne : blanks ≠ [])
    (hblanks : ∀ c ∈ blanks, Text.isBlank c = true) (first second : Text) :
    options.applyText (first ++ blanks ++ second) =
      match options.applyText first with
      | (.ok _, after) => after.applyText second
      | refused => refused := by
  rw [applyText, Setting.ofText, Text.words_append_blanks hne hblanks, List.map_append,
    applyEach_append]
  rfl

theorem InRange.foldlM {words : List Text} (h : options.InRange)
    (hwords : words.foldlM Options.applyWord options = .ok after) : after.InRange := by
  induction words generalizing options with
  | nil =>
    cases hwords
    exact h
  | cons word rest ih =>
    rw [List.foldlM_cons, Outcome.bind_eq_ok_iff] at hwords
    obtain ⟨next, hword, hrest⟩ := hwords
    exact ih (h.applyWord hword) hrest

/-- **Options stay in range**, whether the text is refused or not. -/
theorem InRange.applyText (h : options.InRange) (text : Text) :
    (options.applyText text).2.InRange := by
  rcases happly : options.applyText text with ⟨⟨⟩ | e, after⟩
  · obtain ⟨before, word, later, -, hbefore, -⟩ := applyText_eq_error_iff.mp happly
    exact h.foldlM hbefore
  · exact h.foldlM (applyText_eq_ok_iff.mp happly)

/-- **Settings apply in order up to the first that is refused.** Options in range stay in range,
whatever the text. If no word of it is refused, all are applied in order. Otherwise the error is that
of the first word that is refused, and the options are those that exactly the words before it give.
Two texts with blanks between them do what the first does and then, unless something in it was
refused, what the second does. A word is accepted exactly if it asks an option, by its full name or
its abbreviation, for a value that it allows; then this option has the value, and the others are left
alone. Whether a word is written with the full name or with the abbreviation makes no difference. -/
theorem settings_apply_in_order (options : Options) :
    ((1 ≤ options.frameColumns ∧ options.frameColumns ≤ 9) ∧ 1 ≤ options.pageLines →
      ∀ text, (1 ≤ (options.applyText text).2.frameColumns ∧
        (options.applyText text).2.frameColumns ≤ 9) ∧ 1 ≤ (options.applyText text).2.pageLines) ∧
    (∀ text after, options.applyText text = (.ok (), after) ↔
      text.words.foldlM applyWord options = .ok after) ∧
    (∀ text e after, options.applyText text = (.error e, after) ↔
      ∃ before word later, text.words = before ++ word :: later ∧
        before.foldlM applyWord options = .ok after ∧ after.applyWord word = .error e) ∧
    (∀ first blanks second : Text, blanks ≠ [] → (∀ c ∈ blanks, Text.isBlank c = true) →
      options.applyText (first ++ blanks ++ second) =
        match options.applyText first with
        | (.ok _, after) => after.applyText second
        | refused => refused) ∧
    (∀ word after, options.applyWord word = .ok after ↔
      ∃ option value, Setting.Asks word option value ∧ option.Allows value ∧
        options.Sets option value after) ∧
    ∀ option : OptionName,
      options.ActAlike option.fullName.toList option.shortName.toList ∧
      options.ActAlike ('n' :: 'o' :: option.fullName.toList)
        ('n' :: 'o' :: option.shortName.toList) ∧
      ∀ value, options.ActAlike (option.fullName.toList ++ '=' :: value)
        (option.shortName.toList ++ '=' :: value) := by
  refine ⟨?_, fun text after => applyText_eq_ok_iff, fun text e after => applyText_eq_error_iff, ?_,
    fun word after => applyWord_eq_ok_iff, ?_⟩
  · intro h text
    exact inRange_iff.mp ((inRange_iff.mpr h).applyText text)
  · intro first blanks second hne hblanks
    exact applyText_append hne hblanks first second
  · intro option
    exact ⟨options.actAlike_names option, options.actAlike_no_names option,
      options.actAlike_assign option⟩

/-- The number of columns is refused in the second text: what stands before it has been applied, by
both texts, and what stands behind it has not. -/
theorem settings_apply_before_bad_columns :
    ((1 ≤ usual.frameColumns ∧ usual.frameColumns ≤ 9) ∧ 1 ≤ usual.pageLines) ∧
      " \t".toList ≠ [] ∧ (∀ c ∈ " \t".toList, Text.isBlank c = true) ∧
      usual.applyText
          ("mfd=5 pl=+30".toList ++ " \t".toList ++ "norectsel mfd=0 pl=40".toList) =
        (.error (.badValue .frameColumns "0".toList), ⟨5, 30, false⟩) ∧
      (1 ≤ (usual.applyText "mfd=5 pl=0".toList).2.frameColumns ∧
        (usual.applyText "mfd=5 pl=0".toList).2.frameColumns ≤ 9) ∧
      1 ≤ (usual.applyText "mfd=5 pl=0".toList).2.pageLines := by
  have husual : (1 ≤ usual.frameColumns ∧ usual.frameColumns ≤ 9) ∧ 1 ≤ usual.pageLines := by
    decide
  have hne : " \t".toList ≠ [] := by decide
  have hblanks : ∀ c ∈ " \t".toList, Text.isBlank c = true := List.all_eq_true.mp (by decide)
  obtain ⟨hrange, hok, -, happend, -⟩ := settings_apply_in_order usual
  obtain ⟨-, -, herror, -⟩ := settings_apply_in_order ⟨5, 30, true⟩
  have hfirst : usual.applyText "mfd=5 pl=+30".toList = (.ok (), ⟨5, 30, true⟩) :=
    (hok _ _).mpr (by decide +kernel)
  have hsecond : (⟨5, 30, true⟩ : Options).applyText "norectsel mfd=0 pl=40".toList =
      (.error (.badValue .frameColumns "0".toList), ⟨5, 30, false⟩) :=
    (herror _ _ _).mpr ⟨["norectsel".toList], "mfd=0".toList, ["pl=40".toList],
      by decide +kernel, by decide +kernel, by decide +kernel⟩
  refine ⟨husual, hne, hblanks, ?_, hrange husual _⟩
  rw [happend _ _ _ hne hblanks, hfirst]
  exact hsecond

end Options

end FrameScript
