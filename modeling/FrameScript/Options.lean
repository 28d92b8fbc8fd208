import FrameScript.ActionLine.Basic
import FrameScript.Navigation.PlainText
import FrameScript.Text.Quoted

/-!
# Options

What navigation depends on, and the settings text that changes it: words separated by blanks, each
of which switches an option on (`name`) or off (`noname`) or gives it a number (`name=value`).
Every option has a full name and an abbreviation.

A settings text is applied word by word, up to the first word that is refused; what was applied
before it stays.
-/

namespace FrameScript

/-! ### Names -/

/-- The options. -/
inductive OptionName
  /-- The columns of the frame count field. -/
  | frameColumns
  /-- The lines of a page. -/
  | pageLines
  /-- Whether rectangles can be selected. -/
  | rectangles
deriving DecidableEq, Repr

namespace OptionName

/-- The full name. -/
def fullName : OptionName → String
  | frameColumns => "maxframesdigits"
  | pageLines => "pagelines"
  | rectangles => "rectangularselection"

/-- The abbreviation. -/
def shortName : OptionName → String
  | frameColumns => "mfd"
  | pageLines => "pl"
  | rectangles => "rectsel"

/-- The option of a full name or an abbreviation. -/
def ofText? (name : Text) : Option OptionName :=
  [frameColumns, pageLines, rectangles].find? fun option =>
    name = option.fullName.toList ∨ name = option.shortName.toList

/-- Whether the option is switched on and off. The others take a number. -/
def isSwitch : OptionName → Bool
  | rectangles => true
  | _ => false

theorem ofText?_fullName (option : OptionName) :
    ofText? option.fullName.toList = some option := by cases option <;> decide

theorem ofText?_shortName (option : OptionName) :
    ofText? option.shortName.toList = some option := by cases option <;> decide

end OptionName

/-- Whether a text names an option that is switched on and off. -/
def namesSwitch (name : Text) : Bool := (OptionName.ofText? name).any OptionName.isSwitch

/-- Whether a text names an option that takes a number. -/
def namesNumber (name : Text) : Bool := (OptionName.ofText? name).any (! ·.isSwitch)

/-! ### Settings -/

/-- A word of a settings text. -/
inductive Setting
  | on (name : Text)
  | off (name : Text)
  | assign (name value : Text)
deriving DecidableEq, Repr

namespace Setting

/-- What follows `no` in a text that begins so. -/
def afterNo? : Text → Option Text
  | 'n' :: 'o' :: rest => some rest
  | _ => none

/-- Reads a word of a settings text. Every word is a setting; whether there is such an option is
seen when it is applied. A word beginning with `no` switches off only if the rest names a switch. -/
def ofWord (word : Text) : Setting :=
  match word.dropWhile (· ≠ '=') with
  | _ :: value => assign (word.takeWhile (· ≠ '=')) value
  | [] =>
    match afterNo? word with
    | some name => if namesSwitch name then off name else on word
    | none => on word

/-- Reads a settings text. -/
def ofText (text : Text) : List Setting := text.words.map ofWord

end Setting

/-- Why a setting is refused. -/
inductive SettingError
  /-- There is no option of this name. -/
  | unknown (name : Text)
  /-- The option takes a number. -/
  | noSwitch (name : Text)
  /-- The option is a switch. -/
  | noNumber (name : Text)
  /-- The value is no number, or outside the range of the option. -/
  | badValue (option : OptionName) (value : Text)
deriving DecidableEq, Repr

/-- The reason in words. -/
def SettingError.message : SettingError → Text
  | unknown name => "unknown option: ".toList ++ name
  | noSwitch name => "option ".toList ++ name ++ " is not a boolean".toList
  | noNumber name => "option ".toList ++ name ++ " is not numeric".toList
  | badValue option value =>
    "invalid value ".toList ++ value.quote ++ " for ".toList ++ option.fullName.toList

/-- Reads a number that fits 64 bits: digits, with a plus sign before them or not. -/
def readNumber? (value : Text) : Option Nat :=
  let digits :=
    match value with
    | '+' :: rest => rest
    | rest => rest
  if digits = [] ∨ ¬ digits.all Char.isDigit then none
  else
    let n := Decimal.digitsValue digits
    if n < UInt64.size then some n else none

/-! ### Options and their changes -/

/-- What the options are set to. -/
structure Options where
  frameColumns : Nat
  pageLines : Nat
  rectangles : Bool
deriving DecidableEq, Repr

namespace Options

/-- The usual options. -/
def usual : Options := ⟨FrameWidth.usual, PlainText.usualPageLines, true⟩

instance : Inhabited Options := ⟨usual⟩

/-- Gives an option a number; `none` if the option is a switch or the number is out of range. -/
def assign? (options : Options) (option : OptionName) (n : Nat) : Option Options :=
  match option with
  | .frameColumns =>
    if 1 ≤ n ∧ n ≤ FrameWidth.limit then some { options with frameColumns := n } else none
  | .pageLines => if 1 ≤ n then some { options with pageLines := n } else none
  | .rectangles => none

/-- Switches an option on or off. -/
def switch (options : Options) (name : Text) (value : Bool) : Except SettingError Options :=
  match OptionName.ofText? name with
  | none => .error (.unknown name)
  | some .rectangles => .ok { options with rectangles := value }
  | some _ => .error (.noSwitch name)

/-- Applies a setting. -/
def apply (options : Options) : Setting → Except SettingError Options
  | .on name => options.switch name true
  | .off name => options.switch name false
  | .assign name value =>
    match OptionName.ofText? name with
    | none => .error (.unknown name)
    | some option =>
      if option.isSwitch then .error (.noNumber name)
      else
        match (readNumber? value).bind (options.assign? option) with
        | some after => .ok after
        | none => .error (.badValue option value)

/-- Applies settings up to the first that is refused. The options after that stand beside the
answer. -/
def applyEach (options : Options) : List Setting → Except SettingError Unit × Options
  | [] => (.ok (), options)
  | setting :: rest =>
    match options.apply setting with
    | .ok after => after.applyEach rest
    | .error e => (.error e, options)

/-- Applies a settings text. -/
def applyText (options : Options) (text : Text) : Except SettingError Unit × Options :=
  options.applyEach (Setting.ofText text)

/-- Settings in two parts apply like the first part and then, if nothing in it is refused, the
second. -/
theorem applyEach_append (options : Options) (first second : List Setting) :
    options.applyEach (first ++ second) =
      match options.applyEach first with
      | (.ok _, after) => after.applyEach second
      | refused => refused := by
  induction first generalizing options with
  | nil => rfl
  | cons setting rest ih =>
    simp only [List.cons_append, applyEach]
    cases options.apply setting with
    | ok after => exact ih after
    | error e => rfl

end Options

end FrameScript
