import FrameScript.Text.Cells.Single

/-!
# Letters drawn together

In some scripts two letters are drawn as one, so that together they take the cells of one. A line
is measured from its end to its start; when the second letter of such a pair has been measured,
`LigatureTail` remembers it, and `LigatureTail.join` says what the character before it does.
What may stand between the two letters depends on the script: in Arabic any transparent character,
in Kirat Rai nothing, and elsewhere invisible marks and joiners.
-/

namespace FrameScript.Text

/-- The zero-width joiner. -/
def joinerChar : Char := Char.ofNat 0x200D

/-- The second letter of a possible ligature. -/
inductive LigatureTail
  /-- Arabic alef, drawn together with a lam before it. -/
  | alef
  /-- Hebrew lamed, drawn together with an alef joined to it. -/
  | lamed
  /-- A Khmer letter, drawn below the letter before it if a coeng sign precedes. -/
  | khmer
  /-- Buginese ya. -/
  | ya
  /-- Buginese ya and the vowel sign joined to it. -/
  | yaWithVowel
  /-- A Tifinagh consonant. -/
  | tifinagh
  /-- A Tifinagh consonant after the consonant joiner of its script. -/
  | tifinaghJoined
  /-- One of the two Lisu letters that end a tone letter. -/
  | lisu
  /-- Old Turkic i. -/
  | orkhonI
  /-- The Kirat Rai vowel sign e. -/
  | kiratE
  /-- The Kirat Rai vowel sign ai, or the two signs it consists of. -/
  | kiratAi
deriving DecidableEq, Repr

namespace LigatureTail

/-- Arabic letters of the joining group lam. -/
def lamTable : CodeTable :=
  [(0x0644, 0x0644), (0x06B5, 0x06B8), (0x076A, 0x076A), (0x08A6, 0x08A6), (0x08C7, 0x08C7)]

/-- Arabic letters of the joining group alef. -/
def alefTable : CodeTable :=
  [(0x0622, 0x0623), (0x0625, 0x0625), (0x0627, 0x0627), (0x0671, 0x0673), (0x0675, 0x0675),
    (0x0773, 0x0774), (0x0870, 0x0882)]

/-- Khmer letters that a coeng sign puts below the letter before it without taking room. -/
def khmerTable : CodeTable :=
  [(0x1780, 0x1782), (0x1784, 0x1787), (0x1789, 0x178C), (0x178E, 0x1793), (0x1795, 0x1798),
    (0x179B, 0x179D), (0x17A0, 0x17A0), (0x17A2, 0x17A2), (0x17A7, 0x17A7), (0x17AB, 0x17AC),
    (0x17AF, 0x17AF)]

/-- Tifinagh consonants. -/
def tifinaghTable : CodeTable := [(0x2D31, 0x2D65), (0x2D6F, 0x2D6F)]

/-- Invisible marks that may stand inside a ligature. -/
def ignorableMarkTable : CodeTable :=
  [(0x034F, 0x034F), (0x17B4, 0x17B5), (0x180B, 0x180D), (0x180F, 0x180F), (0xFE00, 0xFE0F),
    (0xE0100, 0xE01EF)]

/-- Characters without cells that nevertheless interrupt the joining of Arabic letters: those
that are not nonspacing, enclosing or format characters, and the joiners. -/
def interruptingTable : CodeTable :=
  [ (0x0605, 0x0605), (0x0890, 0x0891), (0x08E2, 0x08E2), (0x09BE, 0x09BE), (0x09D7, 0x09D7),
    (0x0B3E, 0x0B3E), (0x0B57, 0x0B57), (0x0BBE, 0x0BBE), (0x0BD7, 0x0BD7), (0x0CC0, 0x0CC0),
    (0x0CC2, 0x0CC2), (0x0CC7, 0x0CC8), (0x0CCA, 0x0CCB), (0x0CD5, 0x0CD6), (0x0D3E, 0x0D3E),
    (0x0D4E, 0x0D4E), (0x0D57, 0x0D57), (0x0DCF, 0x0DCF), (0x0DDF, 0x0DDF), (0x1715, 0x1715),
    (0x1734, 0x1734), (0x180E, 0x180E), (0x1B35, 0x1B35), (0x1B3B, 0x1B3B), (0x1B3D, 0x1B3D),
    (0x1B43, 0x1B44), (0x1BAA, 0x1BAA), (0x1BF2, 0x1BF3), (0x200C, 0x200D), (0x2065, 0x2069),
    (0x302E, 0x302F), (0x3164, 0x3164), (0xA8FA, 0xA8FA), (0xA953, 0xA953), (0xA9C0, 0xA9C0),
    (0xFFA0, 0xFFA0), (0xFFF0, 0xFFF8), (0x111C0, 0x111C0), (0x111C2, 0x111C3),
    (0x11235, 0x11235), (0x1133E, 0x1133E), (0x1134D, 0x1134D), (0x11357, 0x11357),
    (0x113B8, 0x113B8), (0x113C2, 0x113C2), (0x113C5, 0x113C5), (0x113C7, 0x113C9),
    (0x113CF, 0x113CF), (0x113D1, 0x113D1), (0x114B0, 0x114B0), (0x114BD, 0x114BD),
    (0x115AF, 0x115AF), (0x116B6, 0x116B6), (0x11930, 0x11930), (0x1193D, 0x1193D),
    (0x1193F, 0x1193F), (0x11941, 0x11941), (0x11A84, 0x11A89), (0x11D46, 0x11D46),
    (0x11F02, 0x11F02), (0x11F41, 0x11F41), (0x16FF0, 0x16FF1), (0x1D165, 0x1D166),
    (0x1D16D, 0x1D172), (0xE0000, 0xE0000), (0xE0002, 0xE001F), (0xE0080, 0xE00FF),
    (0xE01F0, 0xE0FFF) ]

/-- Whether a character between two Arabic letters leaves them joined. -/
def isTransparent (c : Char) : Bool :=
  charCells c = 0 && !isInnerJamo c && !interruptingTable.has c

/-- Whether a variation selector may stand between the letters of a ligature. -/
def passesSelectors : LigatureTail → Bool
  | kiratE | kiratAi => false
  | _ => true

/-- Whether invisible marks and joiners may stand between the letters of a ligature. -/
def passesMarks : LigatureTail → Bool
  | alef | kiratE | kiratAi => false
  | _ => true

/-- The ligature that a character may be the second letter of. -/
def ofChar? (c : Char) : Option LigatureTail :=
  if alefTable.has c then some .alef
  else if khmerTable.has c then some .khmer
  else if tifinaghTable.has c then some .tifinagh
  else
    match c.toNat with
    | 0x05DC => some .lamed
    | 0x1A10 => some .ya
    | 0xA4FC | 0xA4FD => some .lisu
    | 0x10C03 => some .orkhonI
    | 0x16D67 => some .kiratE
    | 0x16D68 => some .kiratAi
    | _ => none

/-- What a character before the tail of a ligature adds to the cells measured so far, and the
ligature that goes on to its left. The flag says whether a zero-width joiner stands between.
`none` if the two do not go together. -/
def join (tail : LigatureTail) (joined : Bool) (c : Char) : Option (Int × Option LigatureTail) :=
  match tail, c.toNat with
  | .alef, _ =>
    if lamTable.has c then some (0, none)
    else if isTransparent c then some (0, some .alef)
    else none
  | .lamed, 0x05D0 => if joined then some (0, none) else none
  | .khmer, 0x17D2 => some (-1, none)
  | .ya, 0x1A17 => if joined then some (0, some .yaWithVowel) else none
  | .yaWithVowel, 0x1A15 => some (0, none)
  | .tifinagh, 0x2D7F => some (1, some .tifinaghJoined)
  | .tifinagh, _ => if joined && tifinaghTable.has c then some (0, none) else none
  | .tifinaghJoined, _ => if tifinaghTable.has c then some (-1, none) else none
  | .lisu, n => if 0xA4F8 ≤ n ∧ n ≤ 0xA4FB then some (0, none) else none
  | .orkhonI, 0x10C32 => if joined then some (0, none) else none
  | .kiratE, 0x16D63 | .kiratE, 0x16D69 | .kiratAi, 0x16D63 => some (0, none)
  | .kiratE, 0x16D67 => some (0, some .kiratAi)
  | .kiratE, 0x16D68 => some (1, some .kiratE)
  | _, _ => none

end LigatureTail

end FrameScript.Text
