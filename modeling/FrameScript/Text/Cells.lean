import FrameScript.Text.Cells.Ligature

/-!
# Display cells of a text

The cells a text takes on a fixed-pitch display are the sum of the cells of its characters, with
these exceptions: a carriage return before a line feed takes none; an emoji sequence (pictures
joined by joiners, a picture and its skin tone, a picturable character and an emoji selector)
takes two in all; a picture before a text selector takes one; a quotation mark before its full
width selector takes two; and ligatures take the cells of one letter. The cells of a piece cut out
of a sequence are those of the piece as it stands.

## Implementation notes

All these rules look to the right: what a character adds depends on what follows it. So the text
is folded from its end, and `Measure` holds the cells so far together with the little that has to
be known about what stands there. A sequence can take back a cell that was counted too early,
which is why the fold adds integers.

A variation selector waits for the character to its left. What stands behind it is forgotten, with
two exceptions: the tail of a ligature, which the selector may separate from its first letter, and
a joiner or keycap, which an emoji selector may precede. Selectors in front of a ligature add up;
everywhere else a selector replaces the one to its right.
-/

namespace FrameScript.Text

/-- The part of an emoji sequence that has been met between a joiner and the next character. -/
inductive JoinedPart
  /-- Nothing but the joiner. -/
  | nothing
  /-- An enclosing keycap. -/
  | keycap
  /-- One regional indicator. -/
  | indicator
  /-- Two or more regional indicators; the flag says whether their number is even. -/
  | indicators (even : Bool)
  /-- A tag terminator with so many tag letters, and left of them so many tag digits. -/
  | tags (letters digits : Nat)
deriving DecidableEq, Repr

/-- What stands to the right of the character to be measured next. -/
inductive Neighbour
  | plain
  | lineFeed
  /-- An emoji, or an emoji sequence that is complete. -/
  | picture
  | skinTone
  /-- Regional indicators, one or several. -/
  | regional (several : Bool)
  /-- An emoji sequence that begins with a joiner, and a part of what is joined to it. -/
  | joined (part : JoinedPart)
  /-- The tail of a ligature, and whether a joiner stands before it. -/
  | ligature (tail : LigatureTail) (linked : Bool)
deriving DecidableEq, Repr

/-- A variation selector that is waiting for its character. -/
inductive Selector
  | emoji
  | text
  /-- The selector of the full width form of a quotation mark. -/
  | fullWidth
deriving DecidableEq, Repr

/-- The selector that a character is. -/
def Selector.ofChar? (c : Char) : Option Selector :=
  match c.toNat with
  | 0xFE0F => some .emoji
  | 0xFE0E => some .text
  | 0xFE01 => some .fullWidth
  | _ => none

/-- Whether a character is a quotation mark with a full width form. -/
def isCurlyQuote (c : Char) : Bool :=
  match c.toNat with
  | 0x2018 | 0x2019 | 0x201C | 0x201D => true
  | _ => false

namespace Neighbour

/-- What a character on its own is to the characters before it. -/
def ofChar (c : Char) : Neighbour :=
  if isSkinTone c then .skinTone
  else if isRegional c then .regional false
  else if isPicture c then .picture
  else
    match LigatureTail.ofChar? c with
    | some tail => .ligature tail false
    | none => .plain

/-- A character measured on its own. -/
def alone (c : Char) : Int × Neighbour := (charCells c, ofChar c)

/-- Whether selectors may stand between the neighbour and the rest of its ligature. -/
def passesSelectors : Neighbour → Bool
  | ligature tail _ => tail.passesSelectors
  | _ => false

/-- Whether a picturable character with an emoji selector becomes part of the sequence to its
right instead of taking cells of its own. -/
def absorbsPicture : Neighbour → Bool
  | joined .nothing | joined .keycap => true
  | _ => false

/-- The neighbour that a joiner or an invisible mark leaves in place, if it is one that does. -/
def throughMark? (right : Neighbour) (c : Char) : Option Neighbour :=
  match right with
  | ligature tail linked =>
    if !tail.passesMarks then none
    else if c = joinerChar then some (.ligature tail true)
    else if LigatureTail.ignorableMarkTable.has c then some (.ligature tail linked)
    else none
  | _ => none

/-- Tag characters that stand for a letter. -/
def isTagLetter (c : Char) : Bool := 0xE0061 ≤ c.toNat && c.toNat ≤ 0xE007A

/-- Tag characters that stand for a digit. -/
def isTagDigit (c : Char) : Bool := 0xE0030 ≤ c.toNat && c.toNat ≤ 0xE0039

/-- What a character adds when an emoji sequence with a joiner stands to its right. -/
def meetJoined (part : JoinedPart) (c : Char) : Int × Neighbour :=
  match part with
  | .nothing =>
    if c.toNat = 0x20E3 then (0, .joined .keycap)
    else if isRegional c then (1, .joined .indicator)
    else if isSkinTone c then (0, .skinTone)
    else if c.toNat = 0xE007F then (0, .joined (.tags 0 0))
    else if isPicture c then (0, .picture)
    else alone c
  | .keycap => alone c
  | .indicator => if isRegional c then (-1, .joined (.indicators true)) else alone c
  | .indicators even =>
    if c = joinerChar then (0, .joined .nothing)
    else if isRegional c then (if even then 3 else -1, .joined (.indicators !even))
    else alone c
  | .tags letters digits =>
    if isTagLetter c && digits = 0 && letters < 6 then (0, .joined (.tags (letters + 1) 0))
    else if isTagDigit c && (if digits = 0 then letters ≤ 4 else digits < 3) then
      (0, .joined (.tags letters (digits + 1)))
    else if c.toNat = 0x1F3F4 && (if digits = 0 then 3 ≤ letters else digits = 3) then
      (0, .picture)
    else alone c

/-- What a letter or symbol adds to the cells of the text to its right, and what it is to the
character before it. -/
def meet (right : Neighbour) (c : Char) : Int × Neighbour :=
  match right with
  | plain | lineFeed => alone c
  | picture => if c = joinerChar then (0, .joined .nothing) else alone c
  | skinTone =>
    if isTonable c then (0, .picture)
    else if c = joinerChar then (0, .joined .nothing)
    else alone c
  | regional several =>
    if isRegional c then (1, .regional true)
    else if several && c = joinerChar then (0, .joined .nothing)
    else alone c
  | joined part => meetJoined part c
  | ligature tail linked =>
    match tail.join linked c with
    | some (cells, some next) => (cells, .ligature next false)
    | some (cells, none) => (cells, .plain)
    | none => alone c

end Neighbour

/-- The state of measuring a text from its end. -/
structure Measure where
  /-- The cells of what has been measured. -/
  cells : Int
  /-- The selectors that are waiting for their character. -/
  waiting : List Selector
  right : Neighbour
deriving DecidableEq, Repr

namespace Measure

/-- Nothing measured yet. -/
def start : Measure := ⟨0, [], .plain⟩

/-- The measure after one more character to the left has added some cells. -/
def add (m : Measure) (step : Int × Neighbour) : Measure := ⟨m.cells + step.1, [], step.2⟩

/-- The measure with a selector waiting. -/
def await (m : Measure) (s : Selector) : Measure :=
  if m.right.passesSelectors then { m with waiting := s :: m.waiting }
  else if s = .emoji && m.right.absorbsPicture then { m with waiting := [s] }
  else ⟨m.cells, [s], .plain⟩

/-- The measure after a selector has met a character that it does not apply to. -/
def giveUp (m : Measure) (s : Selector) : Measure :=
  if m.right.passesSelectors then { m with waiting := m.waiting.filter (· ≠ s) }
  else ⟨m.cells, [], .plain⟩

/-- One more letter, symbol or mark to the left, to which no selector applies. -/
def pushPlain (c : Char) (m : Measure) : Measure :=
  match m.right.throughMark? c with
  | some right => { m with right }
  | none => m.add (if m.waiting = [] then m.right.meet c else Neighbour.alone c)

/-- One more character to the left, beyond the no-break space, for which no emoji selector is
waiting. -/
def pushBeyond (c : Char) (m : Measure) : Measure :=
  match Selector.ofChar? c with
  | some s => m.await s
  | none =>
    if .text ∈ m.waiting then
      if hasTextForm c then m.add (1, .plain) else (m.giveUp .text).pushPlain c
    else if .fullWidth ∈ m.waiting then
      if isCurlyQuote c then m.add (2, .plain) else (m.giveUp .fullWidth).pushPlain c
    else m.pushPlain c

/-- One more character to the left, for which no emoji selector is waiting. -/
def pushUnpictured (c : Char) (m : Measure) : Measure :=
  if c = '\n' then m.add (1, .lineFeed)
  else if c = '\r' && m.right = .lineFeed then m.add (0, .plain)
  else if c.toNat ≤ 0xA0 then m.add (1, .plain)
  else m.pushBeyond c

/-- One more character to the left. -/
def push (c : Char) (m : Measure) : Measure :=
  if .emoji ∈ m.waiting then
    if isPicturable c then m.add (if m.right.absorbsPicture then 0 else 2, .picture)
    else (m.giveUp .emoji).pushUnpictured c
  else m.pushUnpictured c

end Measure

/-- The display cells of a text. -/
def cells (t : Text) : Nat := (t.foldr Measure.push Measure.start).cells.toNat

-- to columns the cells are what `Display` says of them
attribute [irreducible] cells

end FrameScript.Text
