/-!
# The text of a settings file

A text is read from the front with its place: the line, the column and the number of characters in
front of it. Its line breaks are written in one way before it is read, except for the two Unicode
separators, which are breaks that a scalar keeps.
-/

namespace BrokerConnector.Yaml

/-! ## Characters -/

/-- The characters that a file may hold. -/
def isAllowed (c : Char) : Bool :=
  let n := c.toNat
  n == 0x09 || n == 0x0a || n == 0x0d || (0x20 ≤ n && n ≤ 0x7e) || n == 0x85 ||
    (0xa0 ≤ n && n ≤ 0xd7ff) || (0xe000 ≤ n && n ≤ 0xfffd) || 0x10000 ≤ n

/-- The mark that may stand at the front of a line and takes up a column there. -/
def byteOrderMark : Char := '\ufeff'

/-- A line break. -/
def isBreak (c : Char) : Bool :=
  c = '\n' || c = '\u2028' || c = '\u2029'

/-- A space or a tab. -/
def isBlank (c : Char) : Bool :=
  c = ' ' || c = '\t'

/-- What separates words. -/
def isGap (c : Char) : Bool :=
  isBlank c || isBreak c

/-- Whether a gap or nothing follows. -/
def startsGap : List Char → Bool
  | [] => true
  | c :: _ => isGap c

/-- The characters of the names of anchors, tag handles and directives. -/
def isNameChar (c : Char) : Bool :=
  c.isAlphanum || c = '_' || c = '-'

/-- Writes every line break but the two separators as a line feed. -/
def unifyBreaks : List Char → List Char
  | '\r' :: '\n' :: rest => '\n' :: unifyBreaks rest
  | c :: rest => (if c = '\r' ∨ c = '\u0085' then '\n' else c) :: unifyBreaks rest
  | [] => []

/-! ## Places -/

/-- A place in a text. -/
structure Place where
  line : Nat := 0
  column : Nat := 0
  index : Nat := 0
  deriving DecidableEq, Inhabited

/-- The place behind a character. -/
def Place.after (place : Place) (c : Char) : Place :=
  if isBreak c then { line := place.line + 1, column := 0, index := place.index + 1 }
  else { place with column := place.column + 1, index := place.index + 1 }

/-- The rest of a text with its place. -/
structure Source where
  rest : List Char
  place : Place := {}
  deriving DecidableEq, Inhabited

namespace Source

/-- The text of a file, if the file holds allowed characters only. -/
def ofText? (text : String) : Option Source :=
  let chars := text.toList
  if chars.all isAllowed then some { rest := unifyBreaks chars } else none

/-- The column of the place. -/
def column (source : Source) : Nat :=
  source.place.column

/-- Leaves characters behind. -/
def drop (source : Source) (count : Nat) : Source where
  rest := source.rest.drop count
  place := (source.rest.take count).foldl Place.after source.place

/-- The characters up to the first that does not have a property, and the text behind them. -/
def span (source : Source) (p : Char → Bool) : List Char × Source :=
  let taken := source.rest.takeWhile p
  (taken, source.drop taken.length)

/-- Leaves the characters behind up to the first that does not have a property. -/
def skip (source : Source) (p : Char → Bool) : Source :=
  (source.span p).2

/-- Whether a text comes next. -/
def startsWith (source : Source) (text : List Char) : Bool :=
  text.isPrefixOf source.rest

/-- Whether a line comes next that begins or ends a document. -/
def atDocumentMark (source : Source) : Bool :=
  source.column = 0 &&
    (source.startsWith ['-', '-', '-'] || source.startsWith ['.', '.', '.']) &&
    startsGap (source.rest.drop 3)

/-- Leaves a comment behind, if one comes next. -/
def skipComment (source : Source) : Source :=
  if source.rest.head? = some '#' then source.skip (!isBreak ·) else source

/-- Leaves the rest of a line behind in which nothing but a comment may stand. -/
def endLine? (source : Source) : Option Source :=
  let source := (source.skip isBlank).skipComment
  match source.rest with
  | [] => some source
  | c :: _ => if isBreak c then some (source.drop 1) else none

end Source

end BrokerConnector.Yaml
