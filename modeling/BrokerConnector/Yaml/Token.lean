import BrokerConnector.Yaml.Scalar
import BrokerConnector.Yaml.Tag

/-!
# Tokens

A text is cut into tokens. Indentation becomes explicit: a collection in block form begins with a
token of its own, when its first item stands further to the right than the collection around it, and
ends with another.

Whether a scalar is a key shows only at the colon behind it. A place where a key may begin is
remembered, with the number of tokens in front of it, and the tokens of a key are inserted there
when the colon comes. A key stands on one line and is no longer than 1024 characters. Where a block
mapping goes on, a key is required.
-/

namespace BrokerConnector.Yaml

/-- How a scalar was written. -/
inductive Style where
  | plain
  | quoted
  | literal
  | folded
  deriving DecidableEq, Inhabited

/-- A token. -/
inductive Token where
  | versionDirective (major minor : Nat)
  | tagDirective (handle : String) (start : Tag)
  | documentStart
  | documentEnd
  | blockSequenceStart
  | blockMappingStart
  | blockEnd
  | flowSequenceStart
  | flowSequenceEnd
  | flowMappingStart
  | flowMappingEnd
  | blockEntry
  | flowEntry
  | key
  | value
  | alias (name : String)
  | anchor (name : String)
  | tag (handle : String) (rest : Tag)
  | scalar (text : String) (style : Style)
  deriving DecidableEq, Inhabited

/-- A place where a key may begin. -/
structure PossibleKey where
  place : Place
  /-- How many tokens stand in front. -/
  position : Nat
  /-- Whether nothing but a key may stand there. -/
  required : Bool
  deriving DecidableEq, Inhabited

/-- Whether a possible key is behind its line or too long at a place. -/
def PossibleKey.isStale (key : PossibleKey) (place : Place) : Bool :=
  key.place.line < place.line || key.place.index + 1024 < place.index

/-- A text that is being cut into tokens. -/
structure Lexer where
  source : Source
  tokens : List Token := []
  /-- The columns of the open block collections, the innermost first. -/
  columns : List Nat := []
  /-- The possible key of the text outside every flow collection. -/
  outerKey : Option PossibleKey := none
  /-- The possible keys of the open flow collections, the innermost first. -/
  flowKeys : List (Option PossibleKey) := []
  /-- Whether a key may begin at the next token. -/
  keyAllowed : Bool := true
  deriving DecidableEq, Inhabited

namespace Lexer

/-- Whether the next token stands in a flow collection. -/
def inFlow (lexer : Lexer) : Bool :=
  !lexer.flowKeys.isEmpty

/-- The column of the innermost block collection. -/
def indent (lexer : Lexer) : Int :=
  match lexer.columns with
  | [] => -1
  | column :: _ => column

/-- Appends a token. -/
def emit (lexer : Lexer) (token : Token) : Lexer :=
  { lexer with tokens := lexer.tokens ++ [token] }

/-- Moves the source and lets a key begin at the next token or not. -/
def moveTo (lexer : Lexer) (source : Source) (keyAllowed : Bool) : Lexer :=
  { lexer with source := source, keyAllowed := keyAllowed }

/-- Appends a token that takes up some characters. -/
def take (lexer : Lexer) (token : Token) (length : Nat) (keyAllowed : Bool) : Lexer :=
  (lexer.emit token).moveTo (lexer.source.drop length) keyAllowed

/-! ## Possible keys -/

/-- The possible key of the innermost collection. -/
def possibleKey (lexer : Lexer) : Option PossibleKey :=
  match lexer.flowKeys with
  | [] => lexer.outerKey
  | key :: _ => key

/-- Sets the possible key of the innermost collection. -/
def setKey (lexer : Lexer) (key : Option PossibleKey) : Lexer :=
  match lexer.flowKeys with
  | [] => { lexer with outerKey := key }
  | _ :: others => { lexer with flowKeys := key :: others }

/-- Forgets the possible key. A required key cannot be forgotten. -/
def dropKey (lexer : Lexer) : Option Lexer :=
  if lexer.possibleKey.any (·.required) then none else some (lexer.setKey none)

/-- Remembers that a key may begin here. -/
def saveKey (lexer : Lexer) : Option Lexer :=
  if lexer.keyAllowed then
    lexer.dropKey.map fun lexer =>
      lexer.setKey (some {
        place := lexer.source.place
        position := lexer.tokens.length
        required := !lexer.inFlow && lexer.indent = Int.ofNat lexer.source.column })
  else some lexer

/-- Forgets the possible keys that are stale. A required key cannot be forgotten. -/
def dropStaleKeys (lexer : Lexer) : Option Lexer :=
  let place := lexer.source.place
  let all := lexer.outerKey :: lexer.flowKeys
  if all.any fun key => key.any fun key => key.isStale place && key.required then none
  else
    let fresh (key : Option PossibleKey) := key.filter (!·.isStale place)
    some { lexer with outerKey := fresh lexer.outerKey, flowKeys := lexer.flowKeys.map fresh }

/-! ## Block collections -/

/-- Opens a block collection at a column to the right of the innermost one. Its token stands at a
position among the tokens. -/
def openBlock (lexer : Lexer) (column position : Nat) (token : Token) : Lexer :=
  if !lexer.inFlow && lexer.indent < Int.ofNat column then
    { lexer with
      columns := column :: lexer.columns
      tokens := lexer.tokens.take position ++ token :: lexer.tokens.drop position }
  else lexer

/-- Closes the block collections to the right of a column. -/
def closeBlocks (lexer : Lexer) (column : Int) : Lexer :=
  if lexer.inFlow then lexer
  else
    let isClosed (opened : Nat) : Bool := column < Int.ofNat opened
    let closed := lexer.columns.takeWhile isClosed
    { lexer with
      columns := lexer.columns.dropWhile isClosed
      tokens := lexer.tokens ++ closed.map fun _ => .blockEnd }

/-! ## Indicators -/

/-- The line that begins or ends a document, or a directive: it closes every block. -/
def leaveBlocks (lexer : Lexer) : Option Lexer :=
  (lexer.closeBlocks (-1)).dropKey

/-- The beginning of a flow collection. -/
def openFlow (lexer : Lexer) (token : Token) : Option Lexer := do
  let lexer ← lexer.saveKey
  return { lexer with flowKeys := none :: lexer.flowKeys }.take token 1 true

/-- The end of a flow collection. -/
def closeFlow (lexer : Lexer) (token : Token) : Option Lexer := do
  let lexer ← lexer.dropKey
  return { lexer with flowKeys := lexer.flowKeys.drop 1 }.take token 1 false

/-- The comma between two items of a flow collection. -/
def flowEntry (lexer : Lexer) : Option Lexer := do
  return (← lexer.dropKey).take .flowEntry 1 true

/-- Opens a block collection for an indicator, where one may stand. -/
def openBlockHere (lexer : Lexer) (token : Token) : Option Lexer :=
  if lexer.inFlow then some lexer
  else if lexer.keyAllowed then
    some (lexer.openBlock lexer.source.column lexer.tokens.length token)
  else none

/-- The dash in front of an item of a sequence. -/
def blockEntry (lexer : Lexer) : Option Lexer := do
  let lexer ← lexer.openBlockHere .blockSequenceStart
  return (← lexer.dropKey).take .blockEntry 1 true

/-- The question mark in front of a key. -/
def explicitKey (lexer : Lexer) : Option Lexer := do
  let lexer ← lexer.openBlockHere .blockMappingStart
  return (← lexer.dropKey).take .key 1 !lexer.inFlow

/-- The colon in front of a value. -/
def valueIndicator (lexer : Lexer) : Option Lexer := do
  match lexer.possibleKey with
  | some key =>
    let tokens := lexer.tokens.take key.position ++ .key :: lexer.tokens.drop key.position
    let lexer := { lexer with tokens := tokens }
    let lexer := lexer.openBlock key.place.column key.position .blockMappingStart
    return (lexer.setKey none).take .value 1 false
  | none =>
    let lexer ← lexer.openBlockHere .blockMappingStart
    return lexer.take .value 1 !lexer.inFlow

/-! ## Anchors, tags and directives -/

/-- The characters that may stand right behind the name of an anchor, beside gaps. -/
def endsAnchor (c : Char) : Bool :=
  isGap c || ['?', ':', ',', ']', '}', '%', '@', (Char.ofNat 0x60)].contains c

/-- An anchor or an alias. -/
def anchorOrAlias (lexer : Lexer) (token : String → Token) : Option Lexer := do
  let lexer ← lexer.saveKey
  let (name, source) := (lexer.source.drop 1).span isNameChar
  if name.isEmpty ∨ !(source.rest.head?.all endsAnchor) then none
  else some ((lexer.emit (token (String.ofList name))).moveTo source false)

/-- A tag. -/
def tag (lexer : Lexer) : Option Lexer := do
  let lexer ← lexer.saveKey
  let (handle, rest, source) ← Tag.read lexer.source
  let ended := startsGap source.rest || (lexer.inFlow && source.rest.head? = some ',')
  if ended then some ((lexer.emit (.tag handle rest)).moveTo source false) else none

/-- The number at the front of a source, of at most nine digits. -/
def readNumber (source : Source) : Option (Nat × Source) :=
  let (digits, source) := source.span Char.isDigit
  if digits.isEmpty ∨ 9 < digits.length then none
  else (ofDigits? 10 digits).map fun n => (n, source)

/-- The token of a directive, from its arguments. -/
def readDirective (name : List Char) (source : Source) : Option (Token × Source) := do
  let source := source.skip isBlank
  match String.ofList name with
  | "YAML" =>
    let (major, source) ← readNumber source
    if source.rest.head? ≠ some '.' then none
    else
      let (minor, source) ← readNumber (source.drop 1)
      return (.versionDirective major minor, source)
  | "TAG" =>
    let (handle, source) ← Tag.readHandle source
    if !(handle = ['!'] || Tag.isClosedHandle handle) || !source.rest.head?.any isBlank then none
    else
      let (bytes, source) ← Tag.readBytes true (source.skip isBlank)
      if bytes.isEmpty || !startsGap source.rest then none
      else return (.tagDirective (String.ofList handle) (Tag.ofBytes bytes), source)
  | _ => none

/-- A directive. -/
def directive (lexer : Lexer) : Option Lexer := do
  let lexer ← lexer.leaveBlocks
  let (name, source) := (lexer.source.drop 1).span isNameChar
  if !startsGap source.rest then none
  else
    let (token, source) ← readDirective name source
    return (lexer.emit token).moveTo (← source.endLine?) false

/-! ## Scalars -/

/-- Appends a scalar. -/
def emitScalar (lexer : Lexer) (text : List Char) (style : Style) : Lexer :=
  lexer.emit (.scalar (String.ofList text) style)

/-- A block scalar. -/
def blockScalar (lexer : Lexer) (folded : Bool) : Option Lexer := do
  let lexer ← lexer.dropKey
  let (text, source) ← readBlock folded lexer.indent lexer.source
  return (lexer.emitScalar text (if folded then .folded else .literal)).moveTo source true

/-- A quoted scalar. -/
def quotedScalar (lexer : Lexer) (double : Bool) : Option Lexer := do
  let lexer ← lexer.saveKey
  let (text, source) ← readQuoted double lexer.source
  return (lexer.emitScalar text .quoted).moveTo source false

/-- A plain scalar. -/
def plainScalar (lexer : Lexer) : Option Lexer := do
  let lexer ← lexer.saveKey
  let plain ← readPlain lexer.inFlow (lexer.indent + 1) lexer.source
  return (lexer.emitScalar plain.text .plain).moveTo plain.source plain.endsLine

/-- Whether a plain scalar may begin with a character, with the text behind it. -/
def startsPlain (inFlow : Bool) (c : Char) (rest : List Char) : Bool :=
  if c = '-' then !rest.head?.any isBlank
  else if c = '?' || c = ':' then !inFlow && !startsGap rest
  else !(isGap c || [',', '[', ']', '{', '}', '#', '&', '*', '!', '|', '>', '\x27', '"', '%', '@',
    (Char.ofNat 0x60)].contains c)

/-! ## Cutting -/

/-- Leaves blanks, comments, line breaks and the mark at the front of a line behind. Tabs count as
blanks where no key may begin. Outside flow collections a key may begin on a new line. -/
def skipGaps : Nat → Lexer → Lexer
  | 0, lexer => lexer
  | budget + 1, lexer =>
    let source := lexer.source
    let source :=
      if source.column = 0 && source.rest.head? = some byteOrderMark then source.drop 1 else source
    let tabsToo := lexer.inFlow || !lexer.keyAllowed
    let source := (source.skip fun c => c = ' ' || (tabsToo && c = '\t')).skipComment
    if source.rest.head?.any isBreak then
      skipGaps budget (lexer.moveTo (source.drop 1) (lexer.keyAllowed || !lexer.inFlow))
    else { lexer with source := source }

/-- Cuts the token that begins with a character. -/
def cut (lexer : Lexer) (c : Char) (rest : List Char) : Option Lexer :=
  let source := lexer.source
  let gapNext := startsGap rest
  if source.column = 0 && c = '%' then lexer.directive
  else if source.atDocumentMark then
    lexer.leaveBlocks.map (·.take (if c = '-' then .documentStart else .documentEnd) 3 false)
  else if c = '[' then lexer.openFlow .flowSequenceStart
  else if c = '{' then lexer.openFlow .flowMappingStart
  else if c = ']' then lexer.closeFlow .flowSequenceEnd
  else if c = '}' then lexer.closeFlow .flowMappingEnd
  else if c = ',' then lexer.flowEntry
  else if c = '-' && gapNext then lexer.blockEntry
  else if c = '?' && (lexer.inFlow || gapNext) then lexer.explicitKey
  else if c = ':' && (lexer.inFlow || gapNext) then lexer.valueIndicator
  else if c = '*' then lexer.anchorOrAlias .alias
  else if c = '&' then lexer.anchorOrAlias .anchor
  else if c = '!' then lexer.tag
  else if c = '|' && !lexer.inFlow then lexer.blockScalar false
  else if c = '>' && !lexer.inFlow then lexer.blockScalar true
  else if c = '\x27' then lexer.quotedScalar false
  else if c = '"' then lexer.quotedScalar true
  else if startsPlain lexer.inFlow c rest then lexer.plainScalar
  else none

/-- Cuts tokens until the text ends. Every token but the last takes up a character. -/
def run : Nat → Lexer → Option Lexer
  | 0, _ => none
  | budget + 1, lexer => do
    let lexer := skipGaps (lexer.source.rest.length + 1) lexer
    let lexer ← lexer.dropStaleKeys
    match lexer.source.rest with
    | [] => lexer.leaveBlocks
    | c :: rest =>
      let lexer := lexer.closeBlocks lexer.source.column
      run budget (← lexer.cut c rest)

end Lexer

/-- The tokens of a text. -/
def Token.ofText? (text : String) : Option (List Token) := do
  let source ← Source.ofText? text
  let lexer ← Lexer.run (source.rest.length + 1) { source := source }
  return lexer.tokens

end BrokerConnector.Yaml
