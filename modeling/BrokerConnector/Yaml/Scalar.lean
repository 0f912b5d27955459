import BrokerConnector.Yaml.Source

/-!
# Scalars

A scalar is plain, quoted or a block of lines. Line breaks inside plain and quoted scalars are
folded: a single one is a space, of several the first is dropped. Each reader begins at the scalar
and gives its text with the source behind it.
-/

namespace BrokerConnector.Yaml

/-- What a gap inside a plain or quoted scalar stands for. Blanks next to a break are dropped. -/
def foldGap (gap : List Char) : List Char :=
  match gap.filter isBreak with
  | [] => gap
  | ['\n'] => [' ']
  | '\n' :: others => others
  | breaks => breaks

/-! ## Plain scalars -/

/-- The characters that end a plain scalar in a flow collection. -/
def isFlowIndicator (c : Char) : Bool :=
  c = ',' || c = '[' || c = ']' || c = '{' || c = '}'

/-- The characters of a plain scalar up to a gap, the colon behind a key or, in a flow collection,
an indicator. There a colon right before an indicator is refused. -/
def plainChunk (inFlow : Bool) : List Char → Option (List Char)
  | [] => some []
  | c :: rest =>
    let next := rest.head?
    if isGap c then some []
    else if inFlow && c = ':' && (next.any isFlowIndicator || next = some '?') then none
    else if c = ':' && startsGap rest then some []
    else if inFlow && isFlowIndicator c then some []
    else (plainChunk inFlow rest).map (c :: ·)

/-- Whether a tab stands left of a column in a line that begins in the gap. -/
def tabLeftOf (indent : Int) (place : Place) (inLine : Bool) : List Char → Bool
  | [] => false
  | c :: rest =>
    (inLine && c = '\t' && Int.ofNat place.column < indent) ||
      tabLeftOf indent (place.after c) (inLine || isBreak c) rest

/-- A plain scalar. -/
structure Plain where
  text : List Char
  source : Source
  /-- Whether a line break stands right behind the scalar. -/
  endsLine : Bool
  deriving DecidableEq, Inhabited

/-- Reads the chunks of a plain scalar, the first behind a gap. In a block the lines of a scalar
begin at `indent` or further to the right. -/
def readPlainFrom (inFlow : Bool) (indent : Int) : Nat → List Char → Source → Option Plain
  | 0, _, _ => none
  | budget + 1, gap, source =>
    let stop : Plain := ⟨[], source, gap.any isBreak⟩
    if source.atDocumentMark || source.rest.head? = some '#' then some stop
    else
      match plainChunk inFlow source.rest with
      | none => none
      | some [] => some stop
      | some chunk =>
        let text := foldGap gap ++ chunk
        let source := source.drop chunk.length
        let (gap, behind) := source.span isGap
        if gap.isEmpty then some ⟨text, source, false⟩
        else if tabLeftOf indent source.place false gap then none
        else if !inFlow && Int.ofNat behind.column < indent then
          some ⟨text, behind, gap.any isBreak⟩
        else (readPlainFrom inFlow indent budget gap behind).map fun plain =>
          { plain with text := text ++ plain.text }

/-- Reads a plain scalar. -/
def readPlain (inFlow : Bool) (indent : Int) (source : Source) : Option Plain :=
  readPlainFrom inFlow indent (source.rest.length + 1) [] source

/-! ## Quoted scalars -/

/-- What a character behind a backslash stands for. -/
inductive Escape where
  | char (c : Char)
  /-- The code of a character in this many hexadecimal digits follows. -/
  | code (digits : Nat)
  deriving DecidableEq, Inhabited

/-- The escapes of a double quoted scalar. -/
def escape? (c : Char) : Option Escape :=
  match c with
  | '0' => some (.char (Char.ofNat 0))
  | 'a' => some (.char '\x07')
  | 'b' => some (.char '\x08')
  | 't' | '\t' => some (.char '\t')
  | 'n' => some (.char '\n')
  | 'v' => some (.char '\x0b')
  | 'f' => some (.char '\x0c')
  | 'r' => some (.char '\r')
  | 'e' => some (.char '\x1b')
  | ' ' => some (.char ' ')
  | '"' => some (.char '"')
  | '/' => some (.char '/')
  | '\\' => some (.char '\\')
  | 'N' => some (.char '\u0085')
  | '_' => some (.char '\u00a0')
  | 'L' => some (.char '\u2028')
  | 'P' => some (.char '\u2029')
  | 'x' => some (.code 2)
  | 'u' => some (.code 4)
  | 'U' => some (.code 8)
  | _ => none

/-- The value of a digit in a base up to sixteen. -/
def digit? (base : Nat) (c : Char) : Option Nat :=
  let value :=
    if '0' ≤ c ∧ c ≤ '9' then some (c.toNat - '0'.toNat)
    else if 'a' ≤ c ∧ c ≤ 'f' then some (c.toNat - 'a'.toNat + 10)
    else if 'A' ≤ c ∧ c ≤ 'F' then some (c.toNat - 'A'.toNat + 10)
    else none
  value.filter (· < base)

/-- The number that digits stand for. -/
def ofDigits? (base : Nat) (digits : List Char) : Option Nat :=
  digits.foldlM (fun n c => (digit? base c).map (base * n + ·)) 0

/-- The character with a code, if there is one. -/
def ofCode? (code : Nat) : Option Char :=
  if code.isValidChar then some (Char.ofNat code) else none

/-- The character that an escape stands for, with the number of characters behind the backslash. -/
def readEscape : List Char → Option (Char × Nat)
  | [] => none
  | c :: rest =>
    match escape? c with
    | none => none
    | some (.char c) => some (c, 1)
    | some (.code count) =>
      if rest.length < count then none
      else do
        let c ← ofCode? (← ofDigits? 16 (rest.take count))
        return (c, count + 1)

/-- Reads the inside of a quoted scalar and the quote behind it. -/
def readQuotedFrom (double : Bool) : Nat → Source → Option (List Char × Source)
  | 0, _ => none
  | budget + 1, source =>
    if source.atDocumentMark then none
    else
      match source.rest with
      | [] => none
      | c :: rest =>
        if isGap c then
          let (gap, source) := source.span isGap
          (readQuotedFrom double budget source).map fun (text, source) =>
            (foldGap gap ++ text, source)
        else if !double && c = '\x27' then
          if rest.head? = some '\x27' then
            (readQuotedFrom double budget (source.drop 2)).map fun (text, source) =>
              ('\x27' :: text, source)
          else some ([], source.drop 1)
        else if double && c = '"' then some ([], source.drop 1)
        else if double && c = '\\' then
          if rest.head?.any isBreak then
            let (gap, source) := (source.drop 2).span isGap
            (readQuotedFrom double budget source).map fun (text, source) =>
              (gap.filter isBreak ++ text, source)
          else
            match readEscape rest with
            | none => none
            | some (c, count) =>
              (readQuotedFrom double budget (source.drop (count + 1))).map fun (text, source) =>
                (c :: text, source)
        else
          (readQuotedFrom double budget (source.drop 1)).map fun (text, source) =>
            (c :: text, source)

/-- Reads a quoted scalar. -/
def readQuoted (double : Bool) (source : Source) : Option (List Char × Source) :=
  readQuotedFrom double source.rest.length (source.drop 1)

/-! ## Block scalars -/

/-- What a block scalar keeps of the breaks behind its last line. -/
inductive Chomping where
  | strip
  | clip
  | keep
  deriving DecidableEq, Inhabited

/-- The chomping that a character asks for. -/
def chomping? (c : Char) : Option Chomping :=
  if c = '-' then some .strip else if c = '+' then some .keep else none

/-- The indentation that a digit asks for. Zero is refused. -/
def increment? (c : Char) : Option Nat :=
  (digit? 10 c).filter (0 < ·)

/-- The chomping and the indentation that stand behind the indicator, in either order, with the
number of their characters. -/
def readBlockHeader : List Char → Option (Chomping × Option Nat × Nat)
  | [] => some (.clip, none, 0)
  | c :: rest =>
    match chomping? c with
    | some chomping =>
      match rest with
      | d :: _ =>
        if d.isDigit then (increment? d).map fun increment => (chomping, some increment, 2)
        else some (chomping, none, 1)
      | [] => some (chomping, none, 1)
    | none =>
      if c.isDigit then do
        let increment ← increment? c
        match rest.head?.bind chomping? with
        | some chomping => return (chomping, some increment, 2)
        | none => return (.clip, some increment, 1)
      else some (.clip, none, 0)

/-- The breaks of empty lines, with the source at the first line that is not empty, behind its
indentation. Without an indentation all its spaces are left behind, and the deepest column that was
seen is told. A tab in the place of the indentation is refused. -/
def readEmptyLines (indent : Option Nat) :
    Nat → Nat → Source → Option (List Char × Nat × Source)
  | 0, _, _ => none
  | budget + 1, deepest, source =>
    let spaces := (source.rest.takeWhile (· = ' ')).length
    let source :=
      match indent with
      | none => source.drop spaces
      | some column => source.drop (min spaces (column - source.column))
    let deepest := max deepest source.column
    let inIndentation := indent.all (source.column < ·)
    match source.rest with
    | [] => some ([], deepest, source)
    | c :: _ =>
      if inIndentation && c = '\t' then none
      else if isBreak c then
        (readEmptyLines indent budget deepest (source.drop 1)).map
          fun (breaks, deepest, source) => (c :: breaks, deepest, source)
      else some ([], deepest, source)

/-- What stands between the text that was read and the next line of a block. -/
structure Joint where
  /-- The break that ended the last line. -/
  lineEnd : List Char := []
  /-- The breaks of the empty lines behind it. -/
  emptyLines : List Char := []
  /-- Whether the last line began with a blank. -/
  afterBlank : Bool := false
  deriving DecidableEq, Inhabited

/-- What a joint stands for in front of a line. Folding drops the break between two lines that begin
with no blank. -/
def Joint.text (joint : Joint) (folded : Bool) (beforeBlank : Bool) : List Char :=
  if folded && joint.lineEnd = ['\n'] && !joint.afterBlank && !beforeBlank then
    (if joint.emptyLines.isEmpty then [' '] else joint.emptyLines)
  else joint.lineEnd ++ joint.emptyLines

/-- What a joint stands for behind the last line. -/
def Joint.tail (joint : Joint) : Chomping → List Char
  | .strip => []
  | .clip => joint.lineEnd
  | .keep => joint.lineEnd ++ joint.emptyLines

/-- Reads the lines of a block that begin at a column. -/
def readBlockLines (folded : Bool) (chomping : Chomping) (indent : Nat) :
    Nat → Joint → Source → Option (List Char × Source)
  | 0, _, _ => none
  | budget + 1, joint, source =>
    if source.column = indent && !source.rest.isEmpty then do
      let blank := source.rest.head?.any isBlank
      let (line, source) := source.span (!isBreak ·)
      let lineEnd := source.rest.take 1
      let (breaks, _, source) ←
        readEmptyLines (some indent) (source.rest.length + 1) 0 (source.drop 1)
      let (text, source) ←
        readBlockLines folded chomping indent budget ⟨lineEnd, breaks, blank⟩ source
      return (joint.text folded blank ++ line ++ text, source)
    else some (joint.tail chomping, source)

/-- Reads a block scalar in a collection that is indented by `outer`, or in none at `-1`. -/
def readBlock (folded : Bool) (outer : Int) (source : Source) : Option (List Char × Source) := do
  let source := source.drop 1
  let (chomping, increment, length) ← readBlockHeader source.rest
  let source ← (source.drop length).endLine?
  let budget := source.rest.length + 1
  let indent := increment.map fun increment => (max outer 0).toNat + increment
  let (breaks, deepest, source) ← readEmptyLines indent budget 0 source
  let indent := indent.getD (max deepest (max (outer + 1).toNat 1))
  readBlockLines folded chomping indent budget { emptyLines := breaks } source

end BrokerConnector.Yaml
