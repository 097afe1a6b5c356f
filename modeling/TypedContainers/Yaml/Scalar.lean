import TypedContainers.Text.Digit
import TypedContainers.Yaml.Basic

/-!
# Scalars

A scalar is plain, quoted, or a block of lines.  In plain and quoted scalars a
line break with the blanks around it is folded into one space, and the empty
lines after it are kept as line feeds; a block is folded only if its header asks
for it.  Each reader recurses on the text and keeps the current place beside it.
-/

namespace TypedContainers.Yaml

/-- What stands between two words of a scalar: blanks, or a line break with the
empty lines after it.  An escaped line break leaves no first break. -/
structure Spacing where
  blanks : List Char := []
  folded : Bool := false
  first : Option Char := none
  more : List Char := []
deriving Repr, Inhabited

namespace Spacing

def none : Spacing := {}

def escapedBreak : Spacing := { folded := true }

/-- Whether anything stands between the words. -/
def isPending (spacing : Spacing) : Bool :=
  spacing.folded || !spacing.blanks.isEmpty

/-- One more blank.  Blanks at a line break are dropped. -/
def addBlank (c : Char) (spacing : Spacing) : Spacing :=
  if spacing.folded then spacing else { spacing with blanks := spacing.blanks ++ [c] }

def addBreak (c : Char) (spacing : Spacing) : Spacing :=
  if spacing.folded then { spacing with more := spacing.more ++ [c] }
  else { folded := true, first := some c }

/-- What the spacing contributes to the scalar. -/
def text (spacing : Spacing) : List Char :=
  if spacing.folded then
    match spacing.first with
    | some c =>
      if c = '\n' then if spacing.more.isEmpty then [' '] else spacing.more
      else c :: spacing.more
    | Option.none => spacing.more
  else spacing.blanks

end Spacing

def prepend {α : Type} (front : List Char) (result : Except ReadError (List Char × α)) :
    Except ReadError (List Char × α) :=
  result.map fun (text, rest) => (front ++ text, rest)

/-! ## Quoted scalars -/

/-- The rest of a scalar in single quotes, where two quotes stand for one. -/
def readSingle (mark : Mark) (spacing : Spacing) :
    List Char → Except ReadError (List Char × Cursor)
  | [] => .error .unclosedQuote
  | c :: rest =>
    if isBreak c then readSingle mark.nextLine (spacing.addBreak c) rest
    else if isBlank c then readSingle (mark.next c) (spacing.addBlank c) rest
    else if mark.column = 0 && atDocumentMark (c :: rest) then .error .documentMarkInQuotes
    else if c = '\'' then
      match rest with
      | '\'' :: rest =>
        prepend (spacing.text ++ ['\'']) (readSingle (mark.past ['\'', '\'']) .none rest)
      | rest => .ok (spacing.text, ⟨rest, mark.next c⟩)
    else prepend (spacing.text ++ [c]) (readSingle (mark.next c) .none rest)

def shortEscape? : Char → Option Char
  | '0' => some '\x00'
  | 'a' => some '\x07'
  | 'b' => some '\x08'
  | 't' => some '\t'
  | '\t' => some '\t'
  | 'n' => some '\n'
  | 'v' => some '\x0b'
  | 'f' => some '\x0c'
  | 'r' => some '\r'
  | 'e' => some '\x1b'
  | ' ' => some ' '
  | '"' => some '"'
  | '/' => some '/'
  | '\\' => some '\\'
  | 'N' => some '\u0085'
  | '_' => some '\u00a0'
  | 'L' => some '\u2028'
  | 'P' => some '\u2029'
  | _ => none

/-- How many hexadecimal digits follow the letter of an escape. -/
def escapeWidth? : Char → Option Nat
  | 'x' => some 2
  | 'u' => some 4
  | 'U' => some 8
  | _ => none

/-- The character of a code point, unless that is a surrogate or too large. -/
def scalarValue? (digits : List Char) (width : Nat) : Option Char := do
  let code ← Text.hexNumber? digits
  if digits.length = width && code.isValidChar then some (Char.ofNat code) else none

/-- The rest of a scalar in double quotes, with escapes. -/
def readDouble (mark : Mark) (spacing : Spacing) :
    List Char → Except ReadError (List Char × Cursor)
  | [] => .error .unclosedQuote
  | c :: rest =>
    if isBreak c then readDouble mark.nextLine (spacing.addBreak c) rest
    else if isBlank c then readDouble (mark.next c) (spacing.addBlank c) rest
    else if mark.column = 0 && atDocumentMark (c :: rest) then .error .documentMarkInQuotes
    else if c = '"' then .ok (spacing.text, ⟨rest, mark.next c⟩)
    else if c = '\\' then
      match rest with
      | [] => .error .unclosedQuote
      | e :: rest =>
        if isBreak e then
          prepend spacing.text (readDouble (mark.next c).nextLine .escapedBreak rest)
        else
          match shortEscape? e with
          | some x => prepend (spacing.text ++ [x]) (readDouble (mark.past [c, e]) .none rest)
          | none =>
            match escapeWidth? e with
            | none => .error .badEscape
            | some width =>
              match scalarValue? (rest.take width) width with
              | none => .error .badEscape
              | some x =>
                prepend (spacing.text ++ [x])
                  (readDouble (mark.past (c :: e :: rest.take width)) .none (rest.drop width))
    else prepend (spacing.text ++ [c]) (readDouble (mark.next c) .none rest)
termination_by text => text.length
decreasing_by all_goals (simp only [List.length_cons, List.length_drop]; omega)

/-! ## Plain scalars -/

/-- The rest of a plain scalar, whether it ended behind a line break, and the
cursor behind it.  Outside flow collections it has to stay right of `indent`,
which is the least column it may continue in. -/
def readPlain (inFlow : Bool) (indent : Int) (mark : Mark) (spacing : Spacing) :
    List Char → Except ReadError (List Char × Bool × Cursor)
  | [] => .ok ([], spacing.folded, ⟨[], mark⟩)
  | c :: rest =>
    if isBreak c then readPlain inFlow indent mark.nextLine (spacing.addBreak c) rest
    else if isBlank c then
      if spacing.folded && mark.column < indent && c = '\t' then .error .tabIndentation
      else readPlain inFlow indent (mark.next c) (spacing.addBlank c) rest
    else if spacing.isPending &&
        ((!inFlow && mark.column < indent) || c = '#' ||
          (mark.column = 0 && atDocumentMark (c :: rest))) then
      .ok ([], spacing.folded, ⟨c :: rest, mark⟩)
    else if inFlow && c = ':' && startsWithAny [',', '?', '[', ']', '{', '}'] rest then
      .error .unexpectedColon
    else if (c = ':' && atSpace rest) || (inFlow && [',', '[', ']', '{', '}'].contains c) then
      .ok ([], spacing.folded, ⟨c :: rest, mark⟩)
    else prepend (spacing.text ++ [c]) (readPlain inFlow indent (mark.next c) .none rest)

/-! ## Block scalars -/

/-- What is kept of the line breaks at the end of a block. -/
inductive Chomping
  | strip
  | clip
  | keep
deriving Repr, DecidableEq

/-- The header of a block: whether its lines are folded, what is kept of its end,
and the indentation if it is given, zero otherwise. -/
structure BlockHeader where
  folds : Bool
  chomping : Chomping
  indent : Nat
deriving Repr, DecidableEq

namespace BlockHeader

/-- The indicator of what is kept at the end, if there is one. -/
def readChomping (cursor : Cursor) : Option Chomping × Cursor :=
  match cursor.rest with
  | '+' :: _ => (some .keep, cursor.drop 1)
  | '-' :: _ => (some .strip, cursor.drop 1)
  | _ => (none, cursor)

/-- The indicator of the indentation, zero if there is none. -/
def readIndent (cursor : Cursor) : Except ReadError (Nat × Cursor) :=
  match cursor.rest with
  | c :: _ =>
    if c = '0' then .error .badBlockHeader
    else if c.isDigit then .ok (c.toNat - '0'.toNat, cursor.drop 1)
    else .ok (0, cursor)
  | [] => .ok (0, cursor)

/-- The header behind its first character, and the cursor on the next line.  The
two indicators may stand in either order. -/
def read (folds : Bool) (cursor : Cursor) : Except ReadError (BlockHeader × Cursor) := do
  let (before?, cursor) := readChomping cursor
  let (indent, cursor) ← readIndent cursor
  let (after?, cursor) :=
    if before?.isNone && indent ≠ 0 then readChomping cursor else (none, cursor)
  match cursor.endLine? with
  | none => throw .badBlockHeader
  | some cursor => return (⟨folds, (before?.or after?).getD .clip, indent⟩, cursor)

end BlockHeader

/-- The indentation of a block whose header does not give it: the deepest column
reached before its first character that is no space, but at least `least`.  The
empty lines before that are part of the block. -/
def findIndent (least deepest : Nat) (mark : Mark) (breaks : List Char) :
    List Char → Except ReadError (Nat × List Char × Cursor)
  | [] => .ok (max (max deepest mark.column) least, breaks, ⟨[], mark⟩)
  | c :: rest =>
    if c = ' ' then findIndent least deepest (mark.next c) breaks rest
    else if c = '\t' then .error .tabIndentation
    else if isBreak c then
      findIndent least (max deepest mark.column) mark.nextLine (breaks ++ [c]) rest
    else .ok (max (max deepest mark.column) least, breaks, ⟨c :: rest, mark⟩)

/-- What the line breaks between two lines of a block contribute.  A single break
between two lines that do not begin with a blank is folded if the block folds. -/
def blockBreaks (folds : Bool) (first? : Option Char) (more : List Char) : List Char :=
  if folds && first? = some '\n' then if more.isEmpty then [' '] else more
  else first?.toList ++ more

/-- The lines of a block.  `inLine` tells a line's content from its indentation,
`first?` and `more` are the breaks since the last line that was not empty, and
`afterBlank` tells whether that line began with a blank. -/
def readBlock (header : BlockHeader) (indent : Nat) (inLine : Bool) (first? : Option Char)
    (more : List Char) (afterBlank : Bool) (mark : Mark) :
    List Char → Except ReadError (List Char × Cursor)
  | [] => .ok (ending first? more, ⟨[], mark⟩)
  | c :: rest =>
    if inLine then
      if isBreak c then
        readBlock header indent false (some c) [] afterBlank mark.nextLine rest
      else prepend [c] (readBlock header indent true none [] afterBlank (mark.next c) rest)
    else if isBreak c then
      readBlock header indent false first? (more ++ [c]) afterBlank mark.nextLine rest
    else if mark.column < indent then
      if c = ' ' then readBlock header indent false first? more afterBlank (mark.next c) rest
      else if c = '\t' then .error .tabIndentation
      else .ok (ending first? more, ⟨c :: rest, mark⟩)
    else
      let folds := header.folds && !afterBlank && !isBlank c
      prepend (blockBreaks folds first? more ++ [c])
        (readBlock header indent true none [] (isBlank c) (mark.next c) rest)
where
  /-- What is kept of the breaks at the end. -/
  ending (first? : Option Char) (more : List Char) : List Char :=
    match header.chomping with
    | .strip => []
    | .clip => first?.toList
    | .keep => first?.toList ++ more

/-- A block scalar behind its first character, inside a structure that is
indented to `parent`. -/
def readBlockScalar (folds : Bool) (parent : Int) (cursor : Cursor) :
    Except ReadError (List Char × Cursor) := do
  let (header, cursor) ← BlockHeader.read folds cursor
  let (indent, breaks, cursor) ←
    if header.indent = 0 then
      findIndent (max (parent + 1).toNat 1) 0 cursor.mark [] cursor.rest
    else pure ((max parent 0).toNat + header.indent, [], cursor)
  readBlock header indent false none breaks false cursor.mark cursor.rest

end TypedContainers.Yaml
