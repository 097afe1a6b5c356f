/-!
# Places and characters of block structured documents

A block structured document is read with its position in view, because columns
carry its structure.  Line breaks are normalized before anything else is read:
only the line feed and the two Unicode separators remain.
-/

namespace TypedContainers.Yaml

/-- Why a text is not a single document. -/
inductive ReadError
  | forbiddenCharacter
  | unexpectedCharacter
  | unclosedQuote
  | documentMarkInQuotes
  | badEscape
  | tabIndentation
  | badBlockHeader
  | badAnchor
  | badTag
  | badDirective
  | unexpectedColon
  | missingColon
  | misplacedEntry
  | misplacedKey
  | misplacedValue
  | unexpectedToken
  | unexpectedEnd
  | repeatedDirective
  | unsupportedVersion
  | unknownTagHandle
  | unknownAlias
  | secondDocument
  | tooDeep
  | tooManyAliases
  | keyNotScalar
  | localTag
  | taggedValue
  | integerOutOfRange
deriving Repr, DecidableEq

def ReadError.message : ReadError → String
  | forbiddenCharacter => "control characters are not allowed"
  | unexpectedCharacter => "a character cannot start any token"
  | unclosedQuote => "a quoted scalar is not closed"
  | documentMarkInQuotes => "a document mark stands inside a quoted scalar"
  | badEscape => "unknown escape in a quoted scalar"
  | tabIndentation => "a tab stands where indentation is expected"
  | badBlockHeader => "malformed header of a block scalar"
  | badAnchor => "malformed anchor or alias"
  | badTag => "malformed tag"
  | badDirective => "malformed directive"
  | unexpectedColon => "unexpected colon in a plain scalar"
  | missingColon => "a key is not followed by a colon"
  | misplacedEntry => "sequence entries are not allowed here"
  | misplacedKey => "mapping keys are not allowed here"
  | misplacedValue => "mapping values are not allowed here"
  | unexpectedToken => "unexpected token"
  | unexpectedEnd => "unexpected end of the document"
  | repeatedDirective => "a directive is repeated"
  | unsupportedVersion => "unsupported version"
  | unknownTagHandle => "undefined tag handle"
  | unknownAlias => "unknown anchor"
  | secondDocument => "more than one document"
  | tooDeep => "nesting too deep"
  | tooManyAliases => "too many aliases"
  | keyNotScalar => "a key is not a scalar"
  | localTag => "a value has a tag that is not known"
  | taggedValue => "a value does not match its tag"
  | integerOutOfRange => "an integer is out of range"

/-- A place in a text: how many octets are before it, its line, and how many
characters are before it on that line. -/
structure Mark where
  index : Nat
  line : Nat
  column : Nat
deriving Repr, DecidableEq, Inhabited

namespace Mark

def start : Mark := ⟨0, 0, 0⟩

def past (mark : Mark) (text : List Char) : Mark where
  index := mark.index + (text.map Char.utf8Size).foldr (· + ·) 0
  line := mark.line
  column := mark.column + text.length

def next (mark : Mark) (c : Char) : Mark :=
  mark.past [c]

def nextLine (mark : Mark) : Mark :=
  ⟨mark.index + 1, mark.line + 1, 0⟩

end Mark

/-- The part of a text that is still to be read, and where it starts. -/
structure Cursor where
  rest : List Char
  mark : Mark
deriving Repr, Inhabited

/-- Whether a character ends a line, once breaks are normalized. -/
def isBreak (c : Char) : Bool :=
  c = '\n' || c = '\u2028' || c = '\u2029'

def isBlank (c : Char) : Bool :=
  c = ' ' || c = '\t'

/-- Whether a character may stand in names of anchors, handles and directives. -/
def isNameChar (c : Char) : Bool :=
  c.isAlphanum || c = '_' || c = '-'

/-- Whether a character may occur in a document at all. -/
def isAllowed (c : Char) : Bool :=
  let n := c.toNat
  c = '\t' || c = '\n' || c = '\r' || (0x20 ≤ n && n ≤ 0x7e) || n = 0x85 ||
    (0xa0 ≤ n && n ≤ 0xfffd) || 0x10000 ≤ n

/-- A text with each of its line breaks as one character, the line feed unless it
is a Unicode separator. -/
def normalizeBreaks : List Char → List Char
  | [] => []
  | '\r' :: '\n' :: rest => '\n' :: normalizeBreaks rest
  | c :: rest => (if c = '\r' || c = '\u0085' then '\n' else c) :: normalizeBreaks rest

/-- Whether a text begins with a blank or a line break, or is at its end. -/
def atSpace : List Char → Bool
  | [] => true
  | c :: _ => isBlank c || isBreak c

def startsWithAny (choices : List Char) : List Char → Bool
  | [] => false
  | c :: _ => choices.contains c

/-- Whether a line begins with three of a character and nothing attached. -/
def atRuleOf (mark : Char) : List Char → Bool
  | a :: b :: c :: rest => a = mark && b = mark && c = mark && atSpace rest
  | _ => false

/-- Whether a line begins with the mark of a document's start or end. -/
def atDocumentMark (text : List Char) : Bool :=
  atRuleOf '-' text || atRuleOf '.' text

namespace Cursor

/-- The cursor some characters later on the same line. -/
def drop (count : Nat) (cursor : Cursor) : Cursor :=
  ⟨cursor.rest.drop count, cursor.mark.past (cursor.rest.take count)⟩

/-- The characters of the current line that pass a test, and the cursor behind
them. -/
def span (test : Char → Bool) (cursor : Cursor) : List Char × Cursor :=
  let taken := cursor.rest.takeWhile test
  (taken, cursor.drop taken.length)

/-- The cursor behind the characters of the current line that pass a test. -/
def skip (test : Char → Bool) (cursor : Cursor) : Cursor :=
  (cursor.span test).2

/-- The cursor behind a byte order mark at the start of a line.  The mark takes a
column like any other character. -/
def skipOrderMark (cursor : Cursor) : Cursor :=
  if cursor.mark.column = 0 && cursor.rest.head? = some '\ufeff' then cursor.drop 1
  else cursor

def skipBreak (cursor : Cursor) : Cursor :=
  match cursor.rest with
  | c :: rest => if isBreak c then ⟨rest, cursor.mark.nextLine⟩ else cursor
  | [] => cursor

/-- The cursor at a later place of the current line, where a text of the given
length is still to be read. -/
def moveTo (left : Nat) (cursor : Cursor) : Cursor :=
  cursor.drop (cursor.rest.length - left)

/-- The cursor at the end of the current line, if only blanks and a comment are
left on it. -/
def endLine? (cursor : Cursor) : Option Cursor :=
  let cursor := cursor.skip isBlank
  let cursor :=
    if startsWithAny ['#'] cursor.rest then cursor.skip (!isBreak ·) else cursor
  match cursor.rest with
  | [] => some cursor
  | c :: _ => if isBreak c then some cursor.skipBreak else none

end Cursor

end TypedContainers.Yaml
