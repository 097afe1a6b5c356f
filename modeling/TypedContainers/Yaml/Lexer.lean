import TypedContainers.Yaml.Token

/-!
# The tokens of a text

Whether a scalar is a key is known only at the colon behind it.  A place where a
key may begin is therefore remembered, and its tokens are put in afterwards,
together with the start of a mapping if the key's column opens one.  Such a place
is forgotten at the end of its line.
-/

namespace TypedContainers.Yaml

/-- A place where a key may have begun: the number of tokens before it, and
whether the structure around it demands that it is a key. -/
structure KeyCandidate where
  place : Nat
  required : Bool
  mark : Mark
deriving Repr, Inhabited

/-- The state between two tokens. -/
structure Lexer where
  cursor : Cursor
  /-- The tokens so far, the last one first. -/
  tokens : List Token
  /-- The column of the innermost block collection, or minus one. -/
  indent : Int
  /-- The columns of the block collections around it, innermost first. -/
  outerIndents : List Int
  /-- Whether a key may begin at the cursor. -/
  keyAllowed : Bool
  /-- The candidate of the current flow level. -/
  candidate? : Option KeyCandidate
  /-- The candidates of the levels around it, innermost first. -/
  outerCandidates : List (Option KeyCandidate)
deriving Repr, Inhabited

namespace Lexer

def start (text : List Char) : Lexer where
  cursor := ⟨text, Mark.start⟩
  tokens := []
  indent := -1
  outerIndents := []
  keyAllowed := true
  candidate? := none
  outerCandidates := []

def inFlow (lexer : Lexer) : Bool :=
  !lexer.outerCandidates.isEmpty

def column (lexer : Lexer) : Nat :=
  lexer.cursor.mark.column

def emit (token : Token) (lexer : Lexer) : Lexer :=
  { lexer with tokens := token :: lexer.tokens }

/-- One more token after the first `place` tokens. -/
def insertAt (place : Nat) (token : Token) (lexer : Lexer) : Lexer :=
  { lexer with tokens := lexer.tokens.insertIdx (lexer.tokens.length - place) token }

/-- A token of some characters, behind which a key may begin or not. -/
def emitHere (token : Token) (count : Nat) (keyAllowed : Bool) (lexer : Lexer) : Lexer :=
  { lexer with
    tokens := token :: lexer.tokens
    cursor := lexer.cursor.drop count
    keyAllowed := keyAllowed }

/-! ## Blanks and comments -/

/-- Whether blanks of this kind may be skipped.  A tab may not stand where a key
could begin in a block. -/
def isSkipped (lexer : Lexer) (c : Char) : Bool :=
  c = ' ' || ((lexer.inFlow || !lexer.keyAllowed) && c = '\t')

/-- Skip blanks, comments and line breaks, and byte order marks at the start of a
line.  Each round leaves one line; the length of the text bounds their number. -/
def skipToToken : Nat → Lexer → Lexer
  | 0, lexer => lexer
  | fuel + 1, lexer =>
    let cursor := lexer.cursor.skipOrderMark.skip lexer.isSkipped
    let cursor :=
      if startsWithAny ['#'] cursor.rest then cursor.skip (!isBreak ·) else cursor
    match cursor.rest with
    | c :: _ =>
      if isBreak c then
        skipToToken fuel
          { lexer with
            cursor := cursor.skipBreak
            keyAllowed := lexer.keyAllowed || !lexer.inFlow }
      else { lexer with cursor := cursor }
    | [] => { lexer with cursor := cursor }

/-! ## Key candidates -/

/-- A candidate that is still on the line of the cursor and at most 1024 octets
before it.  One that is not is forgotten, unless it is required. -/
def refresh (mark : Mark) : Option KeyCandidate → Except ReadError (Option KeyCandidate)
  | none => .ok none
  | some candidate =>
    if candidate.mark.line < mark.line || candidate.mark.index + 1024 < mark.index then
      if candidate.required then .error .missingColon else .ok none
    else .ok (some candidate)

/-- Forget the candidates that the cursor has passed. -/
def dropStale (lexer : Lexer) : Except ReadError Lexer := do
  let mark := lexer.cursor.mark
  let candidate? ← refresh mark lexer.candidate?
  let outer ← lexer.outerCandidates.mapM (refresh mark)
  return { lexer with candidate? := candidate?, outerCandidates := outer }

/-- Forget the candidate of the current level. -/
def dropCandidate (lexer : Lexer) : Except ReadError Lexer :=
  match lexer.candidate? with
  | some candidate =>
    if candidate.required then .error .missingColon
    else .ok { lexer with candidate? := none }
  | none => .ok lexer

/-- Remember the cursor as a place where a key may begin, if one may.  In a block
a key is required at the column of the innermost collection. -/
def saveCandidate (lexer : Lexer) : Except ReadError Lexer := do
  if !lexer.keyAllowed then return lexer
  let lexer ← lexer.dropCandidate
  return { lexer with
    candidate? := some
      { place := lexer.tokens.length
        required := !lexer.inFlow && lexer.indent = lexer.column
        mark := lexer.cursor.mark } }

/-! ## Indentation -/

/-- Close the block collections that are deeper than a column. -/
def closeTo (column : Int) (lexer : Lexer) : Lexer :=
  if lexer.inFlow then lexer
  else
    let (tokens, indent, outer) := close lexer.tokens lexer.indent lexer.outerIndents
    { lexer with tokens := tokens, indent := indent, outerIndents := outer }
where
  /-- One end token for each collection that is deeper than the column. -/
  close (tokens : List Token) (indent : Int) : List Int → List Token × Int × List Int
    | [] => (tokens, indent, [])
    | outer :: rest =>
      if column < indent then close (.blockEnd :: tokens) outer rest
      else (tokens, indent, outer :: rest)

/-- Open a block collection after the first `place` tokens if a column is deeper
than the innermost one. -/
def openAt (place : Nat) (column : Nat) (token : Token) (lexer : Lexer) : Lexer :=
  if !lexer.inFlow && lexer.indent < column then
    let lexer := lexer.insertAt place token
    { lexer with indent := column, outerIndents := lexer.indent :: lexer.outerIndents }
  else lexer

/-- Open a block collection at the cursor if its column is deeper than the
innermost one. -/
def openHere (token : Token) (lexer : Lexer) : Lexer :=
  lexer.openAt lexer.tokens.length lexer.column token

/-! ## Tokens -/

/-- A directive, which ends all collections. -/
def lexDirective (lexer : Lexer) : Except ReadError Lexer := do
  let lexer ← (lexer.closeTo (-1)).dropCandidate
  let (token, cursor) ← Token.readDirective (lexer.cursor.drop 1)
  return { lexer.emit token with cursor := cursor, keyAllowed := false }

/-- The start or the end of a document, which ends all collections. -/
def lexDocumentMark (token : Token) (lexer : Lexer) : Except ReadError Lexer := do
  let lexer ← (lexer.closeTo (-1)).dropCandidate
  return lexer.emitHere token 3 false

/-- The start of a flow collection, which opens a level. -/
def lexFlowStart (token : Token) (lexer : Lexer) : Except ReadError Lexer := do
  let lexer ← lexer.saveCandidate
  let lexer := lexer.emitHere token 1 true
  return { lexer with
    candidate? := none
    outerCandidates := lexer.candidate? :: lexer.outerCandidates }

/-- The end of a flow collection, which leaves a level. -/
def lexFlowEnd (token : Token) (lexer : Lexer) : Except ReadError Lexer := do
  let lexer ← lexer.dropCandidate
  let lexer := lexer.emitHere token 1 false
  match lexer.outerCandidates with
  | [] => return lexer
  | candidate? :: outer =>
    return { lexer with candidate? := candidate?, outerCandidates := outer }

/-- The comma between the entries of a flow collection. -/
def lexFlowEntry (lexer : Lexer) : Except ReadError Lexer := do
  let lexer ← lexer.dropCandidate
  return lexer.emitHere .flowEntry 1 true

/-- The dash before an entry of a block sequence. -/
def lexBlockEntry (lexer : Lexer) : Except ReadError Lexer := do
  if !lexer.inFlow && !lexer.keyAllowed then throw .misplacedEntry
  let lexer ← (lexer.openHere .blockSequenceStart).dropCandidate
  return lexer.emitHere .blockEntry 1 true

/-- The question mark before a key. -/
def lexKey (lexer : Lexer) : Except ReadError Lexer := do
  if !lexer.inFlow && !lexer.keyAllowed then throw .misplacedKey
  let lexer ← (lexer.openHere .blockMappingStart).dropCandidate
  return lexer.emitHere .key 1 (!lexer.inFlow)

/-- The colon before a value.  It turns the candidate into a key; without one it
stands for a value whose key was marked or is empty. -/
def lexValue (lexer : Lexer) : Except ReadError Lexer :=
  match lexer.candidate? with
  | some candidate =>
    let lexer := lexer.insertAt candidate.place .key
    let lexer := lexer.openAt candidate.place candidate.mark.column .blockMappingStart
    .ok ({ lexer with candidate? := none }.emitHere .value 1 false)
  | none =>
    if !lexer.inFlow && !lexer.keyAllowed then .error .misplacedValue
    else .ok ((lexer.openHere .blockMappingStart).emitHere .value 1 (!lexer.inFlow))

/-- An anchor or an alias, whose name is the argument of the token. -/
def lexName (token : List Char → Token) (lexer : Lexer) : Except ReadError Lexer := do
  let lexer ← lexer.saveCandidate
  let (name, cursor) ← Token.readName (lexer.cursor.drop 1)
  return { lexer.emit (token name) with cursor := cursor, keyAllowed := false }

def lexTag (lexer : Lexer) : Except ReadError Lexer := do
  let lexer ← lexer.saveCandidate
  let (token, cursor) ← Token.readTag lexer.inFlow lexer.cursor
  return { lexer.emit token with cursor := cursor, keyAllowed := false }

def lexBlockScalar (folds : Bool) (lexer : Lexer) : Except ReadError Lexer := do
  let lexer ← lexer.dropCandidate
  let (text, cursor) ← readBlockScalar folds lexer.indent (lexer.cursor.drop 1)
  return { lexer.emit (.scalar false text) with cursor := cursor, keyAllowed := true }

def lexQuoted (read : Mark → Spacing → List Char → Except ReadError (List Char × Cursor))
    (lexer : Lexer) : Except ReadError Lexer := do
  let lexer ← lexer.saveCandidate
  let inner := lexer.cursor.drop 1
  let (text, cursor) ← read inner.mark .none inner.rest
  return { lexer.emit (.scalar false text) with cursor := cursor, keyAllowed := false }

/-- A plain scalar.  A key may begin behind it if it ended behind a line break. -/
def lexPlain (lexer : Lexer) : Except ReadError Lexer := do
  let lexer ← lexer.saveCandidate
  let (text, ended, cursor) ←
    readPlain lexer.inFlow (lexer.indent + 1) lexer.cursor.mark .none lexer.cursor.rest
  return { lexer.emit (.scalar true text) with cursor := cursor, keyAllowed := ended }

/-- Whether a plain scalar may begin with the first of the given characters. -/
def startsPlain (inFlow : Bool) : List Char → Bool
  | [] => false
  | c :: rest =>
    if c = '-' then !startsWithAny [' ', '\t'] rest
    else if c = '?' || c = ':' then !inFlow && !atSpace rest
    else
      !(isBlank c || isBreak c ||
        [',', '[', ']', '{', '}', '#', '&', '*', '!', '|', '>', '\'', '"', '%', '@',
          '`'].contains c)

/-- The token at the cursor, which is neither at a blank nor at the end. -/
def lexToken (lexer : Lexer) : Except ReadError Lexer :=
  let rest := lexer.cursor.rest
  let inFlow := lexer.inFlow
  let lineStart := lexer.column = 0
  let c := rest.headD ' '
  let after := rest.drop 1
  if lineStart && c = '%' then lexer.lexDirective
  else if lineStart && atRuleOf '-' rest then lexer.lexDocumentMark .documentStart
  else if lineStart && atRuleOf '.' rest then lexer.lexDocumentMark .documentEnd
  else if c = '[' then lexer.lexFlowStart .flowSequenceStart
  else if c = '{' then lexer.lexFlowStart .flowMappingStart
  else if c = ']' then lexer.lexFlowEnd .flowSequenceEnd
  else if c = '}' then lexer.lexFlowEnd .flowMappingEnd
  else if c = ',' then lexer.lexFlowEntry
  else if c = '-' && atSpace after then lexer.lexBlockEntry
  else if c = '?' && (inFlow || atSpace after) then lexer.lexKey
  else if c = ':' && (inFlow || atSpace after) then lexer.lexValue
  else if c = '*' then lexer.lexName .alias
  else if c = '&' then lexer.lexName .anchor
  else if c = '!' then lexer.lexTag
  else if c = '|' && !inFlow then lexer.lexBlockScalar false
  else if c = '>' && !inFlow then lexer.lexBlockScalar true
  else if c = '\'' then lexer.lexQuoted readSingle
  else if c = '"' then lexer.lexQuoted readDouble
  else if startsPlain inFlow rest then lexer.lexPlain
  else .error .unexpectedCharacter

/-- The tokens from a state on.  Every round reads at least one character, so one
more than the length of the text is enough fuel. -/
def run : Nat → Lexer → Except ReadError (List Token)
  | 0, _ => .error .unexpectedEnd
  | fuel + 1, lexer => do
    let lexer ← (lexer.skipToToken (lexer.cursor.rest.length + 1)).dropStale
    let lexer := lexer.closeTo lexer.column
    if lexer.cursor.rest.isEmpty then
      let lexer ← (lexer.closeTo (-1)).dropCandidate
      return lexer.tokens.reverse
    else
      let lexer ← lexer.lexToken
      run fuel lexer

end Lexer

def tokenize (text : String) : Except ReadError (List Token) :=
  if text.toList.all isAllowed then
    let chars := normalizeBreaks text.toList
    (Lexer.start chars).run (chars.length + 1)
  else .error .forbiddenCharacter

end TypedContainers.Yaml
