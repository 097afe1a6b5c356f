import TypedContainers.Text.Alphanumeric
import TypedContainers.Text.Digit

/-!
# Patterns

A pattern describes texts by literals, classes of characters, groups, alternatives
and repetitions.  Only whether a pattern is well formed matters here.  A pattern may
not hold a closing brace, so that counts and names between braces never end, and
word boundaries are not supported.
-/

namespace TypedContainers.Text.Pattern

/-- What an escape stands for: a character, a set of characters, or an end of the
text. -/
inductive Escape
  | literal (c : Char)
  | set
  | boundary
deriving Repr, DecidableEq

/-- The control character of a letter behind a backslash. -/
def controlEscape? : Char → Option Char
  | 'a' => some '\x07'
  | 'f' => some '\x0c'
  | 't' => some '\t'
  | 'n' => some '\n'
  | 'r' => some '\r'
  | 'v' => some '\x0b'
  | _ => none

/-- How many hexadecimal digits follow the letter of an escape. -/
def hexWidth? : Char → Option Nat
  | 'x' => some 2
  | 'u' => some 4
  | 'U' => some 8
  | _ => none

/-- Whether a character stands for itself behind a backslash. -/
def isEscapable (c : Char) : Bool :=
  c.toNat < 0x80 && !c.isAlphanum && c ≠ '<' && c ≠ '>'

/-- The letters of the character categories that need no braces, in either case. -/
def categoryLetters : List Char :=
  ['l', 'm', 'n', 'p', 's', 'z', 'c']

/-- An escape behind its backslash. -/
def readEscape? : List Char → Option (Escape × List Char)
  | [] => none
  | c :: rest =>
    match hexWidth? c with
    | some width => do
      let digits := rest.take width
      let code ← hexNumber? digits
      if digits.length = width && code.isValidChar then
        some (.literal (Char.ofNat code), rest.drop width)
      else none
    | none =>
      if c = 'p' || c = 'P' then
        match rest with
        | letter :: rest =>
          if categoryLetters.contains letter.toLower then some (.set, rest) else none
        | [] => none
      else if ['d', 'D', 's', 'S', 'w', 'W'].contains c then some (.set, rest)
      else if c = 'A' || c = 'z' then some (.boundary, rest)
      else
        match controlEscape? c with
        | some d => some (.literal d, rest)
        | none => if isEscapable c then some (.literal c, rest) else none

/-! ## Classes -/

/-- The names of the classes between colons. -/
def classNames : List String :=
  ["alnum", "alpha", "ascii", "blank", "cntrl", "digit", "graph", "lower", "print",
    "punct", "space", "upper", "word", "xdigit"]

/-- The text behind a named class, whose opening bracket was read. -/
def skipNamedClass? : List Char → Option (List Char)
  | ':' :: rest =>
    let rest := if rest.head? = some '^' then rest.drop 1 else rest
    let name := rest.takeWhile (· ≠ ':')
    match rest.drop name.length with
    | ':' :: ']' :: rest =>
      if classNames.contains (String.ofList name) then some rest else none
    | _ => none
  | _ => none

/-- One character or escape in a class. -/
def readClassItem? : List Char → Option (Escape × List Char)
  | [] => none
  | '\\' :: rest =>
    match readEscape? rest with
    | some (.boundary, _) => none
    | result => result
  | c :: rest => some (.literal c, rest)

/-- The text behind an item of a class or a range of characters. -/
def skipClassRange? (text : List Char) : Option (List Char) := do
  let (first, rest) ← readClassItem? text
  match rest with
  | '-' :: ']' :: _ => some rest
  | '-' :: '-' :: _ => some rest
  | '-' :: behind =>
    let (last, rest) ← readClassItem? behind
    match first, last with
    | .literal a, .literal b => if a ≤ b then some rest else none
    | _, _ => none
  | _ => some rest

/-- The text behind what may only stand at the start of a class: a negation, hyphens,
and otherwise a closing bracket that does not close it. -/
def skipClassStart (text : List Char) : List Char :=
  let text := if text.head? = some '^' then text.drop 1 else text
  match text with
  | '-' :: _ => text.dropWhile (· = '-')
  | ']' :: rest => rest
  | _ => text

/-- The text behind a class, with `depth` classes around the current one.  Each step
consumes fuel. -/
def skipClass? : Nat → Nat → List Char → Option (List Char)
  | 0, _, _ => none
  | _ + 1, _, [] => none
  | fuel + 1, depth, c :: rest =>
    if c = '[' then
      match skipNamedClass? rest with
      | some rest => skipClass? fuel depth rest
      | none => skipClass? fuel (depth + 1) (skipClassStart rest)
    else if c = ']' then
      match depth with
      | 0 => some rest
      | depth + 1 => skipClass? fuel depth rest
    else if ['&', '-', '~'].contains c && rest.head? = some c then
      skipClass? fuel depth (rest.drop 1)
    else do
      skipClass? fuel depth (← skipClassRange? (c :: rest))

/-! ## Groups -/

/-- Whether flags may stand in a group: letters without repetition, with at most one
hyphen, which is not the last of them. -/
def areFlags (flags : List Char) : Bool :=
  flags.all (['i', 'm', 's', 'U', 'u', 'R', 'x', '-'].contains ·) && flags.Nodup &&
    flags.getLast? ≠ some '-'

def isGroupName : List Char → Bool
  | [] => false
  | c :: rest =>
    (c = '_' || (isAlphanumeric c && !c.isDigit)) &&
      rest.all fun c => isAlphanumeric c || ['_', '.', '[', ']'].contains c

/-- The text behind the name of a group, whose opening mark was read. -/
def skipGroupName? (text : List Char) : Option (List Char) :=
  let name := text.takeWhile (· ≠ '>')
  match text.drop name.length with
  | '>' :: rest => if isGroupName name then some rest else none
  | _ => none

/-- The text behind what may stand at the start of a group, and whether the group is
over already because it only sets flags. -/
def skipGroupStart? : List Char → Option (Bool × List Char)
  | '?' :: 'P' :: '<' :: rest => (skipGroupName? rest).map fun rest => (false, rest)
  | '?' :: '<' :: rest => (skipGroupName? rest).map fun rest => (false, rest)
  | '?' :: rest =>
    let flags := rest.takeWhile fun c => c ≠ ':' && c ≠ ')'
    if !areFlags flags then none
    else
      match rest.drop flags.length with
      | ':' :: rest => some (false, rest)
      | ')' :: rest => if flags.isEmpty then none else some (true, rest)
      | _ => none
  | rest => some (false, rest)

/-- The text behind the items of a group, up to its closing parenthesis or the end.
`repeatable` tells whether something stands in front that may be repeated.  Each step
consumes fuel. -/
def skipItems? : Nat → Bool → List Char → Option (List Char)
  | 0, _, _ => none
  | _ + 1, _, [] => some []
  | fuel + 1, repeatable, c :: rest =>
    if c = ')' then some (c :: rest)
    else if c = '|' then skipItems? fuel false rest
    else if c = '*' || c = '+' || c = '?' then
      if repeatable then
        skipItems? fuel true (if rest.head? = some '?' then rest.drop 1 else rest)
      else none
    else if c = '{' then none
    else if c = '(' then do
      let (isDone, rest) ← skipGroupStart? rest
      if isDone then skipItems? fuel false rest
      else
        match ← skipItems? fuel false rest with
        | ')' :: rest => skipItems? fuel true rest
        | _ => none
    else if c = '[' then do
      skipItems? fuel true (← skipClass? (rest.length + 1) 0 (skipClassStart rest))
    else if c = '\\' then do
      let (_, rest) ← readEscape? rest
      skipItems? fuel true rest
    else skipItems? fuel true rest

def isWellFormed (text : List Char) : Bool :=
  skipItems? (text.length + 1) false text = some []

example : isWellFormed "a(b|c)*[^-x\\]]+?".toList = true := by decide +kernel

example : isWellFormed "(a".toList = false := by decide +kernel

example : isWellFormed "*a".toList = false := by decide +kernel

end TypedContainers.Text.Pattern
