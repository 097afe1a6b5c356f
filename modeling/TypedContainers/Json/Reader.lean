import TypedContainers.Json.Basic
import TypedContainers.Json.Number
import TypedContainers.Text.Digit

/-!
# Reading documents

The reader takes exactly the texts of the interchange format: no comments, no
trailing commas, no byte order mark, only the four blank characters between
tokens.  Beyond the grammar it refuses escapes of lone surrogates, numbers too
large for a 64-bit binary float, and nesting beyond `maxDepth`.
-/

namespace TypedContainers.Json

/-- Why a text is not a document. -/
inductive ReadError
  | unexpectedEnd
  | unexpected (c : Char)
  | badEscape
  | loneSurrogate
  | controlCharacter (c : Char)
  | numberOutOfRange
  | tooDeep
deriving Repr, DecidableEq

def ReadError.message : ReadError → String
  | unexpectedEnd => "unexpected end of input"
  | unexpected c => "unexpected character " ++ String.singleton c
  | badEscape => "invalid escape"
  | loneSurrogate => "lone surrogate in escape"
  | controlCharacter _ => "control character in string"
  | numberOutOfRange => "number out of range"
  | tooDeep => "nesting too deep"

/-- How many arrays and objects may contain one another. -/
def maxDepth : Nat := 127

/-- The characters allowed between tokens. -/
def isBlank (c : Char) : Bool :=
  c = ' ' || c = '\t' || c = '\n' || c = '\r'

/-- The input from its first character that is no blank. -/
def skipBlanks (input : List Char) : List Char :=
  input.dropWhile isBlank

def complain {α : Type} : List Char → Except ReadError α
  | [] => .error .unexpectedEnd
  | c :: _ => .error (.unexpected c)

/-- The rest of an input that begins with the given characters. -/
def expect : List Char → List Char → Except ReadError (List Char)
  | [], input => .ok input
  | _ :: _, [] => .error .unexpectedEnd
  | c :: word, d :: input => if c = d then expect word input else .error (.unexpected d)

def shortEscape? (c : Char) : Option Char :=
  if c = '"' then some '"'
  else if c = '\\' then some '\\'
  else if c = '/' then some '/'
  else if c = 'b' then some '\x08'
  else if c = 'f' then some '\x0c'
  else if c = 'n' then some '\n'
  else if c = 'r' then some '\r'
  else if c = 't' then some '\t'
  else none

def isHighSurrogate (unit : Nat) : Bool :=
  0xd800 ≤ unit && unit < 0xdc00

def isLowSurrogate (unit : Nat) : Bool :=
  0xdc00 ≤ unit && unit < 0xe000

def ofPair (high low : Nat) : Char :=
  Char.ofNat (0x10000 + (high - 0xd800) * 0x400 + (low - 0xdc00))

/-- A character in front of what was read after it. -/
def push (c : Char) (result : Except ReadError (List Char × List Char)) :
    Except ReadError (List Char × List Char) :=
  result.map fun (text, rest) => (c :: text, rest)

/-- The characters of a string up to its closing quote, and the rest. -/
def readChars : List Char → Except ReadError (List Char × List Char)
  | [] => .error .unexpectedEnd
  | c :: rest =>
    if c = '"' then .ok ([], rest)
    else if c = '\\' then
      match rest with
      | [] => .error .unexpectedEnd
      | e :: rest =>
        match shortEscape? e with
        | some x => push x (readChars rest)
        | none =>
          if e = 'u' then
            match rest with
            | a :: b :: c :: d :: rest =>
              match Text.hexNumber? [a, b, c, d] with
              | none => .error .badEscape
              | some unit =>
                if isHighSurrogate unit then
                  match rest with
                  | '\\' :: 'u' :: a :: b :: c :: d :: rest =>
                    match Text.hexNumber? [a, b, c, d] with
                    | none => .error .badEscape
                    | some low =>
                      if isLowSurrogate low then push (ofPair unit low) (readChars rest)
                      else .error .loneSurrogate
                  | _ => .error .loneSurrogate
                else if isLowSurrogate unit then .error .loneSurrogate
                else push (Char.ofNat unit) (readChars rest)
            | _ => .error .badEscape
          else .error .badEscape
    else if c.toNat < 0x20 then .error (.controlCharacter c)
    else push c (readChars rest)

/-- A string after its opening quote. -/
def readString (input : List Char) : Except ReadError (String × List Char) :=
  (readChars input).map fun (text, rest) => (String.ofList text, rest)

def readDigits (input : List Char) : Except ReadError (List Char × List Char) :=
  match input.span Char.isDigit with
  | ([], rest) => complain rest
  | (digits, rest) => .ok (digits, rest)

/-- The whole part of a number: a zero alone, or digits that do not start with a
zero. -/
def readWhole : List Char → Except ReadError (List Char × List Char)
  | '0' :: rest => .ok (['0'], rest)
  | input => readDigits input

def readFraction : List Char → Except ReadError (List Char × List Char)
  | '.' :: rest => readDigits rest
  | rest => .ok ([], rest)

/-- The power of ten after a number, zero if there is none. -/
def readExponent : List Char → Except ReadError (Int × List Char)
  | e :: rest =>
    if e = 'e' || e = 'E' then
      match rest with
      | '-' :: rest =>
        (readDigits rest).map fun (digits, rest) => (-(Decimal.ofDigits digits : Int), rest)
      | '+' :: rest =>
        (readDigits rest).map fun (digits, rest) => (Decimal.ofDigits digits, rest)
      | rest => (readDigits rest).map fun (digits, rest) => (Decimal.ofDigits digits, rest)
    else .ok (0, e :: rest)
  | [] => .ok (0, [])

/-- A number without its sign. -/
def readNumeral (input : List Char) : Except ReadError (Numeral × List Char) := do
  let (whole, rest) ← readWhole input
  let (fraction, rest) ← readFraction rest
  let (exponent, rest) ← readExponent rest
  return (⟨whole, fraction, exponent⟩, rest)

def readNumber (input : List Char) : Except ReadError (Decimal × List Char) := do
  let negative := input.head? = some '-'
  let (numeral, rest) ← readNumeral (if negative then input.drop 1 else input)
  if numeral.overflows then throw .numberOutOfRange
  return (numeral.toDecimal negative, rest)

mutual

/-- A value, with the given depth of nesting left.  Every step consumes fuel, and
the length of the input is enough of it. -/
def readValue : Nat → Nat → List Char → Except ReadError (Json × List Char)
  | 0, _, _ => .error .unexpectedEnd
  | fuel + 1, depth, input =>
    match skipBlanks input with
    | [] => .error .unexpectedEnd
    | c :: rest =>
      if c = '"' then (readString rest).map fun (text, rest) => (.string text, rest)
      else if c = '[' then
        match depth with
        | 0 => .error .tooDeep
        | depth + 1 =>
          match skipBlanks rest with
          | ']' :: rest => .ok (.array [], rest)
          | rest => (readItems fuel depth rest).map fun (items, rest) => (.array items, rest)
      else if c = '{' then
        match depth with
        | 0 => .error .tooDeep
        | depth + 1 =>
          match skipBlanks rest with
          | '}' :: rest => .ok (.object [], rest)
          | rest =>
            (readMembers fuel depth rest).map fun (members, rest) => (.object members, rest)
      else if c = 'n' then (expect ['u', 'l', 'l'] rest).map fun rest => (.null, rest)
      else if c = 't' then (expect ['r', 'u', 'e'] rest).map fun rest => (.bool true, rest)
      else if c = 'f' then
        (expect ['a', 'l', 's', 'e'] rest).map fun rest => (.bool false, rest)
      else (readNumber (c :: rest)).map fun (d, rest) => (.number d, rest)

/-- The items of an array, at least one, up to its closing bracket. -/
def readItems : Nat → Nat → List Char → Except ReadError (List Json × List Char)
  | 0, _, _ => .error .unexpectedEnd
  | fuel + 1, depth, input =>
    match readValue fuel depth input with
    | .error e => .error e
    | .ok (item, rest) =>
      match skipBlanks rest with
      | ']' :: rest => .ok ([item], rest)
      | ',' :: rest =>
        (readItems fuel depth rest).map fun (items, rest) => (item :: items, rest)
      | rest => complain rest

/-- The members of an object, at least one, up to its closing brace. -/
def readMembers :
    Nat → Nat → List Char → Except ReadError (List (String × Json) × List Char)
  | 0, _, _ => .error .unexpectedEnd
  | fuel + 1, depth, input =>
    match skipBlanks input with
    | '"' :: rest =>
      match readString rest with
      | .error e => .error e
      | .ok (name, rest) =>
        match skipBlanks rest with
        | ':' :: rest =>
          match readValue fuel depth rest with
          | .error e => .error e
          | .ok (value, rest) =>
            match skipBlanks rest with
            | '}' :: rest => .ok ([(name, value)], rest)
            | ',' :: rest =>
              (readMembers fuel depth rest).map fun (members, rest) =>
                ((name, value) :: members, rest)
            | rest => complain rest
        | rest => complain rest
    | rest => complain rest

end

def read (text : String) : Except ReadError Json :=
  let input := text.toList
  match readValue (input.length + 1) maxDepth input with
  | .error e => .error e
  | .ok (document, rest) =>
    match skipBlanks rest with
    | [] => .ok document
    | rest => complain rest

end TypedContainers.Json
