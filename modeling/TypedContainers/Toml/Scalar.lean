import TypedContainers.Decimal
import TypedContainers.Text.Digit
import TypedContainers.Toml.Value

/-!
# Strings, numbers and dates

Strings come in four forms: between one or three quotes of either kind.  Only
double quotes allow escapes, and only three quotes allow line breaks.  Numbers
and dates are checked for their form and kept as texts.
-/

namespace TypedContainers.Toml

/-- Whether a character may not stand in a string or a comment.  Line breaks are
dealt with before this is asked. -/
def isControl (c : Char) : Bool :=
  (c.toNat < 0x20 && c ≠ '\t') || c = '\x7f'

/-- A space or a tab. -/
def isBlank (c : Char) : Bool :=
  c = ' ' || c = '\t'

def complain {α : Type} : List Char → Except ReadError α
  | [] => .error .unexpectedEnd
  | c :: _ => .error (.unexpected c)

/-- Characters in front of what was read after them. -/
def prepend (front : List Char) (result : Except ReadError (List Char × List Char)) :
    Except ReadError (List Char × List Char) :=
  result.map fun (text, rest) => (front ++ text, rest)

/-! ## Escapes -/

def shortEscape? : Char → Option Char
  | 'b' => some '\x08'
  | 't' => some '\t'
  | 'n' => some '\n'
  | 'f' => some '\x0c'
  | 'r' => some '\r'
  | 'e' => some '\x1b'
  | '"' => some '"'
  | '\\' => some '\\'
  | _ => none

/-- How many hexadecimal digits follow the letter of an escape. -/
def escapeWidth? : Char → Option Nat
  | 'x' => some 2
  | 'u' => some 4
  | 'U' => some 8
  | _ => none

/-- The character of an escape, behind its backslash, and how many characters the
escape takes there. -/
def escape? : List Char → Option (Char × Nat)
  | [] => none
  | e :: rest =>
    match shortEscape? e with
    | some c => some (c, 1)
    | none => do
      let width ← escapeWidth? e
      let code ← Text.hexNumber? (rest.take width)
      if width ≤ rest.length && code.isValidChar then some (Char.ofNat code, width + 1)
      else none

/-! ## Strings on one line -/

/-- A string behind its double quote. -/
def readBasic : List Char → Except ReadError (List Char × List Char)
  | [] => .error .unexpectedEnd
  | c :: rest =>
    if c = '"' then .ok ([], rest)
    else if c = '\\' then
      match escape? rest with
      | none => .error .badEscape
      | some (x, width) => prepend [x] (readBasic (rest.drop width))
    else if isControl c then .error (.controlCharacter c)
    else prepend [c] (readBasic rest)
termination_by text => text.length
decreasing_by all_goals (simp only [List.length_cons, List.length_drop]; omega)

/-- A string behind its single quote. -/
def readLiteral : List Char → Except ReadError (List Char × List Char)
  | [] => .error .unexpectedEnd
  | c :: rest =>
    if c = '\'' then .ok ([], rest)
    else if isControl c then .error (.controlCharacter c)
    else prepend [c] (readLiteral rest)

/-! ## Strings on several lines -/

/-- The text without a line break at its start. -/
def dropBreak : List Char → List Char
  | '\n' :: rest => rest
  | '\r' :: '\n' :: rest => rest
  | text => text

/-- The blanks and line breaks that an escaped line break takes with it, if the
rest of the line is blank. -/
def continuation? (text : List Char) : Option (List Char) :=
  let rest := text.dropWhile isBlank
  match rest with
  | '\n' :: _ => some (skipSpace rest)
  | '\r' :: '\n' :: _ => some (skipSpace rest)
  | _ => none
where
  skipSpace : List Char → List Char
    | [] => []
    | '\r' :: '\n' :: rest => skipSpace rest
    | c :: rest => if isBlank c || c = '\n' then skipSpace rest else c :: rest

/-- Lines up to three quotes.  Up to two more quotes in front of these belong to
the string.  Each step consumes fuel, of which the length of the text is
enough. -/
def readLines (quote : Char) (escapes : Bool) :
    Nat → List Char → Except ReadError (List Char × List Char)
  | 0, _ => .error .unexpectedEnd
  | _ + 1, [] => .error .unexpectedEnd
  | fuel + 1, c :: rest =>
    if c = quote then
      let count := ((c :: rest).takeWhile (· = quote)).length
      let behind := (c :: rest).drop count
      if count < 3 then
        prepend (List.replicate count quote) (readLines quote escapes fuel behind)
      else if count ≤ 5 then .ok (List.replicate (count - 3) quote, behind)
      else .error (.unexpected quote)
    else if c = '\\' && escapes then
      match continuation? rest with
      | some rest => readLines quote escapes fuel rest
      | none =>
        match escape? rest with
        | none => .error .badEscape
        | some (x, width) =>
          prepend [x] (readLines quote escapes fuel (rest.drop width))
    else if c = '\n' then prepend ['\n'] (readLines quote escapes fuel rest)
    else if c = '\r' then
      match rest with
      | '\n' :: rest => prepend ['\r', '\n'] (readLines quote escapes fuel rest)
      | _ => .error (.controlCharacter c)
    else if isControl c then .error (.controlCharacter c)
    else prepend [c] (readLines quote escapes fuel rest)

/-- A string from its first quote on. -/
def readString : List Char → Except ReadError (List Char × List Char)
  | '"' :: '"' :: '"' :: rest =>
    let lines := dropBreak rest
    readLines '"' true (lines.length + 1) lines
  | '\'' :: '\'' :: '\'' :: rest =>
    let lines := dropBreak rest
    readLines '\'' false (lines.length + 1) lines
  | '"' :: rest => readBasic rest
  | '\'' :: rest => readLiteral rest
  | rest => complain rest

/-! ## Numbers -/

/-- Whether a text is digits with single underscores between them. -/
def isDigitRun (isDigit : Char → Bool) : List Char → Bool
  | [] => false
  | [d] => isDigit d
  | d :: '_' :: rest => isDigit d && isDigitRun isDigit rest
  | d :: rest => isDigit d && isDigitRun isDigit rest

def unsigned : List Char → List Char
  | '+' :: rest => rest
  | '-' :: rest => rest
  | text => text

/-- Whether a text is a decimal integer without a sign.  A zero may not be
followed by more digits. -/
def isWhole (text : List Char) : Bool :=
  isDigitRun Char.isDigit text && (text.head? ≠ some '0' || text.length = 1)

def isInteger (text : List Char) : Bool :=
  match text with
  | '0' :: 'x' :: digits => isDigitRun (fun c => (Text.hexValue? c).isSome) digits
  | '0' :: 'o' :: digits => isDigitRun (fun c => '0' ≤ c && c ≤ '7') digits
  | '0' :: 'b' :: digits => isDigitRun (fun c => c = '0' || c = '1') digits
  | _ => isWhole (unsigned text)

/-- Whether a text is the part of a float behind its integer: a fraction, a power
of ten, or both. -/
def isFloatTail (text : List Char) : Bool :=
  let isPower (power : List Char) : Bool :=
    match power with
    | [] => true
    | _ :: digits => isDigitRun Char.isDigit (unsigned digits)
  let isMark (c : Char) : Bool := c = 'e' || c = 'E'
  match text with
  | '.' :: rest =>
    isDigitRun Char.isDigit (rest.takeWhile (!isMark ·)) &&
      isPower (rest.dropWhile (!isMark ·))
  | c :: _ => isMark c && isPower text
  | [] => false

/-- The value of a run of digits in a base, with underscores between them. -/
def digitsValue (base : Nat) (text : List Char) : Nat :=
  text.foldl (fun n c => if c = '_' then n else base * n + (Text.hexValue? c).getD 0) 0

def integerValue (text : List Char) : Int :=
  match text with
  | '0' :: 'x' :: digits => digitsValue 16 digits
  | '0' :: 'o' :: digits => digitsValue 8 digits
  | '0' :: 'b' :: digits => digitsValue 2 digits
  | '-' :: digits => -(digitsValue 10 digits : Int)
  | '+' :: digits => digitsValue 10 digits
  | digits => digitsValue 10 digits

def isFloat (text : List Char) : Bool :=
  let body := unsigned text
  let isMark (c : Char) : Bool := c = '.' || c = 'e' || c = 'E'
  body = ['i', 'n', 'f'] || body = ['n', 'a', 'n'] ||
    (isWhole (body.takeWhile (!isMark ·)) && isFloatTail (body.dropWhile (!isMark ·)))

/-- Whether a number can be held: an integer in 128 bits, with a sign or without, a
float in a 64-bit binary float. -/
def numberFits (text : List Char) : Bool :=
  if isInteger text then
    let n := integerValue text
    n < Nat.pow 2 128 && -(Nat.pow 2 127) ≤ n
  else !(Decimal.ofText? (text.filter (· ≠ '_'))).any Decimal.overflows

/-! ## Dates -/

/-- The value of exactly two digits in front of a text. -/
def twoDigits? : List Char → Option (Nat × List Char)
  | a :: b :: rest =>
    if a.isDigit && b.isDigit then
      some (10 * (a.toNat - '0'.toNat) + (b.toNat - '0'.toNat), rest)
    else none
  | _ => none

/-- The text behind a character it has to begin with. -/
def after? (c : Char) : List Char → Option (List Char)
  | d :: rest => if c = d then some rest else none
  | [] => none

def daysIn (year month : Nat) : Nat :=
  if month = 2 then
    if year % 4 = 0 && (year % 100 ≠ 0 || year % 400 = 0) then 29 else 28
  else if [4, 6, 9, 11].contains month then 30
  else 31

/-- The text behind a day of the calendar. -/
def skipDay? (text : List Char) : Option (List Char) := do
  let (century, rest) ← twoDigits? text
  let (year, rest) ← twoDigits? rest
  let (month, rest) ← after? '-' rest >>= twoDigits?
  let (day, rest) ← after? '-' rest >>= twoDigits?
  if 1 ≤ month && month ≤ 12 && 1 ≤ day && day ≤ daysIn (100 * century + year) month then
    some rest
  else none

/-- The text behind a time of the day.  Seconds may be left out, and may have a
fraction. -/
def skipTime? (text : List Char) : Option (List Char) := do
  let (hour, rest) ← twoDigits? text
  let (minute, rest) ← after? ':' rest >>= twoDigits?
  if 24 ≤ hour || 60 ≤ minute then none
  match rest with
  | ':' :: rest => do
    let (second, rest) ← twoDigits? rest
    if 61 ≤ second then none
    match rest with
    | '.' :: fraction =>
      if startsWithDigit fraction then some (fraction.dropWhile Char.isDigit) else none
    | _ => some rest
  | _ => some rest
where
  startsWithDigit : List Char → Bool
    | [] => false
    | c :: _ => c.isDigit

/-- Whether a text is nothing, or the offset of a time zone. -/
def isOffset : List Char → Bool
  | [] => true
  | ['Z'] => true
  | ['z'] => true
  | sign :: rest =>
    (sign = '+' || sign = '-') &&
      match twoDigits? rest with
      | some (hour, rest) =>
        match after? ':' rest >>= twoDigits? with
        | some (minute, []) => hour < 24 && minute < 60
        | _ => false
      | none => false

/-- Whether a text is a day, a time, or both with an optional offset. -/
def isDate (text : List Char) : Bool :=
  match skipDay? text with
  | some [] => true
  | some (c :: rest) =>
    ['T', 't', ' '].contains c &&
      match skipTime? rest with
      | some offset => isOffset offset
      | none => false
  | none => skipTime? text = some []

/-! ## Scalars -/

def isScalarChar (c : Char) : Bool :=
  c.isAlphanum || ['+', '-', '_', '.', ':'].contains c

/-- The characters of a scalar that is no string.  A space belongs to it between
a day and a digit. -/
def spanScalar (input : List Char) : List Char × List Char :=
  let word := input.takeWhile isScalarChar
  let rest := input.drop word.length
  match rest with
  | ' ' :: d :: _ =>
    if skipDay? word = some [] && d.isDigit then
      let time := (rest.drop 1).takeWhile isScalarChar
      (word ++ ' ' :: time, rest.drop (time.length + 1))
    else (word, rest)
  | _ => (word, rest)

/-- A truth value, a number or a date. -/
def readScalar (input : List Char) : Except ReadError (Value × List Char) :=
  let (word, rest) := spanScalar input
  let text := String.ofList word
  if word.isEmpty then complain input
  else if word = ['t', 'r', 'u', 'e'] then .ok (.bool true, rest)
  else if word = ['f', 'a', 'l', 's', 'e'] then .ok (.bool false, rest)
  else if isInteger word || isFloat word then .ok (.number text, rest)
  else if isDate word then .ok (.date text, rest)
  else .error (.badScalar text)

/-! ## Values that can be held -/

namespace Value

mutual

/-- Whether every number in a value can be held. -/
def fits : Value → Bool
  | .number text => numberFits text.toList
  | .array items => itemsFit items
  | .table entries => entriesFit entries
  | _ => true

def itemsFit : List Value → Bool
  | [] => true
  | item :: rest => fits item && itemsFit rest

def entriesFit : List (String × Value) → Bool
  | [] => true
  | (_, value) :: rest => fits value && entriesFit rest

end

end Value

end TypedContainers.Toml
