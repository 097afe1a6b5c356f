import TypedContainers.Json.Basic

/-!
# Writing documents compactly

No blanks are written, members keep their order, and in strings only the quote,
the backslash and the control characters below the space are escaped.
-/

namespace TypedContainers.Json

def hexDigit (n : Nat) : Char :=
  if n < 10 then Char.ofNat ('0'.toNat + n) else Char.ofNat ('a'.toNat + (n - 10))

/-- How one character is written inside a string. -/
def escape (c : Char) : List Char :=
  if c = '"' then ['\\', '"']
  else if c = '\\' then ['\\', '\\']
  else if c = '\x08' then ['\\', 'b']
  else if c = '\x0c' then ['\\', 'f']
  else if c = '\n' then ['\\', 'n']
  else if c = '\r' then ['\\', 'r']
  else if c = '\t' then ['\\', 't']
  else if c.toNat < 0x20 then
    ['\\', 'u', '0', '0', hexDigit (c.toNat / 16), hexDigit (c.toNat % 16)]
  else [c]

def stringChars (text : String) : List Char :=
  '"' :: (text.toList.flatMap escape ++ ['"'])

/-- A number: its coefficient, and the power of ten unless that is zero. -/
def numberChars (d : Decimal) : List Char :=
  (toString d.coefficient).toList ++
    (if d.exponent = 0 then [] else 'e' :: (toString d.exponent).toList)

mutual

def compactChars : Json → List Char
  | null => ['n', 'u', 'l', 'l']
  | bool true => ['t', 'r', 'u', 'e']
  | bool false => ['f', 'a', 'l', 's', 'e']
  | number d => numberChars d
  | string text => stringChars text
  | array items => '[' :: compactItems items
  | object members => '{' :: compactMembers members

/-- The items of an array with commas between them, and the closing bracket. -/
def compactItems : List Json → List Char
  | [] => [']']
  | [item] => compactChars item ++ [']']
  | item :: rest => compactChars item ++ ',' :: compactItems rest

/-- The members of an object with commas between them, and the closing brace. -/
def compactMembers : List (String × Json) → List Char
  | [] => ['}']
  | [(name, value)] => stringChars name ++ ':' :: (compactChars value ++ ['}'])
  | (name, value) :: rest =>
    stringChars name ++ ':' :: (compactChars value ++ ',' :: compactMembers rest)

end

def compact (document : Json) : String :=
  String.ofList (compactChars document)

end TypedContainers.Json
