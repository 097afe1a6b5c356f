import TypedContainers.Text.Unprintable

/-!
# Quoted string literals

Generated code and messages carry configuration strings as quoted literals.  A
literal stays on one line whatever the string holds, and every character of the
string is either written as itself or by an escape of its own.
-/

namespace TypedContainers.Literal

/-- The lower case hexadecimal digits of a number, without leading zeros. -/
def hexDigits (n : Nat) : List Char :=
  Nat.toDigits 16 n

/-- How one character is written between the quotes. -/
def escape (c : Char) : List Char :=
  if c = '"' then ['\\', '"']
  else if c = '\\' then ['\\', '\\']
  else if c = '\x00' then ['\\', '0']
  else if c = '\t' then ['\\', 't']
  else if c = '\r' then ['\\', 'r']
  else if c = '\n' then ['\\', 'n']
  else if Text.isUnprintable c then '\\' :: 'u' :: '{' :: (hexDigits c.toNat ++ ['}'])
  else [c]

/-- A string between quotes, each character escaped. -/
def quoteChars (text : List Char) : List Char :=
  '"' :: (text.flatMap escape ++ ['"'])

/-- The quoted literal of a string. -/
def quote (text : String) : String :=
  String.ofList (quoteChars text.toList)

example : quoteChars ['a', '"', '\n', '\''] =
    ['"', 'a', '\\', '"', '\\', 'n', '\'', '"'] := by
  decide +kernel

end TypedContainers.Literal
