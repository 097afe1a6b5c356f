/-!
# Identifier names

Names in a configuration come from a remote store and hold arbitrary characters.
Everything declared in generated code goes through `Naming.pascal` first: the
maximal runs of ASCII letters and digits are kept, each with its first character
raised, and everything between them is dropped.
-/

namespace TypedContainers.Naming

/-- The words of a text: its maximal runs of ASCII letters and digits, in order. -/
def words : List Char → List (List Char)
  | [] => []
  | c :: rest =>
    if c.isAlphanum then
      match rest, words rest with
      | next :: _, word :: others =>
        if next.isAlphanum then (c :: word) :: others else [c] :: word :: others
      | _, others => [c] :: others
    else words rest

/-- A word with its first character raised and the rest as it was. -/
def capitalize : List Char → List Char
  | [] => []
  | c :: rest => c.toUpper :: rest

/-- The words of a text, each capitalized, with nothing between them. -/
def pascalChars (text : List Char) : List Char :=
  (words text).flatMap capitalize

/-- The name a text is declared under. -/
def pascal (text : String) : String :=
  String.ofList (pascalChars text.toList)

/-- A name in capitals, with an underscore before every capital but the first
character. -/
def screamingSnakeChars : List Char → List Char
  | [] => []
  | c :: rest =>
    c.toUpper :: rest.flatMap fun d => if d.isUpper then ['_', d.toUpper] else [d.toUpper]

def screamingSnake (name : String) : String :=
  String.ofList (screamingSnakeChars name.toList)

/-- The lower case of a character as far as words are concerned.  Beyond ASCII
only the capital I with a dot and the Kelvin sign have a lower case that holds an
ASCII letter; every other such character separates words in either case. -/
def lowerChar (c : Char) : List Char :=
  if c = '\u0130' then ['i', '\u0307']
  else if c = '\u212a' then ['k']
  else [c.toLower]

/-- A text with every character in lower case, in the sense of `lowerChar`. -/
def lower (text : String) : String :=
  String.ofList (text.toList.flatMap lowerChar)

example : pascalChars "job-costLine".toList = "JobCostLine".toList := by decide

example : pascalChars "2nd é field".toList = "2ndField".toList := by decide

example : screamingSnakeChars "CountryNotHere".toList = "COUNTRY_NOT_HERE".toList := by
  decide

end TypedContainers.Naming
