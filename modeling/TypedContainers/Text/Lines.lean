/-!
# Texts as lists of lines
-/

namespace TypedContainers.Text

/-- Lines with a line feed between each two of them. -/
def joinLines (lines : List String) : String :=
  String.intercalate "\n" lines

/-- Lines with a line feed after each of them. -/
def unlines (lines : List String) : String :=
  String.join (lines.map (· ++ "\n"))

end TypedContainers.Text
