import TypedContainers.Text.Lines

/-!
# Starter files

What a new project begins with: a configuration document with one container, and
settings that spell out the defaults.
-/

namespace TypedContainers.Starter

/-- The configuration document of a new project. -/
def configuration : String :=
  Text.joinLines
    ["\x7b",
      "  \"Maconomy\": \x7b",
      "    \"containers\": \x7b",
      "      \"employee\": \x7b",
      "        \"card\": \x7b",
      "          \"keyfield\": \"employeenumber\",",
      "          \"fields\": [",
      "            \"employeenumber\",",
      "            \"name1\",",
      "            \"email\",",
      "            \"gender\",",
      "            \"country\"",
      "          ]",
      "        \x7d",
      "      \x7d",
      "    \x7d",
      "  \x7d",
      "\x7d"]

/-- The settings of a new project.  The output directory is written between the
quotes as it is. -/
def settings (outputDir : String) : String :=
  Text.joinLines
    ["# voldelig generator settings",
      "",
      "# Directory generated files are written to, relative to the working directory.",
      "output_dir = \"" ++ outputDir ++ "\"",
      "",
      "# Run rustfmt over generated files.",
      "format = false",
      "",
      "# Extra fields typed as enums. The first variant is the not-present default.",
      "#",
      "# [[categorical]]",
      "# field = \"status\"",
      "# type_name = \"StatusType\"",
      "# variants = [\"STATUS_NOT_HERE\", \"OPEN\", \"CLOSED\"]"]

end TypedContainers.Starter
