import TypedContainers.Record.Model
import TypedContainers.Text.Lines

/-!
# The source text of a record

The text is a list of lines.  Wire names appear in it only as quoted literals, so
each of them stays on its own line; the container's own name appears as it is,
and only in the header comment.
-/

namespace TypedContainers.Source

def memberLines (member : Member) : List String :=
  (if member.isKey then ["    /// Key field."] else []) ++
    ["    #[serde(rename = " ++ Literal.quote member.wire ++ ")]",
      "    pub " ++ member.name ++ ": " ++ member.type ++ ","]

/-- Items one to a line, each after the given indentation, with a comma after all
but the last. -/
def itemLines (indent : String) : List String → List String
  | [] => []
  | [item] => [indent ++ item]
  | item :: rest => (indent ++ item ++ ",") :: itemLines indent rest

def structLines (model : RecordModel) : List String :=
  ["#[allow(non_snake_case)]",
    "#[derive(Debug, Clone, PartialEq, Serialize, Deserialize)]",
    "pub struct " ++ model.typeName ++ " \x7b"] ++
  model.members.flatMap memberLines ++
  ["\x7d"]

/-- The builder of the request for instances, for quoted field names. -/
def instancesLines (fields : List String) : List String :=
  ["    /// Request body for the container's `instances` endpoint.",
    "    pub fn instances_document() -> serde_json::Value \x7b",
    "        serde_json::json!(\x7b",
    "            \"panes\": \x7b",
    "                \"card\": \x7b",
    "                    \"fields\": ["] ++
  itemLines "                        " fields ++
  ["                    ]",
    "                \x7d",
    "            \x7d",
    "        \x7d)",
    "    \x7d"]

/-- The builder of the request with a restriction, for quoted field names. -/
def filterLines (fields : List String) : List String :=
  ["    /// Request body for the container's `filter` endpoint.",
    "    ///",
    "    /// `restriction` and `limit` are sent as given.",
    "    pub fn filter_document(restriction: &str, limit: i32) -> serde_json::Value \x7b",
    "        serde_json::json!(\x7b",
    "            \"restriction\": restriction,",
    "            \"fields\": ["] ++
  itemLines "                " fields ++
  ["            ],",
    "            \"limit\": limit",
    "        \x7d)",
    "    \x7d"]

/-- The start of the record type's functions, with the key field. -/
def keyLines (model : RecordModel) : List String :=
  ["impl " ++ model.typeName ++ " \x7b",
    "    /// Raw name of the key field.",
    "    pub const KEY_FIELD: &'static str = " ++ Literal.quote model.keyField ++ ";",
    ""]

/-- The key field and the request builders of the record type. -/
def implLines (model : RecordModel) : List String :=
  let fields := model.documentFields.map Literal.quote
  keyLines model ++ instancesLines fields ++ [""] ++ filterLines fields ++ ["\x7d"]

/-- One variant.  The first one is the default, and wire values that no naming
rule gives are written out. -/
def variantLines (screamingSnake isFirst : Bool) (v : EnumVariant) : List String :=
  (if isFirst then ["    #[default]"] else []) ++
  (if screamingSnake then []
    else ["    #[serde(rename = " ++ Literal.quote v.wire ++ ")]"]) ++
  ["    " ++ v.ident ++ ","]

def variantsLines (screamingSnake : Bool) : List EnumVariant → List String
  | [] => []
  | first :: rest =>
    variantLines screamingSnake true first ++
      rest.flatMap (variantLines screamingSnake false)

/-- The reader's case for one wire value. -/
def armLine (name : String) (v : EnumVariant) : String :=
  "            Some(" ++ Literal.quote v.wire ++ ") => " ++ name ++ "::" ++ v.ident ++ ","

def declarationLines (definition : EnumDefinition) : List String :=
  ["#[derive(Debug, Clone, Copy, Default, PartialEq, Eq, Serialize)]"] ++
  (if definition.screamingSnake
    then ["#[serde(rename_all = \"SCREAMING_SNAKE_CASE\")]"] else []) ++
  ["pub enum " ++ definition.name ++ " \x7b"] ++
  variantsLines definition.screamingSnake definition.variants ++
  ["\x7d"]

/-- The reader of an enumeration, which takes any value that is no wire value for
the default. -/
def readerLines (definition : EnumDefinition) : List String :=
  ["// Unknown values and null read as the default variant.",
    "impl<'de> Deserialize<'de> for " ++ definition.name ++ " \x7b",
    "    fn deserialize<D>(deserializer: D) -> Result<Self, D::Error>",
    "    where",
    "        D: serde::Deserializer<'de>,",
    "    \x7b",
    "        let value = Option::<String>::deserialize(deserializer)?;",
    "        Ok(match value.as_deref() \x7b"] ++
  definition.variants.map (armLine definition.name) ++
  ["            _ => " ++ definition.name ++ "::default(),",
    "        \x7d)",
    "    \x7d",
    "\x7d"]

def enumLines (definition : EnumDefinition) : List String :=
  [""] ++ declarationLines definition ++ [""] ++ readerLines definition

/-- The comment that opens the text. -/
def headerLine (model : RecordModel) : String :=
  "// @generated by voldelig from container `" ++ model.containerName ++
    "`. Do not edit."

def preambleLines (model : RecordModel) : List String :=
  [headerLine model, "", "use serde::\x7bDeserialize, Serialize\x7d;", ""]

/-- The whole text. -/
def recordLines (model : RecordModel) : List String :=
  preambleLines model ++ structLines model ++ [""] ++ implLines model ++
    model.enums.flatMap enumLines

/-- The declaration of one module in the module list. -/
def moduleLines (name : String) : List String :=
  ["", "#[allow(non_snake_case)]", "pub mod " ++ name ++ ";"]

def moduleListLines (modules : List String) : List String :=
  "// @generated by voldelig. Do not edit." :: modules.flatMap moduleLines

/-- The module list as a text, without a final line feed. -/
def moduleList (modules : List String) : String :=
  Text.joinLines (moduleListLines modules)

end TypedContainers.Source
