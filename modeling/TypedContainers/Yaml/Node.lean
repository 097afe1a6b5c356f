import TypedContainers.Yaml.Token

/-!
# Nodes

A document is a tree of scalars, sequences and mappings, any of which may have
an anchor and a tag, with aliases among its leaves.  The tree is read off the
tokens by recursive descent; a missing entry, key or value is an empty scalar.
-/

namespace TypedContainers.Yaml

/-- The anchor and the tag of a node. -/
structure Properties (ref : Type) where
  anchor? : Option ref := none
  tag? : Option Tag := none
deriving Repr, Inhabited

/-- A node.  Anchors and aliases are of type `ref`: names in a document as it is
written, numbers once they are linked. -/
inductive Node (ref : Type)
  | alias (target : ref)
  | scalar (properties : Properties ref) (plain : Bool) (text : List Char)
  | sequence (properties : Properties ref) (items : List (Node ref))
  | mapping (properties : Properties ref) (pairs : List (Node ref × Node ref))
deriving Repr, Inhabited

/-- The node of a place where nothing is written. -/
def Node.empty {ref : Type} : Node ref :=
  .scalar {} true []

abbrev NamedNode := Node (List Char)

/-- What each tag handle stands for. -/
abbrev Handles := List (List Char × Tag)

namespace NamedNode

/-- The full tag of a handle and a suffix. -/
def fullTag (handles : Handles) (handle : List Char) (suffix : Tag) :
    Except ReadError Tag :=
  if handle.isEmpty then .ok suffix
  else
    match handles.find? (·.1 = handle) with
    | some (_, stem) => .ok (stem ++ suffix)
    | none => .error .unknownTagHandle

/-- The anchor and the tag in front of a node, in either order. -/
def readProperties (handles : Handles) :
    List Token → Except ReadError (Properties (List Char) × List Token)
  | .anchor name :: .tag handle suffix :: rest => do
    return (⟨some name, some (← fullTag handles handle suffix)⟩, rest)
  | .tag handle suffix :: .anchor name :: rest => do
    return (⟨some name, some (← fullTag handles handle suffix)⟩, rest)
  | .anchor name :: rest => .ok (⟨some name, none⟩, rest)
  | .tag handle suffix :: rest => do
    return (⟨none, some (← fullTag handles handle suffix)⟩, rest)
  | rest => .ok ({}, rest)

def nextIn (choices : List Token) : List Token → Bool
  | [] => false
  | token :: _ => choices.contains token

/-- The tokens behind an entry of a flow collection: at its end, or at the entry
behind the comma. -/
def skipComma (close : Token) : List Token → Except ReadError (List Token)
  | .flowEntry :: rest => .ok rest
  | tokens => if nextIn [close] tokens then .ok tokens else .error .unexpectedToken

/-- An empty scalar, which only its anchor or tag makes a node. -/
def parseBare (properties : Properties (List Char)) (tokens : List Token) :
    Except ReadError (NamedNode × List Token) :=
  if properties.anchor?.isSome || properties.tag?.isSome then
    .ok (.scalar properties true [], tokens)
  else .error .unexpectedToken

mutual

/-- A node.  Block collections are read only where `block` allows them, and a
sequence that is not indented only where `indentless` allows it.  Each step
consumes fuel, of which twice the number of tokens is enough. -/
def parse (handles : Handles) :
    Nat → (block indentless : Bool) → List Token → Except ReadError (NamedNode × List Token)
  | 0, _, _, _ => .error .unexpectedEnd
  | _ + 1, _, _, .alias name :: rest => .ok (.alias name, rest)
  | fuel + 1, block, indentless, tokens => do
    let (properties, tokens) ← readProperties handles tokens
    match tokens with
    | .scalar plain text :: rest =>
      return (.scalar properties plain text, rest)
    | .flowSequenceStart :: rest =>
      let (items, rest) ← parseFlowItems handles fuel rest
      return (.sequence properties items, rest)
    | .flowMappingStart :: rest =>
      let (pairs, rest) ← parseFlowPairs handles fuel rest
      return (.mapping properties pairs, rest)
    | token :: rest =>
      if token = .blockEntry && indentless then
        let (items, rest) ← parseIndentless handles fuel tokens
        return (.sequence properties items, rest)
      else if token = .blockSequenceStart && block then
        let (items, rest) ← parseBlockItems handles fuel rest
        return (.sequence properties items, rest)
      else if token = .blockMappingStart && block then
        let (pairs, rest) ← parseBlockPairs handles fuel rest
        return (.mapping properties pairs, rest)
      else parseBare properties tokens
    | [] => parseBare properties tokens

/-- A node, or an empty scalar in front of one of the given tokens. -/
def parseUnless (handles : Handles) :
    Nat → (block indentless : Bool) → List Token → List Token →
      Except ReadError (NamedNode × List Token)
  | 0, _, _, _, _ => .error .unexpectedEnd
  | fuel + 1, block, indentless, ends, tokens =>
    if nextIn ends tokens then .ok (.empty, tokens)
    else parse handles fuel block indentless tokens

def parseBlockItems (handles : Handles) :
    Nat → List Token → Except ReadError (List NamedNode × List Token)
  | 0, _ => .error .unexpectedEnd
  | _ + 1, .blockEnd :: rest => .ok ([], rest)
  | fuel + 1, .blockEntry :: rest => do
    let (item, rest) ← parseUnless handles fuel true false [.blockEntry, .blockEnd] rest
    let (items, rest) ← parseBlockItems handles fuel rest
    return (item :: items, rest)
  | _ + 1, _ => .error .unexpectedToken

/-- The items of a sequence at the column of the mapping around it. -/
def parseIndentless (handles : Handles) :
    Nat → List Token → Except ReadError (List NamedNode × List Token)
  | 0, _ => .error .unexpectedEnd
  | fuel + 1, .blockEntry :: rest => do
    let (item, rest) ←
      parseUnless handles fuel true false [.blockEntry, .key, .value, .blockEnd] rest
    let (items, rest) ← parseIndentless handles fuel rest
    return (item :: items, rest)
  | _ + 1, tokens => .ok ([], tokens)

def parseBlockPairs (handles : Handles) :
    Nat → List Token → Except ReadError (List (NamedNode × NamedNode) × List Token)
  | 0, _ => .error .unexpectedEnd
  | _ + 1, .blockEnd :: rest => .ok ([], rest)
  | fuel + 1, .key :: rest => do
    let ends := [.key, .value, .blockEnd]
    let (key, rest) ← parseUnless handles fuel true true ends rest
    let (value, rest) ←
      match rest with
      | .value :: rest => parseUnless handles fuel true true ends rest
      | _ => pure (.empty, rest)
    let (pairs, rest) ← parseBlockPairs handles fuel rest
    return ((key, value) :: pairs, rest)
  | _ + 1, _ => .error .unexpectedToken

/-- The items of a flow sequence up to its end.  A key among them makes a mapping
of one pair; where the key is empty, the token behind the mark is its end. -/
def parseFlowItems (handles : Handles) :
    Nat → List Token → Except ReadError (List NamedNode × List Token)
  | 0, _ => .error .unexpectedEnd
  | _ + 1, .flowSequenceEnd :: rest => .ok ([], rest)
  | fuel + 1, .key :: rest => do
    let (key, rest) ←
      if nextIn [.value, .flowEntry, .flowSequenceEnd] rest then
        pure (.empty, rest.drop 1)
      else parse handles fuel false false rest
    let (value, rest) ←
      match rest with
      | .value :: rest =>
        parseUnless handles fuel false false [.flowEntry, .flowSequenceEnd] rest
      | _ => pure (.empty, rest)
    let rest ← skipComma .flowSequenceEnd rest
    let (items, rest) ← parseFlowItems handles fuel rest
    return (.mapping {} [(key, value)] :: items, rest)
  | fuel + 1, tokens => do
    let (item, rest) ← parse handles fuel false false tokens
    let rest ← skipComma .flowSequenceEnd rest
    let (items, rest) ← parseFlowItems handles fuel rest
    return (item :: items, rest)

def parseFlowPairs (handles : Handles) :
    Nat → List Token → Except ReadError (List (NamedNode × NamedNode) × List Token)
  | 0, _ => .error .unexpectedEnd
  | _ + 1, .flowMappingEnd :: rest => .ok ([], rest)
  | fuel + 1, .key :: rest => do
    let (key, rest) ←
      parseUnless handles fuel false false [.value, .flowEntry, .flowMappingEnd] rest
    let (value, rest) ←
      match rest with
      | .value :: rest =>
        parseUnless handles fuel false false [.flowEntry, .flowMappingEnd] rest
      | _ => pure (.empty, rest)
    let rest ← skipComma .flowMappingEnd rest
    let (pairs, rest) ← parseFlowPairs handles fuel rest
    return ((key, value) :: pairs, rest)
  | fuel + 1, tokens => do
    let (key, rest) ← parse handles fuel false false tokens
    let rest ← skipComma .flowMappingEnd rest
    let (pairs, rest) ← parseFlowPairs handles fuel rest
    return ((key, .empty) :: pairs, rest)

end

/-! ## Documents -/

def commonHandles : Handles :=
  [(['!'], Tag.ofAscii ['!']), (['!', '!'], Tag.ofAscii "tag:yaml.org,2002:".toList)]

/-- The directives in front of a document, with the handles they declare.  The
version may be given once, and each handle may be declared once. -/
def readDirectives (versionSeen : Bool) (handles : Handles) :
    List Token → Except ReadError (Handles × List Token)
  | .version major minor :: rest =>
    if versionSeen then .error .repeatedDirective
    else if major = 1 && (minor = 1 || minor = 2) then readDirectives true handles rest
    else .error .unsupportedVersion
  | .tagDirective handle stem :: rest =>
    if handles.any (·.1 = handle) then .error .repeatedDirective
    else readDirectives versionSeen (handles ++ [(handle, stem)]) rest
  | rest => .ok (handles, rest)

/-- The root of a document that is introduced by directives or a start mark, or
that begins at once. -/
def parseRoot (tokens : List Token) : Except ReadError (NamedNode × List Token) := do
  let fuel := 2 * tokens.length + 2
  match tokens with
  | .documentStart :: _ | .version .. :: _ | .tagDirective .. :: _ => do
    let (handles, rest) ← readDirectives false [] tokens
    match rest with
    | .documentStart :: rest =>
      match rest with
      | [] | .documentStart :: _ | .documentEnd :: _ | .version .. :: _
      | .tagDirective .. :: _ => return (.empty, rest)
      | _ => parse (handles ++ commonHandles) fuel true false rest
    | _ => throw .unexpectedToken
  | _ => parse commonHandles fuel true false tokens

/-- The only document of a text.  A text without tokens is an empty scalar. -/
def ofTokens (tokens : List Token) : Except ReadError NamedNode :=
  match tokens with
  | [] => .ok .empty
  | _ => do
    let (root, rest) ← parseRoot tokens
    if (rest.dropWhile (· = .documentEnd)).isEmpty then return root
    else throw .secondDocument

end NamedNode

end TypedContainers.Yaml
