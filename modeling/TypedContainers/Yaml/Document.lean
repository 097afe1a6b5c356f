import TypedContainers.Json.Basic
import TypedContainers.Yaml.Lexer
import TypedContainers.Yaml.Node

/-!
# Block structured documents as documents

Anchors are numbered, aliases are replaced by what they name, and plain scalars
become null, booleans or numbers where they are spelled like one.  The result is
the same kind of document as an interchange text gives.
-/

namespace TypedContainers.Yaml

/-! ## Linking -/

/-- The numbers that anchor names currently stand for. -/
abbrev Anchors := List (List Char × Nat)

/-- A name takes the count of the names so far as its number. -/
def Anchors.define (known : Anchors) (name : List Char) : Nat × Anchors :=
  (known.length, (name, known.length) :: known.filter (·.1 ≠ name))

def Properties.link (known : Anchors) (properties : Properties (List Char)) :
    Properties Nat × Anchors :=
  match properties.anchor? with
  | none => (⟨none, properties.tag?⟩, known)
  | some name =>
    let (number, known) := known.define name
    (⟨some number, properties.tag?⟩, known)

namespace Node

mutual

/-- A node with numbers for names.  An alias names the latest anchor of its name
that is written before it. -/
def link (known : Anchors) : NamedNode → Except ReadError (Node Nat × Anchors)
  | .alias name =>
    match known.find? (·.1 = name) with
    | some (_, number) => .ok (.alias number, known)
    | none => .error .unknownAlias
  | .scalar properties plain text =>
    let (properties, known) := properties.link known
    .ok (.scalar properties plain text, known)
  | .sequence properties items => do
    let (properties, known) := properties.link known
    let (items, known) ← linkItems known items
    return (.sequence properties items, known)
  | .mapping properties pairs => do
    let (properties, known) := properties.link known
    let (pairs, known) ← linkPairs known pairs
    return (.mapping properties pairs, known)

def linkItems (known : Anchors) :
    List NamedNode → Except ReadError (List (Node Nat) × Anchors)
  | [] => .ok ([], known)
  | item :: rest => do
    let (item, known) ← link known item
    let (rest, known) ← linkItems known rest
    return (item :: rest, known)

def linkPairs (known : Anchors) :
    List (NamedNode × NamedNode) → Except ReadError (List (Node Nat × Node Nat) × Anchors)
  | [] => .ok ([], known)
  | (key, value) :: rest => do
    let (key, known) ← link known key
    let (value, known) ← link known value
    let (rest, known) ← linkPairs known rest
    return ((key, value) :: rest, known)

end

/-- A node under its number, if it has one. -/
def entry (properties : Properties Nat) (node : Node Nat) : List (Nat × Node Nat) :=
  properties.anchor?.toList.map fun number => (number, node)

mutual

/-- The nodes that have an anchor, with its number, in the order of writing. -/
def anchored : Node Nat → List (Nat × Node Nat)
  | .alias _ => []
  | .scalar properties plain text => entry properties (.scalar properties plain text)
  | .sequence properties items =>
    entry properties (.sequence properties items) ++ anchoredItems items
  | .mapping properties pairs =>
    entry properties (.mapping properties pairs) ++ anchoredPairs pairs

def anchoredItems : List (Node Nat) → List (Nat × Node Nat)
  | [] => []
  | item :: rest => anchored item ++ anchoredItems rest

def anchoredPairs : List (Node Nat × Node Nat) → List (Nat × Node Nat)
  | [] => []
  | (key, value) :: rest => anchored key ++ (anchored value ++ anchoredPairs rest)

end

mutual

/-- How many scalars and aliases a node holds, and starts and ends of
collections. -/
def events : Node Nat → Nat
  | .alias _ => 1
  | .scalar .. => 1
  | .sequence _ items => 2 + eventsOfItems items
  | .mapping _ pairs => 2 + eventsOfPairs pairs

def eventsOfItems : List (Node Nat) → Nat
  | [] => 0
  | item :: rest => events item + eventsOfItems rest

def eventsOfPairs : List (Node Nat × Node Nat) → Nat
  | [] => 0
  | (key, value) :: rest => events key + events value + eventsOfPairs rest

end

end Node

/-! ## Scalars -/

def isNull (text : String) : Bool :=
  ["~", "null", "Null", "NULL"].contains text

def bool? (text : String) : Option Bool :=
  if ["true", "True", "TRUE"].contains text then some true
  else if ["false", "False", "FALSE"].contains text then some false
  else none

def unsigned : List Char → List Char
  | '+' :: rest => rest
  | '-' :: rest => rest
  | text => text

/-- Whether a text is digits with a zero in front of the others. -/
def hasIdleZero (text : List Char) : Bool :=
  match unsigned text with
  | '0' :: digits => !digits.isEmpty && digits.all Char.isDigit
  | _ => false

/-- The value of a digit in a base up to sixteen. -/
def digit? (base : Nat) (c : Char) : Option Nat :=
  (Text.hexValue? c).filter (· < base)

def natural? (base : Nat) (digits : List Char) : Option Nat :=
  if digits.isEmpty then none
  else digits.foldlM (fun n c => (digit? base c).map (base * n + ·)) 0

/-- A natural number in decimal, or in another base behind the base's mark. -/
def magnitude? : List Char → Option Nat
  | '0' :: 'x' :: digits => natural? 16 digits
  | '0' :: 'o' :: digits => natural? 8 digits
  | '0' :: 'b' :: digits => natural? 2 digits
  | digits => natural? 10 digits

/-- An integer with an optional sign.  A zero may not stand in front of other
digits. -/
def integer? (text : List Char) : Option Int :=
  if hasIdleZero text then none
  else
    match text with
    | '-' :: digits => (magnitude? digits).map fun n => -(n : Int)
    | '+' :: digits => (magnitude? digits).map (↑·)
    | digits => (magnitude? digits).map (↑·)

/-- The spellings of the values that are no finite numbers. -/
def isUnbounded (text : String) : Bool :=
  [".inf", ".Inf", ".INF", "+.inf", "+.Inf", "+.INF", "-.inf", "-.Inf", "-.INF", ".nan",
    ".NaN", ".NAN"].contains text

/-- A float.  Documents have no infinities, so that those read as null; a number that
a 64-bit binary float cannot hold is none. -/
def float? (text : String) : Option Json :=
  if isUnbounded text then some .null
  else ((Decimal.ofText? text.toList).filter (!·.overflows)).map .number

/-- Whether an integer fits a number of documents: 64 bits, and a sign for
negative ones only. -/
def fitsNumber (n : Int) : Bool :=
  -(Nat.pow 2 63) ≤ n && n < UInt64.size

/-- Whether an integer fits 128 bits. -/
def fitsDouble (n : Int) : Bool :=
  -(Nat.pow 2 127) ≤ n && n < Nat.pow 2 128

/-- An integer that is at most 128 bits wide.  It is an error if it needs more
than 64. -/
def integerJson? (text : String) : Option (Except ReadError Json) :=
  match integer? text.toList with
  | none => none
  | some n =>
    if fitsNumber n then some (.ok (.number (.ofInt n)))
    else if fitsDouble n then some (.error .integerOutOfRange)
    else none

/-- The value of a plain scalar without a tag.  Digits behind an idle zero are a
text, but floats may begin with one. -/
def plainJson (text : String) : Except ReadError Json :=
  if text = "" || isNull text then .ok .null
  else
    match bool? text with
    | some value => .ok (.bool value)
    | none =>
      match integerJson? text with
      | some result => result
      | none =>
        if hasIdleZero text.toList then .ok (.string text)
        else .ok ((float? text).getD (.string text))

/-- Whether a tag is one of the document's own: an exclamation mark and a text.
With octets that are no text behind the mark, a tag says nothing. -/
def isLocal (tag : Tag) : Bool :=
  tag.isMarked && Tag.isText (tag.drop 1)

/-- The value of a scalar under a tag.  Four tags ask for a spelling of their
kind; tags of the document's own are not known; any other one makes a string. -/
def taggedJson (tag : Tag) (plain : Bool) (text : String) : Except ReadError Json :=
  let common (name : String) : Tag := Tag.ofAscii ("tag:yaml.org,2002:" ++ name).toList
  let orFault (value? : Option Json) : Except ReadError Json :=
    match value? with
    | some value => .ok value
    | none => .error .taggedValue
  if isLocal tag then .error .localTag
  else if tag = common "bool" then orFault ((bool? text).map .bool)
  else if tag = common "int" then (integerJson? text).getD (.error .taggedValue)
  else if tag = common "float" then orFault (float? text)
  else if tag = common "null" then orFault (if isNull text then some .null else none)
  else if plain && tag.isMarked then plainJson text
  else .ok (.string text)

def scalarJson (tag? : Option Tag) (plain : Bool) (text : String) :
    Except ReadError Json :=
  match tag? with
  | some tag => taggedJson tag plain text
  | none => if plain then plainJson text else .ok (.string text)

/-! ## Values -/

/-- How many collections may contain one another. -/
def maxDepth : Nat := 128

/-- A computation that may follow a limited number of aliases. -/
abbrev Resolve (α : Type) := StateT Nat (Except ReadError) α

/-- The node that a node stands for.  Of several nodes under one number the last
one counts. -/
def follow (table : List (Nat × Node Nat)) : Node Nat → Resolve (Node Nat)
  | .alias number => do
    match ← get with
    | 0 => throw .tooManyAliases
    | left + 1 =>
      set left
      match table.reverse.find? (·.1 = number) with
      | some (_, node) => return node
      | none => throw .unknownAlias
  | node => return node

/-- The text of a key, whatever its tag. -/
def keyText (table : List (Nat × Node Nat)) (node : Node Nat) : Resolve String := do
  match ← follow table node with
  | .scalar _ _ text => return String.ofList text
  | _ => throw .keyNotScalar

/-- Collections may have any tag but one of the document's own. -/
def checkTag (properties : Properties Nat) : Resolve Unit :=
  if properties.tag?.any isLocal then throw .localTag else return

/-- The document of a node, with the given depth of nesting left. -/
def toJson (table : List (Nat × Node Nat)) (depth : Nat) (node : Node Nat) :
    Resolve Json := do
  match ← follow table node with
  | .alias _ => throw .unknownAlias
  | .scalar properties plain text =>
    match scalarJson properties.tag? plain (String.ofList text) with
    | .ok value => return value
    | .error e => throw e
  | .sequence properties items =>
    checkTag properties
    match depth with
    | 0 => throw .tooDeep
    | depth + 1 => return .array (← items.mapM (toJson table depth))
  | .mapping properties pairs =>
    checkTag properties
    match depth with
    | 0 => throw .tooDeep
    | depth + 1 =>
      return .object (← pairs.mapM fun (key, value) => do
        let name ← keyText table key
        return (name, ← toJson table depth value))

def read (text : String) : Except ReadError Json := do
  let root ← NamedNode.ofTokens (← tokenize text)
  let (root, _) ← root.link []
  let (document, _) ← (toJson root.anchored maxDepth root).run (100 * root.events)
  return document

end TypedContainers.Yaml
