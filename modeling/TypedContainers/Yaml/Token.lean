import TypedContainers.Yaml.Scalar

/-!
# Tokens

Tokens mark where collections, entries, keys and values begin, and carry the
names and texts between them.  This module reads the tokens that do not depend
on the structure around them: tags, anchors, directives.
-/

namespace TypedContainers.Yaml

/-- A tag or a part of one: its octets, which need not be an encoded text. -/
abbrev Tag := List UInt8

namespace Tag

def ofAscii (text : List Char) : Tag :=
  text.map fun c => UInt8.ofNat c.toNat

/-- A tag ends in front of its first zero octet. -/
def cut (tag : Tag) : Tag :=
  tag.takeWhile (· ≠ 0)

/-- Whether octets are an encoded text. -/
def isText (tag : Tag) : Bool :=
  (String.fromUTF8? ⟨tag.toArray⟩).isSome

/-- Whether a tag begins with an exclamation mark, as tags of the document's own
do. -/
def isMarked (tag : Tag) : Bool :=
  tag.head? = some 0x21

end Tag

inductive Token
  | version (major minor : Nat)
  | tagDirective (handle : List Char) (stem : Tag)
  | documentStart
  | documentEnd
  | blockSequenceStart
  | blockMappingStart
  | blockEnd
  | flowSequenceStart
  | flowSequenceEnd
  | flowMappingStart
  | flowMappingEnd
  | blockEntry
  | flowEntry
  | key
  | value
  | alias (name : List Char)
  | anchor (name : List Char)
  | tag (handle : List Char) (suffix : Tag)
  | scalar (plain : Bool) (text : List Char)
deriving Repr, DecidableEq, Inhabited

namespace Token

/-! ## Anchors -/

/-- A name behind the character that introduces it. -/
def readName (cursor : Cursor) : Except ReadError (List Char × Cursor) :=
  let (name, cursor) := cursor.span isNameChar
  if name.isEmpty then .error .badAnchor
  else if atSpace cursor.rest ||
      startsWithAny ['?', ':', ',', ']', '}', '%', '@', '`'] cursor.rest then
    .ok (name, cursor)
  else .error .badAnchor

/-! ## Tags -/

/-- Whether a character may stand in a tag.  Three more are allowed in a tag that
is written in full. -/
def isTagChar (full : Bool) (c : Char) : Bool :=
  isNameChar c ||
    [';', '/', '?', ':', '@', '&', '=', '+', '$', '.', '%', '!', '~', '*', '\'', '(',
      ')'].contains c ||
    (full && [',', '[', ']'].contains c)

/-- How many octets follow the first one of an encoded character. -/
def following? (octet : Nat) : Option Nat :=
  if octet < 0x80 then some 0
  else if octet / 0x20 = 0x6 then some 1
  else if octet / 0x10 = 0xe then some 2
  else if octet / 0x08 = 0x1e then some 3
  else none

/-- How many octets of the current character are missing behind an octet, if it
may stand where `missing` of them were. -/
def afterOctet? (missing octet : Nat) : Option Nat :=
  if missing = 0 then following? octet
  else if octet / 0x40 = 0x2 then some (missing - 1)
  else none

/-- The octets of a tag.  An escape is a percent sign and the two digits of an
octet.  Escapes have to come in groups with the outline of encoded characters,
`missing` octets of the current one being left. -/
def readTagOctets (full : Bool) (missing : Nat) :
    List Char → Except ReadError (Tag × List Char)
  | [] => if missing = 0 then .ok ([], []) else .error .badTag
  | c :: rest =>
    if c = '%' then
      match rest with
      | a :: b :: rest =>
        match Text.hexNumber? [a, b] with
        | none => .error .badTag
        | some octet =>
          match afterOctet? missing octet with
          | none => .error .badTag
          | some missing =>
            (readTagOctets full missing rest).map fun (octets, rest) =>
              (UInt8.ofNat octet :: octets, rest)
      | _ => .error .badTag
    else if missing ≠ 0 then .error .badTag
    else if isTagChar full c then
      (readTagOctets full 0 rest).map fun (octets, rest) =>
        (Tag.ofAscii [c] ++ octets, rest)
    else .ok ([], c :: rest)

/-- The part of a tag behind its handle. -/
def readTagText (full : Bool) (cursor : Cursor) : Except ReadError (Tag × Cursor) :=
  (readTagOctets full 0 cursor.rest).map fun (octets, rest) =>
    (octets, cursor.moveTo rest.length)

/-- Characters between exclamation marks, with the marks.  The closing mark may
be missing. -/
def readHandle (cursor : Cursor) : Except ReadError (List Char × Cursor) :=
  match cursor.rest with
  | '!' :: _ =>
    let (name, cursor) := (cursor.drop 1).span isNameChar
    match cursor.rest with
    | '!' :: _ => .ok ('!' :: name ++ ['!'], cursor.drop 1)
    | _ => .ok ('!' :: name, cursor)
  | _ => .error .badTag

/-- Whether a handle has both of its marks. -/
def isClosedHandle (handle : List Char) : Bool :=
  2 ≤ handle.length && handle.getLast? = some '!'

/-- A tag, from its exclamation mark on: written in full between angle brackets,
or a handle and a suffix.  A lone exclamation mark is a tag of its own. -/
def readTag (inFlow : Bool) (cursor : Cursor) : Except ReadError (Token × Cursor) := do
  let (token, cursor) ←
    match cursor.rest with
    | '!' :: '<' :: _ => do
      let (text, cursor) ← readTagText true (cursor.drop 2)
      match text, cursor.rest with
      | _ :: _, '>' :: _ => pure (tag [] text.cut, cursor.drop 1)
      | _, _ => throw .badTag
    | _ => do
      let (handle, cursor) ← readHandle cursor
      let (text, cursor) ← readTagText false cursor
      if isClosedHandle handle then
        if text.isEmpty then throw .badTag
        else pure (tag handle text.cut, cursor)
      else
        match Tag.cut (Tag.ofAscii (handle.drop 1) ++ text) with
        | [] => pure (tag [] (Tag.ofAscii ['!']), cursor)
        | suffix => pure (tag ['!'] suffix, cursor)
  if atSpace cursor.rest || (inFlow && startsWithAny [','] cursor.rest) then
    return (token, cursor)
  else throw .badTag

/-! ## Directives -/

/-- A number of at most nine digits. -/
def readNumber (cursor : Cursor) : Except ReadError (Nat × Cursor) :=
  let (digits, cursor) := cursor.span Char.isDigit
  if digits.isEmpty || 9 < digits.length then .error .badDirective
  else .ok (digits.foldl (fun n c => 10 * n + (c.toNat - '0'.toNat)) 0, cursor)

def readVersion (cursor : Cursor) : Except ReadError (Token × Cursor) := do
  let (major, cursor) ← readNumber cursor
  match cursor.rest with
  | '.' :: _ => do
    let (minor, cursor) ← readNumber (cursor.drop 1)
    return (version major minor, cursor)
  | _ => throw .badDirective

def readTagDirective (cursor : Cursor) : Except ReadError (Token × Cursor) := do
  let (handle, cursor) ← readHandle cursor
  if handle ≠ ['!'] && !isClosedHandle handle then throw .badDirective
  if !startsWithAny [' ', '\t'] cursor.rest then throw .badDirective
  let (stem, cursor) ← readTagText true (cursor.skip isBlank)
  if stem.isEmpty || !atSpace cursor.rest then throw .badDirective
  return (tagDirective handle stem.cut, cursor)

/-- A directive behind its percent sign, with the rest of its line. -/
def readDirective (cursor : Cursor) : Except ReadError (Token × Cursor) := do
  let (name, cursor) := cursor.span isNameChar
  if name.isEmpty || !atSpace cursor.rest then throw .badDirective
  let cursor := cursor.skip isBlank
  let (token, cursor) ←
    if name = ['Y', 'A', 'M', 'L'] then readVersion cursor
    else if name = ['T', 'A', 'G'] then readTagDirective cursor
    else throw .badDirective
  match cursor.endLine? with
  | some cursor => return (token, cursor)
  | none => throw .badDirective

end Token

end TypedContainers.Yaml
