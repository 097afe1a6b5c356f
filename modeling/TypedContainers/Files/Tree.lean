import TypedContainers.Files.Path

/-!
# File trees

A tree of directories and files, without links.  A path is walked name by name
from the root or a working directory, and every name it passes has to be a
directory, so that `..` leads back only from where the walk has been.  A path may
hold no NUL, and paths and names have a greatest length.

Writing a file sets its whole content or fails and changes nothing.  This is assumed of
the system: one that runs out of space may leave a file empty or cut short, and states
of that kind are not modelled.
-/

namespace TypedContainers

inductive IoError
  | notFound
  | alreadyExists
  | isADirectory
  | notADirectory
  | permissionDenied
  | invalidData
  | invalidInput
  | invalidFilename
  | other (description : String)
deriving Repr, DecidableEq

def IoError.message : IoError → String
  | notFound => "No such file or directory"
  | alreadyExists => "File exists"
  | isADirectory => "Is a directory"
  | notADirectory => "Not a directory"
  | permissionDenied => "Permission denied"
  | invalidData => "stream did not contain valid UTF-8"
  | invalidInput => "file name contained an unexpected NUL byte"
  | invalidFilename => "File name too long"
  | other description => description

/-- The content of a file: text, or octets that are no text. -/
inductive Content
  | text (value : String)
  | binary (octets : List UInt8)
deriving Repr, DecidableEq

/-- What a tree holds at a place. -/
inductive FileNode
  | directory
  | file (content : Content)
deriving Repr, DecidableEq

/-- A place in a tree: the names on the way to it, the last one first.  The root
is the empty list. -/
abbrev Location := List String

/-- What stands at each place.  The root is a directory whatever the list says. -/
structure FileTree where
  nodes : List (Location × FileNode)
deriving Repr, DecidableEq, Inhabited

namespace FileTree

def empty : FileTree :=
  ⟨[]⟩

def get? (tree : FileTree) (location : Location) : Option FileNode :=
  match location with
  | [] => some .directory
  | _ => tree.nodes.lookup location

/-- Put a node in place of the one at a place, or at the end of the list. -/
def put (location : Location) (node : FileNode) :
    List (Location × FileNode) → List (Location × FileNode)
  | [] => [(location, node)]
  | (other, known) :: rest =>
    if other = location then (location, node) :: rest
    else (other, known) :: put location node rest

def set (tree : FileTree) (location : Location) (node : FileNode) : FileTree :=
  ⟨put location node tree.nodes⟩

/-! ## Walking -/

/-- Fails unless there is a directory at a place. -/
def enter (tree : FileTree) (location : Location) : Except IoError Unit :=
  match tree.get? location with
  | none => .error .notFound
  | some (.file _) => .error .notADirectory
  | some .directory => .ok ()

/-- How many octets a name may take. -/
def maxName : Nat := 255

/-- How many octets a path may take. -/
def maxPath : Nat := 4095

/-- Fails for a path that no walk may start from: the empty one leads nowhere. -/
def checkPath (path : Path) : Except IoError Unit :=
  if path.text.contains '\x00' then .error .invalidInput
  else if path.text = "" then .error .notFound
  else if maxPath < path.text.utf8ByteSize then .error .invalidFilename
  else .ok ()

def isTooLong (name : String) : Bool :=
  maxName < name.utf8ByteSize

/-- The place that some names lead to, if every place before the last is a
directory. -/
def walk (tree : FileTree) : Location → List String → Except IoError Location
  | here, [] => .ok here
  | here, name :: rest =>
    match tree.enter here with
    | .error e => .error e
    | .ok () =>
      if name = "" || name = "." then walk tree here rest
      else if name = ".." then walk tree here.tail rest
      else if isTooLong name then .error .invalidFilename
      else walk tree (name :: here) rest

/-- The names of a path, with empty ones where slashes meet. -/
def names (path : Path) : List String :=
  (Text.split '/' path.text.toList).map String.ofList

def origin (workingDir : Location) (path : Path) : Location :=
  if path.text.startsWith "/" then [] else workingDir

/-- What a path leads to. -/
def find (tree : FileTree) (workingDir : Location) (path : Path) :
    Except IoError FileNode :=
  match checkPath path with
  | .error e => .error e
  | .ok () =>
    match tree.walk (origin workingDir path) (names path) with
    | .error e => .error e
    | .ok location =>
      match tree.get? location with
      | some node => .ok node
      | none => .error .notFound

def pathExists (tree : FileTree) (workingDir : Location) (path : Path) : Bool :=
  (tree.find workingDir path).isOk

def isDirectory (tree : FileTree) (workingDir : Location) (path : Path) : Bool :=
  match tree.find workingDir path with
  | .ok .directory => true
  | _ => false

def readText (tree : FileTree) (workingDir : Location) (path : Path) :
    Except IoError String :=
  match tree.find workingDir path with
  | .error e => .error e
  | .ok .directory => .error .isADirectory
  | .ok (.file (.binary _)) => .error .invalidData
  | .ok (.file (.text text)) => .ok text

/-! ## Changing -/

/-- The place of an entry that may be new: its directory, its name, and whether
slashes follow the name.  A path of slashes alone has no entry. -/
structure Entry where
  parent : Location
  name : String
  slashed : Bool
deriving Repr, DecidableEq

namespace Entry

def location (entry : Entry) : Location :=
  entry.name :: entry.parent

/-- Whether the name stands for a directory that is there already. -/
def isDots (entry : Entry) : Bool :=
  entry.name = "." || entry.name = ".."

end Entry

/-- The entry that a path names, in a directory that is there. -/
def entry? (tree : FileTree) (workingDir : Location) (path : Path) :
    Except IoError (Option Entry) :=
  match checkPath path with
  | .error e => .error e
  | .ok () =>
    let all := names path
    match all.reverse.dropWhile (· = "") with
    | [] => .ok none
    | name :: before =>
      match tree.walk (origin workingDir path) before.reverse with
      | .error e => .error e
      | .ok parent =>
        match tree.enter parent with
        | .error e => .error e
        | .ok () => .ok (some ⟨parent, name, all.getLast? = some ""⟩)

/-- The tree with a text as the whole content of a file, which may be new. -/
def writeFile (tree : FileTree) (workingDir : Location) (path : Path) (content : Content) :
    Except IoError FileTree :=
  match tree.entry? workingDir path with
  | .error e => .error e
  | .ok none => .error .isADirectory
  | .ok (some entry) =>
    if entry.isDots || entry.slashed then .error .isADirectory
    else if isTooLong entry.name then .error .invalidFilename
    else if tree.get? entry.location = some .directory then .error .isADirectory
    else .ok (tree.set entry.location (.file content))

def createDir (tree : FileTree) (workingDir : Location) (path : Path) :
    Except IoError FileTree :=
  match tree.entry? workingDir path with
  | .error e => .error e
  | .ok none => .error .alreadyExists
  | .ok (some entry) =>
    if isTooLong entry.name then .error .invalidFilename
    else if entry.isDots || (tree.get? entry.location).isSome then .error .alreadyExists
    else .ok (tree.set entry.location .directory)

/-- A failure to create a directory counts as success if it is there. -/
def orPresent (tree : FileTree) (workingDir : Location) (path : Path) (e : IoError) :
    Except IoError Unit :=
  if tree.isDirectory workingDir path then .ok () else .error e

/-- Create the first of some nested directories, given with the inner ones first,
and those around it as far as they are missing.  What was created stays even if a
later step fails. -/
def createNested (workingDir : Location) :
    List Path → FileTree → Except IoError Unit × FileTree
  | [], tree => (.ok (), tree)
  | path :: around, tree =>
    match tree.createDir workingDir path with
    | .ok tree => (.ok (), tree)
    | .error .notFound =>
      match createNested workingDir around tree with
      | (.error e, tree) => (.error e, tree)
      | (.ok (), tree) =>
        match tree.createDir workingDir path with
        | .ok tree => (.ok (), tree)
        | .error e => (tree.orPresent workingDir path e, tree)
    | .error e => (tree.orPresent workingDir path e, tree)

/-- Create a directory and the missing ones around it.  The empty path stands for
the working directory. -/
def createDirs (tree : FileTree) (workingDir : Location) (path : Path) :
    Except IoError Unit × FileTree :=
  createNested workingDir path.ancestors tree

end FileTree

end TypedContainers
