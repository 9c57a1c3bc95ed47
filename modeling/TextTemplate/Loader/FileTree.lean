import TextTemplate.Error
import TextTemplate.Table
import TextTemplate.Text.Whitespace

/-! Trees of files and file systems: how one is built, and the reading of a file by a path. There are no
links, and everything may be read. A path is followed piece by piece: an empty piece and a single dot
stay where they are, two dots go up, at the top nowhere, and any of these, like a name, needs a
directory to start from. A path that does not start at the top starts in the working directory. -/
namespace TextTemplate

/-- A file with its bytes, or a directory with its entries by name. -/
inductive FileTree where
  | file (content : ByteArray)
  | directory (entries : Entries FileTree none)

/-- Why a path gives no text: nothing is there, or another reason. -/
inductive ReadFailure where
  | missing
  | other (fault : FileFault)
  deriving DecidableEq

/-- The pieces of a text between slashes. -/
def pathPieces (path : String) : List String :=
  (Text.splitAtChar '/' path.toList).map String.ofList

/-- A path that starts at the top. -/
def isAbsolute (path : String) : Bool := path.toList.head? == some '/'

/-- The longest name that an entry can have, in bytes. -/
def maxNameSize : Nat := 255

/-- The longest path that is followed, in bytes. -/
def maxPathSize : Nat := 4095

namespace FileTree

/-- A directory without entries. -/
def empty : FileTree := .directory .nil

/-- A directory is wanted at a place: one that stands there is kept with its entries. -/
def asDirectory : Option FileTree → Option FileTree
  | none => some empty
  | some (.directory entries) => some (.directory entries)
  | some (.file _) => none

/-- A file is wanted at a place: one that stands there gets the new content. -/
def asFile (content : ByteArray) : Option FileTree → Option FileTree
  | some (.directory _) => none
  | _ => some (.file content)

/-- Changes what stands at a path of names below a place, where missing directories on the way are
made. A file on the way, a name that is too long or a change that is refused gives nothing. -/
def alter (change : Option FileTree → Option FileTree) (place : Option FileTree) :
    List String → Option FileTree
  | [] => change place
  | name :: rest =>
    match place.getD empty with
    | .file _ => none
    | .directory entries =>
      if name.utf8ByteSize ≤ maxNameSize then
        (alter change (Table.get? entries name) rest).map fun child =>
          .directory (Table.insert entries name child)
      else none

/-- Changes what stands at the end of the pieces, seen from the directory at a path of names. Each
directory passed is made if it is missing. -/
def alterAlong (change : Option FileTree → Option FileTree) (tree : FileTree) (here : List String) :
    List String → Option FileTree
  | [] => alter change (some tree) here
  | piece :: rest =>
    match alter asDirectory (some tree) here with
    | none => none
    | some made =>
      if piece = "" || piece = "." then alterAlong change made here rest
      else if piece = ".." then alterAlong change made here.dropLast rest
      else alterAlong change made (here ++ [piece]) rest

/-- A file or directory stands at the end of the pieces, seen from a tree whose ancestors are given,
the nearest first. Two dots at the top stay there. -/
def walk (tree : FileTree) (above : List FileTree) : List String → Except ReadFailure FileTree
  | [] => .ok tree
  | piece :: rest =>
    match tree with
    | .file _ => .error (.other .notADirectory)
    | .directory entries =>
      if piece = "" || piece = "." then walk tree above rest
      else if piece = ".." then
        match above with
        | [] => walk tree [] rest
        | parent :: others => walk parent others rest
      else match Table.get? entries piece with
        | some child => walk child (tree :: above) rest
        | none =>
          .error (if piece.utf8ByteSize ≤ maxNameSize then .missing else .other .nameTooLong)

end FileTree

/-- A file system: what stands at the top, and the names that lead from there to the working directory. -/
structure FileSystem where
  root : FileTree
  workingDirectory : List String := []

namespace FileSystem

/-- Where a path starts: at the top or in the working directory, as names from the top. -/
def start (fs : FileSystem) (path : String) : List String :=
  if isAbsolute path then [] else fs.workingDirectory

/-- The pieces by which a path is followed from the top. -/
def pieces (fs : FileSystem) (path : String) : List String := fs.start path ++ pathPieces path

/-- Changes what stands at a path. A file system in which this cannot be done stays as it is. -/
def alterAt (change : Option FileTree → Option FileTree) (fs : FileSystem) (path : String) :
    FileSystem :=
  if maxPathSize < path.utf8ByteSize then fs
  else match fs.root.alterAlong change (fs.start path) (pathPieces path) with
    | none => fs
    | some root => { fs with root := root }

/-- Makes the directory at a path and those on the way, as far as they are missing. -/
def makeDirectory (fs : FileSystem) (path : String) : FileSystem :=
  fs.alterAt FileTree.asDirectory path

/-- Writes the file at a path, in place of a file that stands there, and makes the directories on the
way as far as they are missing. -/
def writeFile (fs : FileSystem) (path : String) (content : ByteArray) : FileSystem :=
  fs.alterAt (FileTree.asFile content) path

/-- The text of the file at a path. -/
def readText (fs : FileSystem) (path : String) : Except ReadFailure String :=
  if path = "" then .error .missing
  else if path.toList.contains '\x00' then .error (.other .invalidInput)
  else if maxPathSize < path.utf8ByteSize then .error (.other .nameTooLong)
  else match fs.root.walk [] (fs.pieces path) with
    | .error failure => .error failure
    | .ok (.directory _) => .error (.other .isADirectory)
    | .ok (.file content) =>
      match String.fromUTF8? content with
      | some text => .ok text
      | none => .error (.other .invalidData)

end FileSystem

end TextTemplate
