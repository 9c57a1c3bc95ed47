import TextTemplate.Loader
import TextTemplate.Loader.FileTree

/-! Sources read from directories that are searched in order. A name is a relative path below one of
them: a name that is empty, starts at the top or goes up anywhere is refused before any
directory is tried. A directory in which nothing stands at the path is passed over; any
other failure ends the search. -/
namespace TextTemplate

/-- A part of a path: the top, the directory that the path starts from, the one above, or a name. -/
inductive PathComponent where
  | top
  | here
  | above
  | entry (name : String)
  deriving DecidableEq

/-- The component that a piece between slashes stands for. An empty piece and a single dot stand for
none. -/
def PathComponent.ofPiece? (piece : String) : Option PathComponent :=
  if piece = "" || piece = "." then none
  else if piece = ".." then some .above
  else some (.entry piece)

/-- The components of a path. A single dot shows at its start only. -/
def pathComponents (path : String) : List PathComponent :=
  let pieces := pathPieces path
  let start :=
    if isAbsolute path then [.top] else if pieces.head? = some "." then [.here] else []
  start ++ pieces.filterMap PathComponent.ofPiece?

/-- A path stays below the directory that it is followed from. -/
def isContained (path : String) : Bool :=
  (pathComponents path).all fun
    | .here | .entry _ => true
    | .top | .above => false

/-- The path of a name below a directory. A name that starts at the top stands for itself, and a slash is
put in between where the directory has none at its end. -/
def joinPath (directory name : String) : String :=
  if isAbsolute name then name
  else if directory = "" || directory.toList.getLast? = some '/' then directory ++ name
  else directory ++ "/" ++ name

/-- A search: the paths that have been tried, in order, and what it came to. -/
structure Search where
  tried : List String
  result : Except Error String

/-- The first directory in which something stands at the path of a name decides. -/
def searchDirectories (read : String → Except ReadFailure String) (name : String) :
    List String → Search
  | [] => ⟨[], .error (.notFound name none)⟩
  | directory :: rest =>
    let path := joinPath directory name
    match read path with
    | .ok source => ⟨[path], .ok source⟩
    | .error .missing =>
      let later := searchDirectories read name rest
      { later with tried := path :: later.tried }
    | .error (.other fault) => ⟨[path], .error (.notFound name (some fault))⟩

/-- The search for the source of a name in directories, by whatever reads a path. -/
def findSource (read : String → Except ReadFailure String) (directories : List String)
    (name : String) : Search :=
  if name = "" || !isContained name then ⟨[], .error (.notFound name (some .invalidInput))⟩
  else searchDirectories read name directories

/-- Sources read from directories of a file system. -/
def Loader.ofDirectories (fs : FileSystem) (directories : List String) : Loader := fun name =>
  (findSource fs.readText directories name).result

end TextTemplate
