import RecordIndex.Error

namespace RecordIndex

/-!
# The data directory

The directory that holds the file of a database: the one that is given, or
else the one that the environment names, or else one of its own in the data
home of the user.  A directory that is not there is made, with all those above
it, unless a plain file is in the way.  Where the data home lies is told as by
the `xdg` library.
-/

/-- A path below the root of a file tree, as the names between its slashes.
Two dots lead one step up, and idle names lead nowhere. -/
abbrev FilePath := List String

/-- What lies below the root of a file tree. -/
structure FileTree where
  files : List FilePath
  directories : List FilePath
deriving DecidableEq

namespace FilePath

/-- The path that a text spells. -/
def ofText (text : String) : FilePath :=
  text.splitOn "/"

/-- Empty names and single dots are idle. -/
def isIdle (name : String) : Bool :=
  name = "" || name = "."

/-- The text of a path, without the idle names at its ends. -/
def text (path : FilePath) : String :=
  let started := path.dropWhile isIdle
  "/".intercalate (started.reverse.dropWhile isIdle).reverse

/-- The path to a name in a directory.  A path that ends with a slash has room
for the name behind it. -/
def join (path : FilePath) (name : String) : FilePath :=
  (if path.getLast? = some "" then path.dropLast else path) ++ [name]

/-- Where one more name leads to. -/
def enter (place : FilePath) (name : String) : FilePath :=
  if name = ".." then place.dropLast
  else if isIdle name then place
  else place ++ [name]

/-- Where a path leads to. -/
def place (path : FilePath) : FilePath :=
  path.foldl enter []

end FilePath

namespace FileTree

def isDirectory (tree : FileTree) (path : FilePath) : Bool :=
  path.place.isEmpty || tree.directories.contains path.place

/-- Make the directory at a place.  A plain file cannot become one. -/
def makeDirectory (tree : FileTree) (place : FilePath) : Option FileTree :=
  if tree.files.contains place then none
  else if place.isEmpty || tree.directories.contains place then some tree
  else some { tree with directories := tree.directories ++ [place] }

/-- Make every directory along a path, from a place on. -/
def makeAlong (place : FilePath) : FilePath -> FileTree -> Option FileTree
  | [], tree => some tree
  | name :: rest, tree => do
      let place := place.enter name
      makeAlong place rest (← tree.makeDirectory place)

end FileTree

/-- Where a database keeps its file. -/
structure DataDirectory where
  path : FilePath
deriving DecidableEq

namespace DataDirectory

/-- The name of a database's own directory in a data home. -/
def homeName : String :=
  "kvdex"

def databaseName : String :=
  "kvdex.redb"

/-- The path of the directory. -/
def choose (given environment dataHome : Option String) : Except Error FilePath :=
  match given.or environment, dataHome with
  | some text, _ => .ok (FilePath.ofText text)
  | none, some home => .ok ((FilePath.ofText home).join homeName)
  | none, none => .error .noDataHome

/-- The data directory, which is made if it is not there. -/
def resolve (tree : FileTree) (given environment dataHome : Option String) :
    Except Error (DataDirectory × FileTree) := do
  let path ← choose given environment dataHome
  match tree.makeAlong [] path with
  | some tree => return (⟨path⟩, tree)
  | none => throw (.dataDirectory (FilePath.text path))

/-- The path of the database in the directory. -/
def database (directory : DataDirectory) : FilePath :=
  directory.path.join databaseName

end DataDirectory

end RecordIndex
