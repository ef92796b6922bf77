import LintCorpus.Files

/-!
Trees of files held in memory.  A path is walked name by name: a dot stays, two dots go one name
back, and only directories let the walk go on.  Files and directories are all there is; nothing
refers to another place.
-/

namespace LintCorpus

/-- What a name leads to. -/
inductive Entry where
  | directory
  | file (content : List UInt8)
deriving DecidableEq, Repr

/-- The entries by the names on the way from the root, and the directory where relative paths
start.  The root itself is a directory and has no entry. -/
structure FileTree where
  entry? : List String → Option Entry
  workingDirectory : List String

/-- Where a walk ends. -/
inductive Destination where
  | directory (names : List String)
  | file (names : List String) (content : List UInt8)
  /-- At a name inside a directory that leads nowhere yet. -/
  | vacant (names : List String)
deriving DecidableEq, Repr

namespace FileTree

/-- The tree that holds nothing, where relative paths start at the root. -/
def empty : FileTree := ⟨fun _ => none, []⟩

def put (tree : FileTree) (names : List String) (entry : Entry) : FileTree :=
  { tree with entry? := fun other => if other = names then some entry else tree.entry? other }

def walk (tree : FileTree) (names : List String) : List String → Except FileError Destination
  | [] => .ok (.directory names)
  | part :: parts =>
      if part = "." then walk tree names parts
      else if part = ".." then walk tree names.dropLast parts
      else
        match tree.entry? (names ++ [part]) with
        | some .directory => walk tree (names ++ [part]) parts
        | some (.file content) =>
            if parts.isEmpty then .ok (.file (names ++ [part]) content) else .error .notADirectory
        | none => if parts.isEmpty then .ok (.vacant (names ++ [part])) else .error .notFound

def parts (path : String) : List String :=
  ((path.toList.splitOn '/').filter (· ≠ [])).map String.ofList

def start (tree : FileTree) (path : String) : List String :=
  if FilePath.isAbsolute path.toList then [] else tree.workingDirectory

/-- Where a path leads.  The empty path leads nowhere. -/
def locate (tree : FileTree) (path : String) : Except FileError Destination :=
  if path = "" then .error .notFound else walk tree (tree.start path) (parts path)

/-- The path ends with a slash, so that it can only mean a directory. -/
def wantsDirectory (path : String) : Bool :=
  path.toList.getLast? = some '/'

/-- Where a path leads that something is at.  A file is not found behind a slash. -/
def find (tree : FileTree) (path : String) : Except FileError Destination :=
  match tree.locate path with
  | .ok (.vacant _) => .error .notFound
  | .ok (.file names content) =>
      if wantsDirectory path then .error .notADirectory else .ok (.file names content)
  | outcome => outcome

def readBytes (tree : FileTree) (path : String) : Except FileError (List UInt8) :=
  match tree.find path with
  | .ok (.file _ content) => .ok content
  | .ok _ => .error .isADirectory
  | .error error => .error error

/-- The tree in which a file has this content. -/
def writeBytes (tree : FileTree) (path : String) (content : List UInt8) :
    Except FileError FileTree :=
  match tree.locate path with
  | .error error => .error error
  | .ok (.directory _) => .error .isADirectory
  | .ok (.file names _) | .ok (.vacant names) =>
      if wantsDirectory path then .error .isADirectory
      else .ok (tree.put names (.file content))

/-- The tree in which there is a directory at a path that led nowhere. -/
def makeDirectory (tree : FileTree) (path : String) : Except FileError FileTree :=
  match tree.locate path with
  | .error error => .error error
  | .ok (.vacant names) => .ok (tree.put names .directory)
  | .ok _ => .error .alreadyExists

def isDirectory (tree : FileTree) (path : String) : Bool :=
  match tree.find path with
  | .ok (.directory _) => true
  | _ => false

def isThere (tree : FileTree) (path : String) : Bool :=
  (tree.find path).isOk

/-- The path from the root to what the given path leads to. -/
def absolutePath (tree : FileTree) (path : String) : Except FileError String :=
  (tree.find path).map fun
    | .directory names | .file names _ | .vacant names => FilePath.ofComponents true names

/-- Changes the tree when the change succeeds. -/
def change (attempt : FileTree → Except FileError FileTree) :
    StateM FileTree (Except FileError Unit) := fun tree =>
  match attempt tree with
  | .ok changed => (.ok (), changed)
  | .error error => (.error error, tree)

instance : MonadFiles (StateM FileTree) where
  readBytes path := return (← get).readBytes path
  writeBytes path content := change (·.writeBytes path content)
  makeDirectory path := change (·.makeDirectory path)
  isDirectory path := return (← get).isDirectory path
  isThere path := return (← get).isThere path
  absolutePath path := return (← get).absolutePath path

end FileTree

end LintCorpus
