import LintCorpus.Text.Basic

/-!
File paths as texts, with `/` between their components.
-/

namespace LintCorpus.FilePath

/-- The path begins at the root. -/
def isAbsolute (path : List Char) : Bool :=
  ['/'].isPrefixOf path

/-- The path `file` seen from the directory `dir`: one slash comes between them unless the directory
is empty or ends with one, and an absolute path stays as it is. -/
def join (dir file : String) : String :=
  let d := dir.toList
  if isAbsolute file.toList then file
  else if d = [] ∨ d.getLast? = some '/' then dir ++ file
  else dir ++ "/" ++ file

/-- The components of a path.  Repeated slashes and inner dots do not count; a dot in front does. -/
def components (path : List Char) : List (List Char) :=
  let parts := (path.splitOn '/').filter (· ≠ [])
  let inner := fun part : List Char => part ≠ ['.']
  match parts with
  | ['.'] :: rest =>
      if isAbsolute path then rest.filter inner else ['.'] :: rest.filter inner
  | parts => parts.filter inner

/-- The last component, if it names a file or a directory. -/
def fileName? (path : List Char) : Option (List Char) :=
  match (components path).getLast? with
  | some ['.'] => none
  | some ['.', '.'] => none
  | other => other

/-- What stands behind the last dot of the file name, unless the name begins with that dot. -/
def extension? (path : List Char) : Option (List Char) :=
  match fileName? path with
  | none => none
  | some name =>
      let ending := Text.afterLast (· = '.') name
      if name.length ≤ ending.length + 1 then none else some ending

/-- The text of components, with a slash in front of those of an absolute path. -/
def ofComponents (absolute : Bool) (parts : List String) : String :=
  (if absolute then "/" else "") ++ "/".intercalate parts

/-- The non-empty beginnings of a list of components, the longest first. -/
def beginnings : List String → List (List String)
  | [] => []
  | part :: parts => (beginnings parts).map (part :: ·) ++ [[part]]

/-- The directories that enclose a path, the innermost first.  The root and the place where relative
paths start are left out. -/
def enclosing (path : String) : List String :=
  let parts := (components path.toList).map String.ofList
  (beginnings parts.dropLast).map (ofComponents (isAbsolute path.toList))

end LintCorpus.FilePath
