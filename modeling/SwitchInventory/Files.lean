namespace SwitchInventory

/-- Why the text of a file cannot be read. -/
inductive ReadFailure where
  | notFound
  | isDirectory
  | notADirectory
  /-- the content is not text in UTF-8 -/
  | notText
  /-- the path holds the character U+0000 -/
  | nullInPath
  /-- a name on the path, or the path as a whole, is too long -/
  | nameTooLong
  /-- the system's own account of any other failure -/
  | other (account : String)
  deriving DecidableEq, Repr

def ReadFailure.message : ReadFailure → String
  | notFound => "No such file or directory (os error 2)"
  | isDirectory => "Is a directory (os error 21)"
  | notADirectory => "Not a directory (os error 20)"
  | notText => "stream did not contain valid UTF-8"
  | nullInPath => "file name contained an unexpected NUL byte"
  | nameTooLong => "File name too long (os error 36)"
  | other account => account

/-- What reading each path gives. -/
abbrev Files := String → Except ReadFailure String

/-- A tree of files to run the program on where there is no disk, with the answers a system gives to
a path: the names on the way from its root to each file or directory, and the bytes of each file. Of
two entries for one way the first counts. The program and what is proved of it are about any
`Files`, of which a tree gives one, `FileTree.read`. -/
structure FileTree where
  entries : List (List String × Option ByteArray)
  /-- the names on the way to the directory that relative paths start from -/
  working : List String

namespace FileTree

inductive Place where
  /-- a directory, by the names on the way to it -/
  | directory (names : List String)
  | file (bytes : ByteArray)

/-- The place that names lead to. A directory can have an entry or lie on the way to one. -/
def place? (t : FileTree) (names : List String) : Option Place :=
  match t.entries.lookup names with
  | some (some bytes) => some (.file bytes)
  | some none => some (.directory names)
  | none => if t.entries.any (names.isPrefixOf ·.1) then some (.directory names) else none

def longestName : Nat := 255

def longestPath : Nat := 4095

def absence (name : String) : ReadFailure :=
  if longestName < name.utf8ByteSize then .nameTooLong else .notFound

/-- The way to the place that a name refers to in a directory. The root lies above itself. -/
def extend (names : List String) (name : String) : List String :=
  if name = "" ∨ name = "." then names
  else if name = ".." then names.dropLast
  else names ++ [name]

def enter (t : FileTree) (p : Place) (name : String) : Except ReadFailure Place :=
  match p with
  | .file _ => .error .notADirectory
  | .directory names =>
    match t.place? (extend names name) with
    | some q => .ok q
    | none => .error (absence name)

def pathNames (path : String) : List String := (path.toList.splitOn '/').map String.ofList

def start (t : FileTree) (path : String) : List String :=
  if path.toList.head? = some '/' then [] else t.working

/-- Puts a file or a directory at a path, in the place of what is there. -/
def put (t : FileTree) (path : String) (content : Option ByteArray) : FileTree :=
  { t with entries := ((pathNames path).foldl extend (t.start path), content) :: t.entries }

/-- Reads the text of the file at a path. Every name on the way but the last has to be a
directory. -/
def read (t : FileTree) : Files := fun path =>
  if '\x00' ∈ path.toList then .error .nullInPath
  else if path.isEmpty then .error .notFound
  else if longestPath < path.utf8ByteSize then .error .nameTooLong
  else do
    match ← (pathNames path).foldlM t.enter (.directory (t.start path)) with
    | .file bytes =>
      match String.fromUTF8? bytes with
      | some text => .ok text
      | none => .error .notText
    | .directory _ => .error .isDirectory

/-- A system in which nothing has been put yet: the directories that every system has, the file
`/dev/null`, which is empty, and a working directory among the temporary files. -/
def system : FileTree where
  entries :=
    (["tmp", "work"], none) :: (["dev", "null"], some .empty) ::
      ["bin", "dev", "etc", "home", "lib", "opt", "proc", "root", "run", "sbin", "sys", "tmp", "usr",
        "var"].map fun name => ([name], none)
  working := ["tmp", "work"]

end FileTree

end SwitchInventory
