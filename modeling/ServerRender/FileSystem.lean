/-!
# File systems

A tree of directories and files with a working directory, and the reading of text
files from it. A path is walked name by name: each name but the last has to lead to a
directory, and a trailing separator asks for one as well.
-/

namespace ServerRender

/-- Why a file gives no text. -/
inductive FileError where
  | notFound
  | notDirectory
  | isDirectory
  | nameTooLong
  | nulInName
  | notUtf8
  /-- Any other reason that the system gives. -/
  | refused (reason : String)
  deriving DecidableEq, Inhabited

def FileError.message : FileError → String
  | notFound => "No such file or directory (os error 2)"
  | notDirectory => "Not a directory (os error 20)"
  | isDirectory => "Is a directory (os error 21)"
  | nameTooLong => "File name too long (os error 36)"
  | nulInName => "file name contained an unexpected NUL byte"
  | notUtf8 => "stream did not contain valid UTF-8"
  | refused reason => reason

inductive FileNode where
  | file (content : ByteArray)
  | directory (entries : List (String × FileNode))
  deriving Inhabited

/-- Something from which text files are read by path. -/
abbrev FileReader := String → Except FileError String

namespace FilePath

/-- The longest name in a directory and the longest path, in bytes. -/
def maxName : Nat := 255

def maxPath : Nat := 4095

def isAbsolute (path : String) : Bool :=
  path.toList.head? = some '/'

/-- The names between separators. -/
def names (path : String) : List String :=
  (path.toList.splitOn '/').map String.ofList

/-- Drops separators and single dots from the end of a path that is read backwards. -/
def trimBackwards : List Char → List Char
  | [] => []
  | ['/'] => ['/']
  | '/' :: rest => trimBackwards rest
  | ['.', '/'] => ['/']
  | '.' :: '/' :: rest => trimBackwards rest
  | path => path

/-- The directory part of the path of a file. -/
def parent (path : String) : String :=
  String.ofList (trimBackwards (path.toList.reverse.dropWhile (· != '/'))).reverse

/-- A path as seen from a directory. -/
def resolve (directory path : String) : String :=
  if isAbsolute path then path
  else if directory.isEmpty || directory.toList.getLast? = some '/' then directory ++ path
  else directory ++ "/" ++ path

end FilePath

namespace FileNode

def find? (entries : List (String × FileNode)) (name : String) : Option FileNode :=
  entries.lookup name

/-- Puts a node at a path below a directory, making the directories on the way. -/
def insertAt : List String → FileNode → List (String × FileNode) → List (String × FileNode)
  | [], _, entries => entries
  | [name], node, entries => (name, node) :: entries.filter fun entry => entry.1 != name
  | name :: rest, node, entries =>
    let inner := match find? entries name with
      | some (.directory inner) => inner
      | _ => []
    (name, .directory (insertAt rest node inner)) :: entries.filter fun entry => entry.1 != name

/-- A directory with a node added at a path. -/
def insert (tree : FileNode) (path : List String) (node : FileNode) : FileNode :=
  match tree with
  | .directory entries => .directory (insertAt path node entries)
  | other => other

end FileNode

structure FileSystem where
  root : FileNode
  workingDirectory : List String

namespace FileSystem

/-- Follows names from a node, with the directories above it. -/
def walk : List FileNode → FileNode → List String → Except FileError FileNode
  | _, node, [] => .ok node
  | above, node, name :: rest =>
    match node with
    | .file _ => .error .notDirectory
    | .directory entries =>
      if name.isEmpty || name = "." then walk above node rest
      else if name = ".." then
        match above with
        | [] => walk [] node rest
        | parent :: higher => walk higher parent rest
      else if FilePath.maxName < name.utf8ByteSize then .error .nameTooLong
      else match FileNode.find? entries name with
        | none => .error .notFound
        | some child => walk (node :: above) child rest

/-- The node that a path leads to. -/
def find (system : FileSystem) (path : String) : Except FileError FileNode :=
  if path.isEmpty then .error .notFound
  else if path.toList.contains '\x00' then .error .nulInName
  else if FilePath.maxPath < path.utf8ByteSize then .error .nameTooLong
  else
    let names := FilePath.names path
    walk [] system.root (if FilePath.isAbsolute path then names else system.workingDirectory ++ names)

/-- The text of the file at a path. -/
def read (system : FileSystem) : FileReader := fun path => do
  match ← system.find path with
  | .directory _ => throw .isDirectory
  | .file content =>
    match String.fromUTF8? content with
    | some text => return text
    | none => throw .notUtf8

end FileSystem

end ServerRender
