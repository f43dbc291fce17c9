/-! Files and standard streams as a command sees them: what can keep it from
reading or writing one, what it asks of its surroundings, and a tree of files that
answers without a disk. -/
namespace ValueGrammar

/-- Why a file or a stream cannot be read or written. -/
inductive FileFault where
  | missing
  | notADirectory
  | isADirectory
  | nameTooLong
  /-- The path holds the character that ends a name for the system. -/
  | endInName
  | notText
  /-- Any other reason, with the number that the system gives it. -/
  | other (reason : String) (code : Nat)
deriving DecidableEq, Repr

/-- The reason as the system words it. -/
def FileFault.message : FileFault → String
  | missing => "No such file or directory (os error 2)"
  | notADirectory => "Not a directory (os error 20)"
  | isADirectory => "Is a directory (os error 21)"
  | nameTooLong => "File name too long (os error 36)"
  | endInName => "file name contained an unexpected NUL byte"
  | notText => "stream did not contain valid UTF-8"
  | other reason code => reason ++ " (os error " ++ toString code ++ ")"

/-- A path below a directory; a slash is put in between where there is none. -/
def joinPath (directory name : String) : String :=
  if directory.isEmpty || directory.toList.getLast? = some '/' then directory ++ name
  else directory ++ "/" ++ name

/-- The standard streams that a command prints on. -/
inductive Stream where
  | output
  | errors
deriving DecidableEq, Repr

/-- The name that the system has for the stream. -/
def Stream.name : Stream → String
  | output => "stdout"
  | errors => "stderr"

/-- What a command asks of its surroundings. -/
structure Surroundings (m : Type → Type) where
  /-- All of the standard input, which may not be text. -/
  readInput : m (Except FileFault String)
  readFile (path : String) : m (Except FileFault String)
  /-- Puts the text in the place of what the file held. -/
  writeFile (path content : String) : m (Except FileFault Unit)
  /-- Prints the text behind what the stream was given before. A stream need not
  take it: its disk may be full, or nobody may be left to read it. -/
  print (stream : Stream) (text : String) : m (Except FileFault Unit)
  /-- Reports that the program has broken off, for this reason. How that is done
  is left to the surroundings, and the program does not learn whether it worked. -/
  breakOff (reason : String) : m Unit

/-- How many bytes a name in a directory can have. -/
def nameLimit : Nat := 255

/-- How many bytes a path can have. -/
def pathLimit : Nat := 4095

/-- A path as it is followed: the directory where it starts, and its parts. A path
from the root starts there, any other one in the top directory of a tree. -/
structure Route where
  start : List String
  parts : List String

/-- The parts of a path are what stands between its slashes. -/
def Route.partsOf (path : String) : List String := (path.toList.splitOn '/').map String.ofList

/-- The name of the root, which lies outside of the tree. -/
def FileTree.root : List String := ["/"]

/-- The device that is there on every system: it takes all that is written to it
and holds nothing. -/
def FileTree.nullDevice : List String := root ++ ["dev", "null"]

/-- The route of a path, unless the path cannot name anything. -/
def Route.ofPath? (path : String) : Except FileFault Route :=
  if path.toList.contains '\x00' then .error .endInName
  else if path.isEmpty then .error .missing
  else if pathLimit < path.utf8ByteSize then .error .nameTooLong
  else .ok ⟨if path.toList.head? = some '/' then FileTree.root else [], Route.partsOf path⟩

/-- Files by their names from the top directory down; names that lead out of the
tree start at the root or with steps up. A directory is there if a file lies in
it. The top directory, those above it and the root always are. -/
structure FileTree where
  files : List (List String × String) := [(FileTree.nullDevice, "")]
deriving Repr

namespace FileTree

/-- The content of the file of this name. -/
def content? (tree : FileTree) (name : List String) : Option String := tree.files.lookup name

/-- Whether there is a directory of this name. -/
def isDirectory (tree : FileTree) (name : List String) : Bool :=
  name = root || name.all (· = "..") || tree.files.any fun file =>
    file.1.length > name.length && file.1.take name.length == name

/-- Whether the last part of a name is too long for the directory it lies in. -/
def isTooLong (name : List String) : Bool := name.getLast?.any (nameLimit < ·.utf8ByteSize)

/-- Why there is nothing of this name. -/
def absence (name : List String) : FileFault := if isTooLong name then .nameTooLong else .missing

/-- The directory above one. Nothing lies above the root. -/
def above (directory : List String) : List String :=
  if directory = root then root
  else if directory.all (· = "..") then directory ++ [".."]
  else directory.dropLast

/-- Follows the parts of a path from a directory. The last part may name nothing
yet; the parts before it have to name directories. -/
def resolve (tree : FileTree) (directory : List String) :
    List String → Except FileFault (List String)
  | [] => .ok directory
  | part :: rest =>
    if !tree.isDirectory directory then
      .error (if (tree.content? directory).isSome then .notADirectory else absence directory)
    else if part = "" ∨ part = "." then tree.resolve directory rest
    else if part = ".." then tree.resolve (above directory) rest
    else tree.resolve (directory ++ [part]) rest

/-- The content of the file at a path. -/
def read (tree : FileTree) (path : String) : Except FileFault String := do
  let route ← Route.ofPath? path
  let name ← tree.resolve route.start route.parts
  match tree.content? name with
  | some content => .ok content
  | none => .error (if tree.isDirectory name then .isADirectory else absence name)

/-- The tree with this content at a path. A path with a slash at its end can name
only a directory. -/
def write (tree : FileTree) (path content : String) : Except FileFault FileTree := do
  let route ← Route.ofPath? path
  let parts := (route.parts.reverse.dropWhile String.isEmpty).reverse
  let name ← tree.resolve route.start parts
  if tree.isDirectory name || path.toList.getLast? = some '/' then .error .isADirectory
  else if isTooLong name then .error .nameTooLong
  else if name = nullDevice then .ok tree
  else .ok ⟨(name, content) :: tree.files.filter fun file => file.1 != name⟩

/-- The tree of these files, given by path. -/
def ofList (files : List (String × String)) : FileTree :=
  ⟨(nullDevice, "") :: files.map fun file => (Route.partsOf file.1, file.2)⟩

end FileTree

/-- What a stream of a workplace has been given. A stream with a fault takes nothing. -/
structure Channel where
  printed : String := ""
  fault : Option FileFault := none
deriving DecidableEq, Repr

/-- The channel with this text behind what it holds. -/
def Channel.take (channel : Channel) (text : String) : Except FileFault Channel :=
  match channel.fault with
  | some fault => .error fault
  | none => .ok { channel with printed := channel.printed ++ text }

/-- A tree of files with standard streams. The input is not text if it is missing. -/
structure Workplace where
  input : Option String := some ""
  tree : FileTree := {}
  output : Channel := {}
  errors : Channel := {}

namespace Workplace

def channel (place : Workplace) : Stream → Channel
  | .output => place.output
  | .errors => place.errors

def withChannel (place : Workplace) (channel : Channel) : Stream → Workplace
  | .output => { place with output := channel }
  | .errors => { place with errors := channel }

/-- Prints on a stream of a workplace, if the stream takes it. -/
def print (stream : Stream) (text : String) : StateM Workplace (Except FileFault Unit) := do
  match ((← get).channel stream).take text with
  | .ok channel =>
    modify fun place => place.withChannel channel stream
    return .ok ()
  | .error fault => return .error fault

/-- Commands run in a workplace as they do on a disk. -/
def surroundings : Surroundings (StateM Workplace) where
  readInput := do
    match (← get).input with
    | some text => return .ok text
    | none => return .error .notText
  readFile path := do return (← get).tree.read path
  writeFile path content := do
    match (← get).tree.write path content with
    | .ok tree =>
      modify fun place => { place with tree }
      return .ok ()
    | .error fault => return .error fault
  print := print
  breakOff reason := do
    let _ ← print .errors (reason ++ "\n")

end Workplace

end ValueGrammar
