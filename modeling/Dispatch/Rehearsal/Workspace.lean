import Dispatch.CommandLine

/-!
# A workspace

The files of a machine on which the command line can be rehearsed: a working directory with a few files
and sockets in it, among the directories and devices that every machine has. A path is followed name by
name, and whatever stands in its way is told as an `Obstacle`.
-/

set_option autoImplicit false

namespace Dispatch.Rehearsal

/-- What can be found at a place. A sink takes whatever is written to it and holds nothing. -/
inductive Node where
  | directory
  | file (bytes : Bytes)
  | socket
  | sink
  deriving DecidableEq, Repr, Inhabited

inductive Obstacle where
  | noSuchFile
  | noSuchDevice
  | notADirectory
  | isADirectory
  | nameTooLong
  | zeroByte
  deriving DecidableEq, Repr

def Obstacle.message : Obstacle → String
  | .noSuchFile => "No such file or directory (os error 2)"
  | .noSuchDevice => "No such device or address (os error 6)"
  | .notADirectory => "Not a directory (os error 20)"
  | .isADirectory => "Is a directory (os error 21)"
  | .nameTooLong => "File name too long (os error 36)"
  | .zeroByte => "file name contained an unexpected NUL byte"

/-- A place is the list of names on the way there from the root. -/
abbrev Place := List String

structure Workspace where
  nodes : List (Place × Node)
  deriving DecidableEq, Repr, Inhabited

namespace Workspace

def home : Place := ["tmp", "work"]

def standardDirectories : List String :=
  ["bin", "boot", "dev", "etc", "home", "lib", "media", "mnt", "opt", "proc", "root", "run", "sbin",
    "srv", "sys", "tmp", "usr", "var"]

def standardSinks : List String := ["full", "null", "stderr", "stdin", "stdout", "zero"]

/-- A machine with files and sockets in its working directory. -/
def new (files : List (String × Bytes)) (sockets : List String) : Workspace where
  nodes :=
    (files.map fun (name, bytes) => (home ++ [name], .file bytes)) ++
      (sockets.map fun name => (home ++ [name], .socket)) ++
      (standardSinks.map fun name => (["dev", name], .sink)) ++
      (home, .directory) :: (standardDirectories.map fun name => ([name], .directory))

def node? (w : Workspace) (place : Place) : Option Node :=
  if place.isEmpty then some .directory else w.nodes.lookup place

/-! ## Paths -/

def nameLimit : Nat := 255

def pathLimit : Nat := 4095

/-- The place to which a name leads from a place. An empty name leads nowhere else, as `.` does. -/
def enter (w : Workspace) (place : Place) (name : String) : Except Obstacle Place :=
  if w.node? place != some .directory then .error .notADirectory
  else if name.isEmpty || name = "." then .ok place
  else if name = ".." then .ok place.dropLast
  else if name.utf8ByteSize > nameLimit then .error .nameTooLong
  else if (w.node? (place ++ [name])).isSome then .ok (place ++ [name])
  else .error .noSuchFile

def follow (w : Workspace) (start : Place) (names : List String) : Except Obstacle Place :=
  names.foldlM w.enter start

/-- Where a path starts, and its names; names behind the last slash are empty. -/
def parse (path : String) : Except Obstacle (Place × List String) :=
  if path.contains '\x00' then .error .zeroByte
  else if path.isEmpty then .error .noSuchFile
  else if path.utf8ByteSize > pathLimit then .error .nameTooLong
  else .ok (if path.startsWith "/" then [] else home, path.splitOn "/")

def resolve (w : Workspace) (path : String) : Except Obstacle Place := do
  let (start, names) ← parse path
  w.follow start names

def nodeAt? (w : Workspace) (path : String) : Option Node :=
  (w.resolve path).toOption.bind w.node?

/-- Whether there is anything at a path in the working directory. -/
def exists? (w : Workspace) (path : String) : Bool := path.isEmpty || (w.nodeAt? path).isSome

/-! ## Files -/

def read (w : Workspace) (path : String) : Except Obstacle Bytes := do
  match w.node? (← w.resolve path) with
  | some (.file bytes) => return bytes
  | some .sink => return []
  | some .socket => throw .noSuchDevice
  | some .directory => throw .isADirectory
  | none => throw .noSuchFile

/-- The place at which a path asks for a file, whose directory must be there. -/
def placeFor (w : Workspace) (path : String) : Except Obstacle Place := do
  let (start, names) ← parse path
  let reversed := names.reverse.dropWhile (·.isEmpty)
  match reversed with
  | [] => throw .isADirectory
  | name :: before =>
    let directory ← w.follow start (before.reverse ++ [""])
    if name = "." || name = ".." || path.endsWith "/" then throw .isADirectory
    else if name.utf8ByteSize > nameLimit then throw .nameTooLong
    else return directory ++ [name]

def create (w : Workspace) (path : String) : Except Obstacle Workspace := do
  let place ← w.placeFor path
  match w.node? place with
  | some .directory => throw .isADirectory
  | some .socket => throw .noSuchDevice
  | some .sink => return w
  | _ => return { nodes := (place, .file []) :: w.nodes.filter (·.1 != place) }

/-- A workspace as the machine on which the program runs. Its log is not kept. -/
def host : CommandLine.Host (StateM Workspace) where
  readFile path := do return ((← get).read path).mapError Obstacle.message
  createFile path := do
    match (← get).create path with
    | .error obstacle => return .error obstacle.message
    | .ok w => set w; return .ok ()
  log _ _ := pure ()

end Workspace

end Dispatch.Rehearsal
