import Chip8.Text.Quoted

/-!
# Disk

A tree of files and directories with a current directory. Paths are read
component by component from the current directory or, after a slash, from the
root, and each component is looked up in a directory. `.` stays there, `..`
goes up, which leads nowhere at the root, and repeated slashes mean nothing. A
slash at the end asks for a directory, which is refused wherever a file is to
be written. A file makes directories of all places above it.
`Disk.makeDirectories` makes a directory with those above it that are missing.

`DiskError.message` words an error as the operating system does, with the path
as it was given.
-/

namespace Chip8

/-- The names on the way from the root to a file or directory. -/
abbrev Place := List String

inductive DiskFault where
  | notFound
  | notDirectory
  | isDirectory
  | nameTooLong
  | embeddedNull
  | alreadyThere
  deriving DecidableEq, Repr

/-- A file or directory that cannot be had, with the path as it was given. -/
structure DiskError where
  fault : DiskFault
  path : String
  deriving DecidableEq, Repr

namespace DiskError

def systemMessage (number : Nat) (text path : String) : String :=
  "[Errno " ++ toString number ++ "] " ++ text ++ ": " ++ Text.quoted path

def message (e : DiskError) : String :=
  match e.fault with
  | .notFound => systemMessage 2 "No such file or directory" e.path
  | .alreadyThere => systemMessage 17 "File exists" e.path
  | .notDirectory => systemMessage 20 "Not a directory" e.path
  | .isDirectory => systemMessage 21 "Is a directory" e.path
  | .nameTooLong => systemMessage 36 "File name too long" e.path
  | .embeddedNull => "embedded null byte"

end DiskError

structure Disk where
  here : Place := []
  files : List (Place × List UInt8) := []
  directories : List Place := []

namespace Disk

def components (path : String) : List String :=
  (path.splitOn "/").filter (· ≠ "")

def file? (d : Disk) (p : Place) : Option (List UInt8) :=
  d.files.lookup p

/-- Whether a place is a directory. The root is one, and so is what lies above
the current directory, above another directory or above a file. -/
def isDirectory (d : Disk) (p : Place) : Bool :=
  p.isEmpty || p.isPrefixOf d.here || d.directories.any (p.isPrefixOf ·) ||
    d.files.any fun (q, _) => p.length < q.length && p.isPrefixOf q

def maxNameLength : Nat := 255

def maxPathLength : Nat := 4095

def follow (p : Place) (name : String) : Place :=
  if name = "." then p
  else if name = ".." then p.dropLast
  else p ++ [name]

/-- Follows names from a place; each has to be looked up in a directory. -/
def walk (d : Disk) (p : Place) : List String → Except DiskFault Place
  | [] => .ok p
  | name :: rest =>
    if (d.file? p).isSome then .error .notDirectory
    else if !d.isDirectory p then .error .notFound
    else if maxNameLength < name.utf8ByteSize then .error .nameTooLong
    else walk d (follow p name) rest

def outset (d : Disk) (path : String) : Place :=
  if path.startsWith "/" then [] else d.here

def asksDirectory (path : String) : Bool :=
  path.endsWith "/"

def reach (d : Disk) (path : String) (names : List String) :
    Except DiskFault Place :=
  if path.contains (Char.ofNat 0) then .error .embeddedNull
  else if path.isEmpty then .error .notFound
  else if maxPathLength < path.utf8ByteSize then .error .nameTooLong
  else d.walk (d.outset path) names

def place (d : Disk) (path : String) : Except DiskFault Place :=
  d.reach path (components path)

def parent (d : Disk) (path : String) : Except DiskFault Place :=
  d.reach path ((components path).dropLast ++ ["."])

def read (d : Disk) (path : String) : Except DiskError (List UInt8) :=
  match d.place path with
  | .error e => .error ⟨e, path⟩
  | .ok p =>
    match d.file? p with
    | some bytes =>
      if asksDirectory path then .error ⟨.notDirectory, path⟩ else .ok bytes
    | none =>
      if d.isDirectory p then .error ⟨.isDirectory, path⟩
      else .error ⟨.notFound, path⟩

def write (d : Disk) (path : String) (bytes : List UInt8) :
    Except DiskError Disk :=
  let destination := if asksDirectory path then d.parent path else d.place path
  match destination with
  | .error e => .error ⟨e, path⟩
  | .ok p =>
    if d.isDirectory p then .error ⟨.isDirectory, path⟩
    else if (d.file? p).isSome then
      .ok { d with
        files := d.files.map fun (q, old) =>
          (q, if q = p then bytes else old) }
    else .ok { d with files := d.files ++ [(p, bytes)] }

/-- The disk with one directory made, in which there is nothing yet. -/
def makeDirectory (d : Disk) (path : String) : Except DiskError Disk :=
  match d.place path with
  | .error e => .error ⟨e, path⟩
  | .ok p =>
    if d.isDirectory p || (d.file? p).isSome then .error ⟨.alreadyThere, path⟩
    else .ok { d with directories := d.directories ++ [p] }

def leadsToDirectory (d : Disk) (path : String) : Bool :=
  match d.place path with
  | .ok p => d.isDirectory p
  | .error _ => false

/-- The disk after an attempt to make a directory that may be there already. -/
def acceptDirectory (d : Disk) (path : String) (made : Except DiskError Disk) :
    Except DiskError Disk :=
  match made with
  | .ok d => .ok d
  | .error e => if d.leadsToDirectory path then .ok d else .error e

/-- The disk with the first of some directories made, each of which stands in
the one after it. Those are made where they are found missing. -/
def makeChain (d : Disk) : List String → Except DiskError Disk
  | [] => .ok d
  | path :: above =>
    match d.makeDirectory path with
    | .error ⟨.notFound, _⟩ => do
      let d ← makeChain d above
      d.acceptDirectory path (d.makeDirectory path)
    | made => d.acceptDirectory path made

/-- The last component of a path as it was given; empty after a slash at the
end. -/
def baseName (path : String) : String :=
  ((path.splitOn "/").getLast?).getD path

def settle (d : Disk) (path : String) : Place :=
  (components path).foldl follow (d.outset path)

def passed (p : Place) : List String → List Place
  | [] => []
  | name :: rest => p :: passed (follow p name) rest

def mount (d : Disk) (path : String) (bytes : List UInt8) : Disk :=
  { d with
    files := d.files ++ [(d.settle path, bytes)]
    directories := d.directories ++ passed (d.outset path) (components path) }

def mountDirectory (d : Disk) (path : String) : Disk :=
  { d with
    directories := d.directories ++ d.settle path ::
      passed (d.outset path) (components path) }

/-- A path cut after each of its names. -/
def stages (path : String) : List String :=
  let names := components path
  (List.range names.length).map fun i =>
    (if path.startsWith "/" then "/" else "") ++
      "/".intercalate (names.take (i + 1))

def makeDirectories (d : Disk) (path : String) : Except DiskError Disk :=
  d.makeChain (stages path).reverse

def relative? (d : Disk) (p : Place) : Option Place :=
  if d.here.isPrefixOf p then some (p.drop d.here.length) else none

def pathOf (p : Place) : String :=
  "/".intercalate p

/-- The path from the root to what a path means if all directories on the way
exist. -/
def absolute (d : Disk) (path : String) : String :=
  "/" ++ pathOf (d.settle path)

/-- A path with repeated slashes and `.` left out. -/
def tidy (path : String) : String :=
  match (components path).filter (· ≠ ".") with
  | [] => if path.startsWith "/" then "/" else "."
  | cs => (if path.startsWith "/" then "/" else "") ++ "/".intercalate cs

end Disk

end Chip8
