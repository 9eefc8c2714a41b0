import CompletionEngine.File.Status
import CompletionEngine.Simulation.Descriptors

/-!
# File systems of the model

A tree of directories, regular files and the device that swallows everything, each under its path.
Files are kept by what has been written to them, so gaps of any length cost nothing; a gap reads as
zero bytes.
-/

namespace CompletionEngine.Simulation

/-- The content of a regular file: its size, and what was written where, the last write in front. -/
structure FileContent where
  size : Nat
  writes : List (Nat × List UInt8)

namespace FileContent

/-- The content of an empty file. -/
def empty : FileContent := ⟨0, []⟩

/-- Bytes from a position on, after others were written from `start` on. None are added. -/
def overlay (position start : Nat) (written bytes : List UInt8) : List UInt8 :=
  let offset := start - position
  let fitting := (written.drop (position - start)).take (bytes.length - offset)
  bytes.take offset ++ fitting ++ bytes.drop (offset + fitting.length)

/-- Up to `count` bytes from a position on, none past the end. -/
def read (position count : Nat) (content : FileContent) : List UInt8 :=
  content.writes.foldr (fun (start, written) bytes => overlay position start written bytes)
    (List.replicate (min count (content.size - position)) 0)

/-- Write bytes at a position. -/
def write (position : Nat) (bytes : List UInt8) (content : FileContent) : FileContent :=
  if bytes.isEmpty then content
  else ⟨max content.size (position + bytes.length), (position, bytes) :: content.writes⟩

end FileContent

/-- What a path may lead to. -/
inductive Node where
  | directory
  | regular (content : FileContent) (mode : UInt16)
  /-- The device that swallows what is written and has nothing to read. -/
  | null

/-- The nodes of a file system by their paths. The root has the empty path. -/
abbrev FileSystem := List (List FileName × Node)

namespace FileSystem

/-- The names of a path's components, which may be empty where slashes meet. -/
def components (path : List UInt8) : List FileName := path.splitOn 0x2f

/-- The most bytes of a path, the NUL byte behind it included. -/
def pathLimit : Nat := 4096

/-- The most bytes of a component. -/
def nameLimit : Nat := 255

/-- What lies at a path. -/
def node? (files : FileSystem) (path : List FileName) : Option Node := files.lookup path

/-- Put something at a path. -/
def put (path : List FileName) (node : Node) (files : FileSystem) : FileSystem :=
  (path, node) :: files.filter fun row => row.1 ≠ path

/-- A file that a path leads to, or would lead to if it were made. -/
structure Resolved where
  path : List FileName
  node : Option Node

/-- Whether something is a directory. -/
def isDirectory : Option Node → Bool
  | some .directory => true
  | _ => false

/-- Follow components from a directory on. Only the last one may be missing. -/
def walk (files : FileSystem) : List FileName → List FileName → Except ErrorNumber Resolved
  | here, [] => .ok ⟨here, files.node? here⟩
  | here, name :: rest =>
    match files.node? here with
    | none => .error .noEntry
    | some .directory =>
      if name = [] ∨ name = [0x2e] then files.walk here rest
      else if name = [0x2e, 0x2e] then files.walk here.dropLast rest
      else if nameLimit < name.length then .error .nameTooLong
      else files.walk (here ++ [name]) rest
    | some _ => .error .notDirectory

/-- The directory that relative paths start from. -/
def workingDirectory : List FileName := ["work".toUTF8.toList]

/-- Find what a path leads to. -/
def resolve (path : List UInt8) (files : FileSystem) : Except ErrorNumber Resolved :=
  if path.isEmpty then .error .noEntry
  else if pathLimit ≤ path.length then .error .nameTooLong
  else files.walk (if path.head? = some 0x2f then [] else workingDirectory) (components path)

/-- The directories and devices that are always there. -/
def standard : FileSystem :=
  [[], ["dev"], ["tmp"], ["tmp", "scratch"], ["work"]].map (fun path =>
      (path.map fun name => name.toUTF8.toList, Node.directory)) ++
    [(["dev".toUTF8.toList, "null".toUTF8.toList], .null)]

/-- The type and permission bits of what lies at a path. -/
def modeOf : Node → UInt16
  | .directory => 0x41ed
  | .regular _ mode => 0x8000 ||| mode
  | .null => 0x21b6

/-- The size of what lies at a path. -/
def sizeOf : Node → Nat
  | .directory => 4096
  | .regular content _ => content.size
  | .null => 0

end FileSystem

end CompletionEngine.Simulation
