import Camouflage.IoError

namespace Camouflage

inductive Directory.Node
  | directory
  | file (content : Bytes)
  deriving DecidableEq, Repr

structure Directory where
  nodes : List (List String × Directory.Node) := []

namespace Directory

def maxName : Nat := 255

def maxPath : Nat := 4095

def parts (path : String) : List String :=
  (path.toList.splitOn '/').map String.ofList

/-- Where a walk along a path stands: at a node below the working directory, or outside of it, in
directories of which nothing is known but that they exist. -/
inductive Place
  | inside (path : List String) (node : Node)
  | outside
  deriving DecidableEq, Repr

def root : Place := .inside [] .directory

variable (directory : Directory)

def lookup (path : List String) : Option Node :=
  if path = [] then some .directory else directory.nodes.lookup path

def enter (place : Place) (part : String) : Except ErrorNumber Place :=
  match place with
  | .outside =>
    if part = "" ∨ part = "." ∨ part = ".." then .ok .outside
    else if maxName < (Bytes.ofString part).length then .error .nameTooLong
    else .error .noEntry
  | .inside _ (.file _) => .error .notDirectory
  | .inside path .directory =>
    if part = "" ∨ part = "." then .ok place
    else if part = ".." then
      if path = [] then .ok .outside else .ok (.inside path.dropLast .directory)
    else if maxName < (Bytes.ofString part).length then .error .nameTooLong
    else
      match directory.lookup (path ++ [part]) with
      | some node => .ok (.inside (path ++ [part]) node)
      | none => .error .noEntry

def walk : Place → List String → Except ErrorNumber Place
  | place, [] => .ok place
  | place, part :: rest =>
    match directory.enter place part with
    | .error number => .error number
    | .ok place => walk place rest

def find (path : String) : Except ErrorNumber Place :=
  if path = "" then .error .noEntry
  else if maxPath < (Bytes.ofString path).length then .error .nameTooLong
  else
    let parts := parts path
    directory.walk (if parts.head? = some "" then .outside else root) parts

def read (path : String) : Except IoError Bytes :=
  if path.toList.contains '\x00' then .error .nulInName
  else
    match directory.find path with
    | .error number => .error (.system number)
    | .ok (.inside _ (.file content)) => .ok content
    | .ok (.inside _ .directory) | .ok .outside => .error (.system .isDirectory)

end Directory

end Camouflage
