import ArpProbe.Errno
import ArpProbe.Text.Basic

/-! A tree of files, and the walk along a path in it. A name is followed only from a directory, so
a path that goes through something missing leads nowhere, even where it turns back. -/

namespace ArpProbe

abbrev Route := List Octets

/-- Files, and directories in which nothing need be. What leads to either is a directory too. -/
structure FileTree where
  files : List (Route × Octets)
  directories : List Route
  deriving DecidableEq, Repr, Inhabited

inductive Place where
  | directory (route : Route)
  | file (content : Octets)
  deriving DecidableEq, Repr, Inhabited

namespace Route

def follow (route : Route) (name : Octets) : Route :=
  if name = [] || name = utf8Octets "." then route
  else if name = utf8Octets ".." then route.dropLast
  else route ++ [name]

def namesOn (path : String) : List Octets :=
  (Text.fields '/' path.toList).map fun name => utf8Octets (String.ofList name)

def start (working : Route) (path : String) : Route :=
  if path.toList.head? = some '/' then [] else working

def ofPath (working : Route) (path : String) : Route :=
  (namesOn path).foldl follow (start working path)

end Route

namespace FileTree

def nameLimit : Nat := 255

def pathLimit : Nat := 4095

def isDirectory (t : FileTree) (route : Route) : Bool :=
  route = [] || t.directories.any (route.isPrefixOf ·) ||
    t.files.any fun f => route.isPrefixOf f.1.dropLast

def place? (t : FileTree) (route : Route) : Option Place :=
  match t.files.find? (·.1 = route) with
  | some (_, content) => some (.file content)
  | none => if t.isDirectory route then some (.directory route) else none

def step (t : FileTree) (place : Place) (name : Octets) : Except Errno Place :=
  match place with
  | .file _ => .error Errno.notDirectory
  | .directory route =>
    if name.length > nameLimit then .error Errno.nameTooLong
    else match t.place? (route.follow name) with
      | some next => .ok next
      | none => .error Errno.noEntry

def walk (t : FileTree) (working : Route) (path : String) : Except Errno Place :=
  if path = "" then .error Errno.noEntry
  else if path.utf8ByteSize > pathLimit then .error Errno.nameTooLong
  else (Route.namesOn path).foldlM t.step (.directory (Route.start working path))

end FileTree

end ArpProbe
