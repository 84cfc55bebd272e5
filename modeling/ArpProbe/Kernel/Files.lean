import ArpProbe.Kernel.Basic
import ArpProbe.Kernel.FileTree

/-! Reading files by their path: the files of the kernel, and the attributes of interfaces in
directories of their own. -/

namespace ArpProbe

inductive FileFault where
  | system (errno : Errno)
  | nulInPath
  | notUtf8
  deriving DecidableEq, Repr, Inhabited

def FileFault.text : FileFault → String
  | system errno => errno.text
  | nulInPath => "file name contained an unexpected NUL byte"
  | notUtf8 => "stream did not contain valid UTF-8"

def attributeRoot : String := "/sys/class/net"

namespace Kernel

def workingDirectory : Route := [utf8Octets "run"]

def attributeRoute (d : AttributeDirectory) : Route :=
  Route.ofPath [] attributeRoot ++ [d.name]

def fileTree (k : Kernel) : FileTree where
  files :=
    (k.files.map fun (path, content) => (Route.ofPath workingDirectory path, content)) ++
      (k.directories.getD []).flatMap fun d =>
        d.attributes.map fun (name, content) => (attributeRoute d ++ [utf8Octets name], content)
  directories :=
    workingDirectory :: k.emptyDirectories.map (Route.ofPath workingDirectory) ++
      match k.directories with
      | none => []
      | some ds => Route.ofPath [] attributeRoot :: ds.map attributeRoute

def readFile (k : Kernel) (path : String) : Except FileFault Octets :=
  if path.toList.contains '\x00' then .error .nulInPath
  else match k.fileTree.walk workingDirectory path with
    | .error e => .error (.system e)
    | .ok (.directory _) => .error (.system Errno.directory)
    | .ok (.file content) => .ok content

def readText (k : Kernel) (path : String) : Except FileFault String := do
  let content ← k.readFile path
  match utf8Text? content with
  | some text => .ok text
  | none => .error .notUtf8

def pathExists (k : Kernel) (path : String) : Bool :=
  (k.fileTree.walk workingDirectory path).isOk

end Kernel

end ArpProbe
