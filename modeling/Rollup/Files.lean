/-
The files that a run can see.

These are the files of the directory it works in and, of the rest of the system, the
best known directories and programs and the device that is always empty. A path is followed part by
part from the left: empty parts and single dots stay where they are, two dots go up.
Each part but the last has to be a directory, and so has the last one if the path
goes on behind it, be it with nothing but a slash.
-/
import Rollup.SystemError
import Rollup.Text.Utf8

set_option autoImplicit false

namespace Rollup

/-- What can stand at a path. -/
inductive Entry where
  | directory
  | file (content : Bytes)
  deriving DecidableEq

/-- Reads what stands somewhere as text. -/
def Entry.readText : Entry → Except SystemError String
  | .directory => .error .isADirectory
  | .file content =>
    match Text.decode? content with
    | some text => .ok (String.ofList text)
    | none => .error .notText

/-- The files that can be seen, by their paths. -/
structure Files where
  /-- What stands at a path. -/
  look : String → Except SystemError Entry

namespace Files

/-! ## Following paths -/

/-- The most bytes of a part of a path. -/
def longestName : Nat := 255

/-- The most bytes of a path. -/
def longestPath : Nat := 4095

/-- Follows parts from a directory on. `standing` says what stands where; what is returned is the
place, from the root on, and what stands there. -/
def follow (standing : List String → Option Entry) :
    (here parts : List String) → Except SystemError (List String × Entry)
  | here, [] =>
    match standing here with
    | some entry => .ok (here, entry)
    | none => .error .noSuchFile
  | here, part :: rest =>
    match standing here with
    | none => .error .noSuchFile
    -- Nothing is below a file, not even the file itself.
    | some (.file _) => .error .notADirectory
    | some .directory =>
      if part = "" ∨ part = "." then follow standing here rest
      else if part = ".." then follow standing here.dropLast rest
      else if longestName < part.utf8ByteSize then .error .nameTooLong
      else follow standing (here ++ [part]) rest

/-- Follows a path. One that does not begin with a slash begins in the directory `work`. -/
def resolve (standing : List String → Option Entry) (work : List String) (path : String) :
    Except SystemError (List String × Entry) :=
  if path.toList.any (·.toNat = 0) then .error .nulInPath
  else if longestPath < path.utf8ByteSize then .error .nameTooLong
  else if path = "" then .error .noSuchFile
  else
    let parts := path.splitOn "/"
    if parts.head? = some "" then follow standing [] parts else follow standing work parts

/-! ## What stands where -/

/-- The directory that a run works in. -/
def workingDirectory : List String := ["tmp", "work"]

/-- The best known directories of a system. -/
def systemDirectories : List (List String) :=
  ["bin", "boot", "dev", "etc", "home", "lib", "lib64", "media", "mnt", "opt", "proc", "root",
    "run", "sbin", "srv", "sys", "tmp", "usr", "var"].map (fun name => [name]) ++
  [["dev", "pts"], ["dev", "shm"], ["usr", "bin"], ["usr", "lib"], ["usr", "local"],
    ["usr", "local", "bin"], ["usr", "sbin"], ["usr", "share"], ["var", "lib"], ["var", "log"],
    ["var", "tmp"]]

/-- The directories that hold programs. -/
def programDirectories : List (List String) := [["bin"], ["usr", "bin"]]

/-- The programs that every system has. -/
def commonPrograms : List String := ["echo", "false", "true"]

/-- Whether a program stands at a place that every system has. -/
def isCommonProgram (place : List String) : Bool :=
  place.dropLast ∈ programDirectories && place.getLast?.any (· ∈ commonPrograms)

/-- A byte that begins no character, for the content of files that hold no text. -/
def noText : Bytes := [0xFF]

/-- The device that is always empty. -/
def nullDevice : List String := ["dev", "null"]

/-- What stands at a place, with the files of the working directory by their places within it. -/
def entryAt (files : List (List String × Bytes)) (place : List String) : Option Entry :=
  if place = nullDevice then some (.file [])
  else if isCommonProgram place then some (.file noText)
  else if place = [] ∨ place ∈ systemDirectories then some .directory
  else if !workingDirectory.isPrefixOf place then none
  else
    -- Other files are known only below the working directory.
    let inner := place.drop workingDirectory.length
    match files.find? (·.1 = inner) with
    | some (_, content) => some (.file content)
    | none =>
      if inner = [] ∨ files.any (fun f => inner.isPrefixOf f.1) then some .directory else none

/-- The parts of the name of a file in the working directory. -/
def parts (name : String) : List String :=
  (name.splitOn "/").filter fun part => part ≠ "" && part ≠ "."

/-- Follows a path in a system with files of given names in the working directory. -/
def locate (files : List (String × Bytes)) (path : String) :
    Except SystemError (List String × Entry) :=
  resolve (entryAt (files.map fun f => (parts f.1, f.2))) workingDirectory path

/-- A system with files of given names in the working directory. -/
def ofList (files : List (String × Bytes)) : Files :=
  ⟨fun path => (locate files path).map (·.2)⟩

/-- A system with nothing in the working directory. -/
def none : Files := ofList []

/-- Reads a file as text. -/
def readText (files : Files) (path : String) : Except SystemError String := do
  (← files.look path).readText

end Files

end Rollup
