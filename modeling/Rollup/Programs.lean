/-
The programs that a run can start.

A program whose name has a slash in it is the file at that path. Any other name is
looked for in the directories of the system that hold programs, of which the few
that every system has are known. A file is a program only if something is known of
what it does. Its arguments are looked at last, when it has been found.
-/
import Rollup.Files
import Rollup.Forge

set_option autoImplicit false

namespace Rollup.Programs

/-- What a program does with its arguments. -/
abbrev Behaviour := List String → Forge.Execution

/-- How many bytes an argument may have. -/
def longestArgument : Nat := 2 ^ 17 - 1

/-- What a program does that every system has: all but one succeed, whatever the arguments are. What
is written on success is of no interest to anyone and left out. -/
def common? (name : String) : Option Behaviour :=
  if name ∈ Files.commonPrograms then
    some fun _ => ⟨[], [], .exited (if name = "false" then 1 else 0)⟩
  else none

/-- What the file at a place does: it may be one of the scripts, which are told by their paths. -/
def behaviour? (files : List (String × Bytes)) (scripts : List (String × Behaviour))
    (place : List String) : Option Behaviour :=
  let script := scripts.find? fun s => (Files.locate files s.1).toOption.any (·.1 = place)
  match script with
  | some s => some s.2
  | none =>
    if Files.programDirectories.contains place.dropLast then place.getLast?.bind common? else none

/-- Starts what has been found. -/
def start (behaviour : Option Behaviour) (arguments : List String) :
    Except SystemError Forge.Execution :=
  match behaviour with
  | none => .error .noPermission
  | some run =>
    if arguments.any (longestArgument < ·.utf8ByteSize) then .error .argumentsTooLong
    else .ok (run arguments)

/-- Starts the program of a name without a slash. -/
def launchNamed (name : String) (arguments : List String) : Except SystemError Forge.Execution :=
  if name = "." ∨ name = ".." then .error .noPermission
  else if Files.longestName < name.utf8ByteSize then .error .nameTooLong
  else match common? name with
    | some behaviour => start (some behaviour) arguments
    | none => .error .noSuchFile

/-- Starts the programs of a system with files of given names in the working directory, and with
scripts at some paths. They do the same every time. -/
def launcher (files : List (String × Bytes)) (scripts : List (String × Behaviour)) :
    Forge.Launcher := fun program arguments _ =>
  if program.contains '/' then
    match Files.locate files program with
    | .error e => .error e
    | .ok (place, _) => start (behaviour? files scripts place) arguments
  else launchNamed program arguments

end Rollup.Programs
