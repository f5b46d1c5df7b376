/-
Hosts.

The host of a web address is a name or a number. Its escapes are read first, then
it is spelled in ASCII, and if it ends in a number then, it has to be an address
of 32 bits. In brackets stands an address of 128 bits. Of the host of any other
address nothing is asked but that some characters are not in it.
-/
import Rollup.Text.Utf8
import Rollup.Url.Domain
import Rollup.Url.Escape
import Rollup.Url.Fault
import Rollup.Url.Numeric

set_option autoImplicit false

namespace Rollup.Url

/-- A host. -/
inductive Host where
  | name (spelling : List Char)
  | short (address : ShortAddress)
  | long (address : LongAddress)
  deriving DecidableEq

namespace Host

/-- A host in an address. -/
def text : Host → List Char
  | .name spelling => spelling
  | .short address => address.text
  | .long address => '[' :: address.text ++ [']']

/-- Reads a host that begins with a bracket, from behind it. -/
def readBracketed (inner : List Char) : Except Fault Host :=
  if inner.getLast? = some ']' then
    match LongAddress.read? inner.dropLast with
    | some address => .ok (.long address)
    | none => .error .badLongAddress
  else .error .badLongAddress

/-- Reads a name or a number. -/
def readName (written : List Char) : Except Fault Host :=
  match (Text.decode? (unescape written)).bind Domain.spelling? with
  | none => .error .badName
  | some [] => .error .emptyHost
  | some spelling =>
    -- What ends in a number is an address, or it is nothing.
    if ShortAddress.isMeant spelling then
      match ShortAddress.read? spelling with
      | some address => .ok (.short address)
      | none => .error .badShortAddress
    else .ok (.name spelling)

/-- Reads the host of a web address. -/
def read : List Char → Except Fault Host
  | [] => .error .emptyHost
  | '[' :: inner => readBracketed inner
  | written => readName written

/-- The characters that no host has. -/
def isForbidden (c : Char) : Bool :=
  c.toNat = 0 ||
    c ∈ ['\t', '\n', '\r', ' ', '#', '/', ':', '<', '>', '?', '@', '[', '\\', ']', '^', '|']

/-- Reads the host of another address. -/
def readOpaque : List Char → Except Fault Host
  | '[' :: inner => readBracketed inner
  | written =>
    if written.any isForbidden then .error .badCharacter
    else .ok (.name (escape isEscapedAnywhere written))

end Host

end Rollup.Url
