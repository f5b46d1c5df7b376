/-
Where a node is reached.

An endpoint is an address of the web with the scheme `http` or `https`. A host with
a port needs no scheme if the host is `localhost` or a number in its usual form.
Whether an address is one at all is decided first, and only then whether its scheme
will do.

Requests name the address without the user, who is told to the node in another way.
Some names that the net has cannot be asked, nor can addresses that are too long:
every request to them fails before it is sent.
-/
import Rollup.Chain.Client
import Rollup.Url

set_option autoImplicit false

namespace Rollup.Chain

/-- Where a node is reached. -/
structure Endpoint where
  /-- The address that requests name. -/
  url : String
  /-- Whether requests can be made of it. -/
  isUsable : Bool
  deriving DecidableEq, Repr

namespace Endpoint

/-! ## Addresses without a scheme -/

/-- Whether a text is a colon and a port. -/
def isPort : List Char → Bool
  | ':' :: digits => (Text.readDecimal? digits).any (· < 2 ^ 16)
  | _ => false

/-- Whether a text is a percent sign and the number of an interface, or nothing. -/
def isInterface : List Char → Bool
  | [] => true
  | '%' :: digits => (Text.readDecimal? digits).any (· < 2 ^ 32)
  | _ => false

/-- Whether a text is a number of the net in its usual form, and a port. -/
def isNumbered (text : List Char) : Bool :=
  match text with
  | '[' :: inner =>
    let host := inner.takeWhile (· ≠ ']')
    (Url.LongAddress.read? (host.takeWhile (· ≠ '%'))).isSome &&
      isInterface (host.dropWhile (· ≠ '%')) && isPort ((inner.dropWhile (· ≠ ']')).drop 1)
  | text =>
    (Url.plainBytes? (text.takeWhile (· ≠ ':'))).isSome && isPort (text.dropWhile (· ≠ ':'))

/-- An address with a scheme, if it needs none. -/
def withScheme (text : List Char) : List Char :=
  if "localhost:".toList.isPrefixOf text || isNumbered text then "http://".toList ++ text else text

/-! ## Reading -/

/-- Why an address is no endpoint. -/
inductive Fault where
  /-- It is no address at all. -/
  | address (fault : Url.Fault)
  | scheme (name : String)
  deriving DecidableEq, Repr

/-- What is wrong, in words. -/
def Fault.message : Fault → String
  | .address fault => fault.message
  | .scheme name => "invalid URL scheme: " ++ name ++ "; expected \x60http\x60 or \x60https\x60"

/-- Whether the escapes in a text spell characters. -/
def isReadable (text : List Char) : Bool := (Text.decode? (Url.unescape text)).isSome

/-- An authority without its user, if it has one that can be told in another way. -/
def withoutUser (a : Url.Authority) : Url.Authority :=
  if isReadable a.user && (!a.user.isEmpty || (!a.password.isEmpty && isReadable a.password)) then
    ⟨[], [], a.host, a.port⟩
  else a

/-- How many bytes an address may have that requests can be made of. -/
def longestUrl : Nat := 65534

/-- Whether requests can name a host. -/
def isNameable (host : Url.Host) : Bool :=
  !host.text.any fun c => c ∈ ['"', '\x60', '\x7b', '\x7d']

/-- The endpoint of an address of the web. -/
def ofUrl (u : Url) : Endpoint :=
  let shown : Url := ⟨u.scheme, u.authority.map withoutUser, u.tail⟩
  ⟨shown.text, u.authority.all (isNameable ·.host) && shown.text.utf8ByteSize ≤ longestUrl⟩

/-- Reads an address. -/
def parse (text : String) : Except Fault Endpoint :=
  match Url.parse (withScheme text.toList) with
  | .error fault => .error (.address fault)
  | .ok u => if u.scheme ∈ ["http", "https"] then .ok (ofUrl u) else .error (.scheme u.scheme)

/-! ## Nodes -/

/-- Connects to a node, which says nothing on whether it is there. -/
def connect (text : String) : Except ChainError Endpoint :=
  match parse text with
  | .ok endpoint => .ok endpoint
  | .error fault => .error (.transport (.custom [.text fault.message]))

/-- Fails every request at once. -/
def failing (chain : List Link) : Node := fun _ _ => (.after 0, .failed (.custom chain))

/-- A node that no connection may be made to. -/
def closed (e : Endpoint) : Node :=
  if e.isUsable then
    failing [.wrapper ("error sending request for url (" ++ e.url ++ ")"),
      .system .permissionDenied]
  else failing [.wrapper ("builder error for url (" ++ e.url ++ ")")]

/-- Whether requests go to an address that begins with a text. -/
def leads (e : Endpoint) (base : String) : Bool := e.isUsable && e.url.startsWith base

end Endpoint

end Rollup.Chain
