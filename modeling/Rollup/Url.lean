/-
Addresses of the web.

An address begins with a scheme, which says how the rest is read. Behind a scheme of
the web there always stands an authority: a user with a password, a host, and a
port. Behind other schemes one stands only after two slashes, and the host may be
missing. Blanks around an address and line breaks within it do not count. Faults
are found from left to right.

An address is kept in its normal form. Its host is spelled in ASCII, the port that
its scheme has anyway is left out, the path leads nowhere and back, and what cannot
stand in a part is escaped.
-/
import Rollup.Url.Host
import Rollup.Url.Path

set_option autoImplicit false

namespace Rollup

/-- Who is asked: a host, perhaps at a port, perhaps in the name of a user. -/
structure Url.Authority where
  user : List Char
  password : List Char
  host : Url.Host
  port : Option Nat
  deriving DecidableEq

/-- An address. -/
structure Url where
  scheme : String
  authority : Option Url.Authority
  /-- What follows the authority, in normal form for a scheme of the web and as it is written
  for others. -/
  tail : List Char
  deriving DecidableEq

namespace Url

/-! ## Schemes -/

/-- What a scheme says about the address. -/
inductive Kind where
  /-- It belongs to the web, and has a port. -/
  | web (port : Nat)
  | file
  | other
  deriving DecidableEq, Repr

/-- The kind of a scheme. -/
def Kind.of : String → Kind
  | "http" => .web 80
  | "https" => .web 443
  | "ws" => .web 80
  | "wss" => .web 443
  | "ftp" => .web 21
  | "file" => .file
  | _ => .other

/-- The port that a scheme has anyway. -/
def Kind.port? : Kind → Option Nat
  | .web port => some port
  | _ => none

/-- Whether a backslash counts as a slash. -/
def Kind.hasBackslash : Kind → Bool
  | .web _ => true
  | .file => true
  | .other => false

/-- Whether a character can stand in a scheme behind its first letter. -/
def isSchemeCharacter (c : Char) : Bool := c.isAlphanum || c ∈ ['+', '-', '.']

/-- The scheme of an address in small letters, and what follows its colon. -/
def scheme? (text : List Char) : Option (String × List Char) :=
  match text.takeWhile isSchemeCharacter, text.dropWhile isSchemeCharacter with
  | c :: name, ':' :: rest =>
    if c.isAlpha then some (String.ofList ((c :: name).map (·.toLower)), rest) else none
  | _, _ => none

/-- Whether a character around an address does not count. -/
def isPadding (c : Char) : Bool := c.toNat ≤ 0x20

/-- A text without the characters that do not count. -/
def clean (text : List Char) : List Char :=
  let inner := ((text.dropWhile isPadding).reverse.dropWhile isPadding).reverse
  inner.filter fun c => c ∉ ['\t', '\n', '\r']

/-! ## Authorities -/

/-- Whether a character ends an authority. -/
def endsAuthority (kind : Kind) (c : Char) : Bool :=
  c ∈ ['/', '?', '#'] || (kind.hasBackslash && c = '\\')

/-- What stands in front of the last at sign of a text, if there is one, and what behind it. -/
def splitUser (text : List Char) : Option (List Char) × List Char :=
  let host := (text.reverse.takeWhile (· ≠ '@')).reverse
  let user := text.take (text.length - host.length)
  (if user.isEmpty then none else some user.dropLast, host)

/-- The name and the password of a user, escaped. -/
def readUser (written : List Char) : List Char × List Char :=
  (escape isEscapedInUser (written.takeWhile (· ≠ ':')),
    escape isEscapedInUser ((written.dropWhile (· ≠ ':')).drop 1))

/-- Counts on from `length` the characters of a text that belong to the host: all up to a colon
outside of brackets. -/
def hostLength (length : Nat) : (isInside : Bool) → List Char → Nat
  | _, [] => length
  | isInside, c :: rest =>
    if c = ':' && !isInside then length
    else hostLength (length + 1) (c = '[' || (isInside && c ≠ ']')) rest

/-- Reads what follows the colon behind a host: a port, or nothing. -/
def readPort (digits : List Char) : Except Fault (Option Nat) :=
  if digits.isEmpty then .ok none
  else match Text.readDecimal? digits with
    | some port => if port < 2 ^ 16 then .ok (some port) else .error .badPort
    | none => .error .badPort

/-- Reads the host of an authority, if there is one. -/
def readHost (kind : Kind) (written : List Char) : Except Fault (Option Host) :=
  match kind, written with
  | .other, [] => .ok none
  | .other, written => (Host.readOpaque written).map some
  | _, written => (Host.read written).map some

/-- Reads the host and the port of an authority. -/
def readHostAndPort (kind : Kind) (text : List Char) :
    Except Fault (Option Host × Option Nat) := do
  let length := hostLength 0 false text
  let behind := text.drop length
  let host ← readHost kind (text.take length)
  if host.isNone && !behind.isEmpty then throw .emptyHost
  let port ← readPort ((behind.drop 1).takeWhile (· ≠ '\\'))
  .ok (host, if port = kind.port? then none else port)

/-- Reads an authority; `hasTail` says whether anything stands behind it. -/
def readAuthority (kind : Kind) (hasTail : Bool) (text : List Char) :
    Except Fault (Option Authority) := do
  let (user, rest) := splitUser text
  if user = some [] && rest.isEmpty && hasTail then throw .emptyHost
  let (name, password) := readUser (user.getD [])
  match ← readHostAndPort kind rest with
  | (some host, port) => .ok (some ⟨name, password, host, port⟩)
  | (none, _) => if name.isEmpty && password.isEmpty then .ok none else throw .emptyHost

/-- Reads the host of a file, which is all there is of an authority then. -/
def readFileHost (text : List Char) : Except Fault (Option Authority) :=
  if text.isEmpty || Path.isDrive text then .ok none
  else match Host.read text with
    | .error e => .error e
    | .ok host => .ok (if host = .name "localhost".toList then none else some ⟨[], [], host, none⟩)

/-- An authority in an address. -/
def Authority.text (a : Authority) : List Char :=
  let password := if a.password.isEmpty then [] else ':' :: a.password
  let user := a.user ++ password
  let port := match a.port with
    | some port => ':' :: Text.numeral 10 port
    | none => []
  (if user.isEmpty then [] else user ++ ['@']) ++ a.host.text ++ port

/-! ## Addresses -/

/-- Whether a character ends a path. -/
def endsPath (c : Char) : Bool := c = '?' || c = '#'

/-- The part behind a number sign, with the sign, in normal form. -/
def normalFragment : List Char → List Char
  | [] => []
  | sign :: fragment => sign :: escape isEscapedInFragment fragment

/-- What follows a path in normal form: a query and what follows it, or only that. -/
def normalQuery : List Char → List Char
  | '?' :: rest =>
    '?' :: escape isEscapedInQuery (rest.takeWhile (· ≠ '#')) ++
      normalFragment (rest.dropWhile (· ≠ '#'))
  | rest => normalFragment rest

/-- What follows an authority of the web, in normal form. -/
def normalTail (text : List Char) : List Char :=
  Path.normal ((text.takeWhile (!endsPath ·)).drop 1) ++ normalQuery (text.dropWhile (!endsPath ·))

/-- Reads what follows the colon behind a scheme. -/
def readBehind (scheme : String) (text : List Char) : Except Fault Url :=
  let kind := Kind.of scheme
  let split (text : List Char) : List Char × List Char :=
    (text.takeWhile (!endsAuthority kind ·), text.dropWhile (!endsAuthority kind ·))
  match kind, text with
  | .web _, text =>
    -- It does not matter how many slashes there are.
    let (authority, tail) := split (text.dropWhile isSlash)
    (readAuthority kind (!tail.isEmpty) authority).map fun a => ⟨scheme, a, normalTail tail⟩
  | .file, a :: b :: rest =>
    if isSlash a && isSlash b then
      let (host, tail) := split rest
      (readFileHost host).map fun a => ⟨scheme, a, if a.isSome then tail else text⟩
    else .ok ⟨scheme, none, text⟩
  | .other, '/' :: '/' :: rest =>
    let (authority, tail) := split rest
    (readAuthority kind (!tail.isEmpty) authority).map fun a =>
      ⟨scheme, a, if a.isSome then tail else text⟩
  | _, text => .ok ⟨scheme, none, text⟩

/-- Reads an address. -/
def parse (text : List Char) : Except Fault Url :=
  match scheme? (clean text) with
  | some (scheme, rest) => readBehind scheme rest
  | none => .error .noScheme

/-- An address in words. -/
def text (u : Url) : String :=
  let authority := match u.authority with
    | some a => "//".toList ++ a.text
    | none => []
  String.ofList (u.scheme.toList ++ ':' :: authority ++ u.tail)

end Url

end Rollup
