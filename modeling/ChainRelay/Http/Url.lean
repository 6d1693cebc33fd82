import ChainRelay.Http.Domain
import ChainRelay.Text.Hex
import ChainRelay.Text.Numeral

/-!
# URLs of HTTP

Where a request goes. `Url.parse` reads a URL by the rules that browsers follow,
as far as they apply to the schemes `http` and `https`: blank space at the ends
and line breaks anywhere do not count, backslashes are slashes, dots in paths are
resolved, and what may not stand in a request is encoded. `Url.target` is what a
request line asks for.
-/

namespace ChainRelay.Http

/-- The machine that a URL names. -/
inductive Host
  | domain (name : List Char)
  | ipv4 (address : Nat)
  | ipv6 (pieces : List Nat)
deriving DecidableEq, Repr

/-- The name of a machine in a URL. -/
def Host.text : Host → String
  | domain name => String.ofList name
  | ipv4 address =>
    ".".intercalate ([24, 16, 8, 0].map fun k => toString (address / Nat.pow 2 k % 256))
  | ipv6 pieces =>
    "[" ++ ":".intercalate (pieces.map fun n => String.ofList (Nat.toDigits 16 n)) ++ "]"

/-- Where a request goes. -/
structure Url where
  /-- Whether the connection is encrypted. -/
  isSecure : Bool
  /-- The machine. -/
  host : Host
  /-- The port, if it is not the usual one. -/
  port : Option Nat
  /-- The parts of the path, encoded. -/
  path : List String
  /-- What follows the question mark, encoded. -/
  query : Option String
deriving DecidableEq, Repr

namespace Url

/-- Why a text is no URL of HTTP. -/
inductive Fault
  /-- It has another scheme, or none. -/
  | otherScheme
  | emptyHost
  | invalidPort
  | invalidIpv4
  | invalidIpv6
  | invalidDomain
deriving DecidableEq, Repr

/-- What a message tells about the fault. -/
def Fault.message : Fault → String
  | .otherScheme => "relative URL without a base"
  | .emptyHost => "empty host"
  | .invalidPort => "invalid port number"
  | .invalidIpv4 => "invalid IPv4 address"
  | .invalidIpv6 => "invalid IPv6 address"
  | .invalidDomain => "invalid international domain name"

/-! ## Hosts -/

/-- What a part of an IPv4 address is. -/
inductive Part
  | number (n : Nat)
  | tooLarge
  | none
deriving DecidableEq

/-- The digits of some radix as a part of an address. -/
def Part.ofDigits (radix : Nat) (cs : List Char) : Part :=
  if cs.isEmpty then .number 0
  else if cs.all fun c => (Numeral.digit? radix c).isSome then
    let n := cs.foldl (fun n c => n * radix + (Numeral.digit? radix c).getD 0) 0
    if n < Nat.pow 2 32 then .number n else .tooLarge
  else .none

/-- Reads a part of an address: hexadecimal behind `0x`, octal behind `0`. -/
def Part.read : List Char → Part
  | [] => .none
  | '0' :: 'x' :: rest => .ofDigits 16 rest
  | '0' :: 'X' :: rest => .ofDigits 16 rest
  | '0' :: c :: rest => .ofDigits 8 (c :: rest)
  | cs => .ofDigits 10 cs

/-- The parts of a name between points, without an empty one at its end. -/
def parts (name : List Char) : List (List Char) :=
  let ps := name.splitOn '.'
  if 1 < ps.length ∧ ps.getLast? = some [] then ps.dropLast else ps

/-- Whether a name must be an IPv4 address, as its last part is a number. -/
def endsInNumber (name : List Char) : Bool :=
  match (parts name).getLast? with
  | none => false
  | some last =>
    (!last.isEmpty && last.all fun c => '0' ≤ c && c ≤ '9') || Part.read last ≠ .none

/-- The address that a name stands for. The last number fills all bytes that the
    others leave. -/
def ipv4? (name : List Char) : Option Nat := do
  let numbers ← (parts name).mapM fun p => match Part.read p with
    | .number n => some n
    | _ => none
  guard (numbers.length ≤ 4)
  let last ← numbers.getLast?
  let front := numbers.dropLast
  guard (last < Nat.pow 256 (4 - front.length) ∧ front.all (· < 256))
  return front.zipIdx.foldl (fun sum (n, i) => sum + n * Nat.pow 256 (3 - i)) last

/-- One to four hexadecimal digits at the front. -/
def hexPiece (cs : List Char) : Nat × List Char :=
  let ds := (cs.take 4).takeWhile fun c => (Numeral.digit? 16 c).isSome
  (ds.foldl (fun n c => n * 16 + (Numeral.digit? 16 c).getD 0) 0, cs.drop ds.length)

/-- Four decimal bytes between points, as two pieces. -/
def dottedPieces? (cs : List Char) : Option (List Nat) := do
  let bytes ← (cs.splitOn '.').mapM fun p => do
    guard (!p.isEmpty ∧ p.all (fun c => '0' ≤ c && c ≤ '9') ∧ (p.length = 1 ∨ p.head? ≠ some '0'))
    let n := p.foldl (fun n c => n * 10 + (c.toNat - 48)) 0
    guard (n < 256)
    return n
  match bytes with
  | [a, b, c, d] => some [a * 256 + b, c * 256 + d]
  | _ => none

/-- Reads pieces between colons: those before the gap, if there is one, and the
    others. -/
def ipv6Pieces : Nat → List Char → List Nat → Option (List Nat) → Option (List Nat × Option (List Nat))
  | 0, _, _, _ => none
  | _, [], seen, before => some (seen, before)
  | fuel + 1, ':' :: rest, seen, before =>
    if before.isSome then none else ipv6Pieces fuel rest [] (some seen)
  | fuel + 1, cs, seen, before =>
    let (n, rest) := hexPiece cs
    let length := cs.length - rest.length
    match rest with
    | '.' :: _ =>
      if length = 0 then none
      else (dottedPieces? cs).map fun ps => (seen ++ ps, before)
    | ':' :: [] => none
    | ':' :: rest => if length = 0 then none else ipv6Pieces fuel rest (seen ++ [n]) before
    | [] => if length = 0 then none else some (seen ++ [n], before)
    | _ => none

/-- The eight pieces of an IPv6 address. -/
def ipv6? (cs : List Char) : Option (List Nat) := do
  let cs ← match cs with
    | ':' :: ':' :: rest => some (':' :: rest)
    | ':' :: _ => none
    | cs => some cs
  match ← ipv6Pieces 20 cs [] none with
  | (pieces, none) => if pieces.length = 8 then some pieces else none
  | (after, some before) =>
    let count := before.length + after.length
    if count < 8 then some (before ++ List.replicate (8 - count) 0 ++ after) else none

/-- The bytes of a text in which `%` and two digits stand for a byte. -/
def percentDecode : Bytes → Bytes
  | 37 :: a :: b :: rest =>
    match Hex.value? a, Hex.value? b with
    | some high, some low => UInt8.ofNat (high * 16 + low) :: percentDecode rest
    | _, _ => 37 :: percentDecode (a :: b :: rest)
  | b :: rest => b :: percentDecode rest
  | [] => []

/-- The machine that a text names. -/
def readHost (cs : List Char) : Except Fault Host :=
  match cs with
  | [] => .error .emptyHost
  | '[' :: rest =>
    if rest.getLast? = some ']' then
      match ipv6? rest.dropLast with
      | some pieces => .ok (.ipv6 pieces)
      | none => .error .invalidIpv6
    else .error .invalidIpv6
  | cs =>
    match Utf8.decode? (percentDecode (Utf8.encode (String.ofList cs))) with
    | none => .error .invalidDomain
    | some name =>
      match Domain.normalize? name.toList with
      | none => .error .invalidDomain
      | some [] => .error .emptyHost
      | some name =>
        if endsInNumber name then
          match ipv4? name with
          | some address => .ok (.ipv4 address)
          | none => .error .invalidIpv4
        else .ok (.domain name)

/-! ## Paths -/

/-- A byte in a path or a query, by the characters that may not stand there. -/
def encodeByte (isRefused : Char → Bool) (b : UInt8) : List Char :=
  if b < 0x20 ∨ 0x7E < b ∨ isRefused (Char.ofNat b.toNat) then
    '%' :: Hex.digits 'A' [b]
  else [Char.ofNat b.toNat]

/-- A text in a path or a query. -/
def encodeText (isRefused : Char → Bool) (cs : List Char) : String :=
  String.ofList ((Utf8.encode (String.ofList cs)).flatMap (encodeByte isRefused))

/-- The characters that are encoded in a path. -/
def inPath : List Char := [' ', '"', '<', '>', '\x60', '#', '?', '\x7b', '\x7d', '^']

/-- The characters that are encoded in a query. -/
def inQuery : List Char := [' ', '"', '#', '<', '>', '\'']

/-- Dots of which each may be encoded. -/
def dots : List Char → Nat
  | '.' :: rest => dots rest + 1
  | '%' :: '2' :: c :: rest => if c = 'e' ∨ c = 'E' then dots rest + 1 else 3
  | [] => 0
  | _ => 3

/-- Adds a part of a path: one dot stays, two go up. -/
def descend (path : List String) (part : List Char) (isLast : Bool) : List String :=
  match dots part with
  | 1 => if isLast then path ++ [""] else path
  | 2 => if isLast then path.dropLast ++ [""] else path.dropLast
  | _ => path ++ [encodeText inPath.contains part]

/-- Adds the parts of a path one after the other. -/
def resolve (path : List String) : List (List Char) → List String
  | [] => path
  | [part] => descend path part true
  | part :: rest => resolve (descend path part false) rest

/-- The parts of a path that begins with a slash, or is empty. -/
def readPath (cs : List Char) : List String :=
  let cs := cs.map fun c => if c = '\\' then '/' else c
  resolve [] ((cs.drop 1).splitOn '/')

/-! ## The whole -/

/-- Whether a character ends the part with the host. -/
def endsAuthority (c : Char) : Bool := c = '/' || c = '\\' || c = '?' || c = '#'

/-- What follows the name and password of a user. -/
def dropUser (cs : List Char) : List Char :=
  if cs.contains '@' then (cs.reverse.takeWhile (· ≠ '@')).reverse else cs

/-- Splits before the colon of the port, which is not inside brackets. -/
def splitPort (isInside : Bool) : List Char → List Char × List Char
  | [] => ([], [])
  | c :: rest =>
    if c = ':' ∧ ¬ isInside then ([], c :: rest)
    else
      let isInside := if c = '[' then true else if c = ']' then false else isInside
      let (host, port) := splitPort isInside rest
      (c :: host, port)

/-- The port, from its colon on; it may be missing. -/
def readPort (usual : Nat) : List Char → Except Fault (Option Nat)
  | ':' :: cs =>
    let n := cs.foldl (fun n c => n * 10 + (c.toNat - 48)) 0
    if !(cs.all fun c => '0' ≤ c && c ≤ '9') || 65535 < n then .error .invalidPort
    else .ok (if cs.isEmpty ∨ n = usual then none else some n)
  | _ => .ok none

/-- The text without blank space and controls at its ends, and without line
    breaks and tabs. -/
def clean (s : String) : List Char :=
  let isEdge (c : Char) : Bool := c.toNat ≤ 32
  let cs := ((s.toList.dropWhile isEdge).reverse.dropWhile isEdge).reverse
  cs.filter fun c => c ≠ '\t' && c ≠ '\n' && c ≠ '\r'

/-- Whether the scheme is the encrypted one, and what follows the colon. -/
def scheme? (cs : List Char) : Option (Bool × List Char) :=
  let name := (cs.takeWhile (· ≠ ':')).map Char.toLower
  match cs.dropWhile (· ≠ ':') with
  | _ :: rest =>
    if name = "http".toList then some (false, rest)
    else if name = "https".toList then some (true, rest)
    else none
  | [] => none

/-- Reads a URL. -/
def parse (s : String) : Except Fault Url := do
  match scheme? (clean s) with
  | none => .error .otherScheme
  | some (isSecure, rest) =>
    let rest := rest.dropWhile fun c => c = '/' || c = '\\'
    let (host, port) := splitPort false (dropUser (rest.takeWhile (!endsAuthority ·)))
    let rest := rest.dropWhile (!endsAuthority ·)
    let host ← readHost host
    let port ← readPort (if isSecure then 443 else 80) port
    let rest := rest.takeWhile (· ≠ '#')
    let path := readPath (rest.takeWhile (· ≠ '?'))
    let query := match rest.dropWhile (· ≠ '?') with
      | [] => none
      | _ :: query => some (encodeText inQuery.contains query)
    return ⟨isSecure, host, port, path, query⟩

/-- What a request line asks for. -/
def target (u : Url) : String :=
  "/" ++ "/".intercalate u.path ++ (match u.query with
    | none => ""
    | some query => "?" ++ query)

end Url

end ChainRelay.Http
