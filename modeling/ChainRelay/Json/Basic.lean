import ChainRelay.Number.Shortest
import ChainRelay.Text.Numeral
import ChainRelay.Text.Hex

/-!
# JSON values

Values as they are meant, and their text. An object keeps its members in the
order in which they are written; `Json.sorted` is the value with the keys of
every object ascending, the form in which generic values are kept and documents
are signed.
-/

namespace ChainRelay

/-- A number: an integer of at most sixty-four bits, signed or not, or a
    floating-point number. -/
inductive Number
  | integer (n : Int)
  | float (x : Binary64)
deriving DecidableEq, Repr

/-- The text of a number. -/
def Number.text : Number → String
  | .integer n => toString n
  | .float x => Shortest.json x

/-- A value. -/
inductive Json
  | null
  | bool (b : Bool)
  | number (n : Number)
  | text (s : String)
  | array (items : List Json)
  | object (members : List (String × Json))
deriving Repr

namespace Json

/-- A natural number as a value. -/
def ofNat (n : Nat) : Json := .number (.integer n)

/-- A character inside a quoted text. -/
def escape (c : Char) : List Char :=
  if c = '"' then ['\\', '"']
  else if c = '\\' then ['\\', '\\']
  else if c.toNat = 8 then ['\\', 'b']
  else if c = '\t' then ['\\', 't']
  else if c = '\n' then ['\\', 'n']
  else if c.toNat = 12 then ['\\', 'f']
  else if c = '\r' then ['\\', 'r']
  else if c.toNat < 32 then
    ['\\', 'u', '0', '0', Hex.digit 'a' (c.toNat / 16), Hex.digit 'a' (c.toNat % 16)]
  else [c]

/-- A text in quotes. -/
def quote (s : String) : List Char :=
  '"' :: s.toList.flatMap escape ++ ['"']

mutual
/-- The characters of a value, without white space. -/
def write : Json → List Char
  | .null => "null".toList
  | .bool b => (if b then "true" else "false").toList
  | .number n => n.text.toList
  | .text s => quote s
  | .array items => '[' :: writeItems items ++ [']']
  | .object members => '\x7b' :: writeMembers members ++ ['\x7d']

/-- Items between commas. -/
def writeItems : List Json → List Char
  | [] => []
  | [x] => write x
  | x :: y :: rest => write x ++ ',' :: writeItems (y :: rest)

/-- Members between commas. -/
def writeMembers : List (String × Json) → List Char
  | [] => []
  | [(key, x)] => quote key ++ ':' :: write x
  | (key, x) :: y :: rest => quote key ++ ':' :: write x ++ ',' :: writeMembers (y :: rest)
end

/-- The text of a value, without white space. -/
def render (j : Json) : String := String.ofList j.write

/-- Puts a member in its place among members with ascending keys, instead of one
    with the same key. -/
def insertMember {α : Type} (key : String) (x : α) : List (String × α) → List (String × α)
  | [] => [(key, x)]
  | (k, y) :: rest =>
    if key < k then (key, x) :: (k, y) :: rest
    else if key = k then (key, x) :: rest
    else (k, y) :: insertMember key x rest

/-- Members with ascending keys; of members with one key the last stays. -/
def sortMembers {α : Type} (members : List (String × α)) : List (String × α) :=
  members.foldl (fun sorted (key, x) => insertMember key x sorted) []

mutual
/-- The value with ascending keys in every object. -/
def sorted : Json → Json
  | .array items => .array (sortedItems items)
  | .object members => .object (sortMembers (sortedMembers members))
  | .null => .null
  | .bool b => .bool b
  | .number n => .number n
  | .text s => .text s

/-- Every item with ascending keys. -/
def sortedItems : List Json → List Json
  | [] => []
  | x :: rest => sorted x :: sortedItems rest

/-- Every member's value with ascending keys; the members stay in place. -/
def sortedMembers : List (String × Json) → List (String × Json)
  | [] => []
  | (key, x) :: rest => (key, sorted x) :: sortedMembers rest
end

/-- What stands under a key, if anything does. -/
def get? : Json → String → Option Json
  | .object members, key => members.lookup key
  | _, _ => none

/-- What stands under a key; `null` if nothing does. -/
def get (j : Json) (key : String) : Json := (j.get? key).getD .null

/-- The items of an array. Nothing else has any. -/
def items : Json → List Json
  | .array items => items
  | _ => []

/-- A text as it is. Anything else counts as no text. -/
def string : Json → String
  | .text s => s
  | _ => ""

/-- Whether this is `true`. -/
def isTrue : Json → Bool
  | .bool b => b
  | _ => false

/-- The spaces at the start of a line of some depth. -/
def indent (depth : Nat) : List Char := '\n' :: List.replicate (2 * depth) ' '

/-- An object of plain members over several lines, one member a line. -/
def renderLines (members : List (String × Json)) : String :=
  let line := fun (key, x) => indent 1 ++ quote key ++ [':', ' '] ++ write x
  String.ofList
    ('\x7b' :: ((members.map line).intersperse [',']).flatten ++ indent 0 ++ ['\x7d'])

end Json

end ChainRelay
