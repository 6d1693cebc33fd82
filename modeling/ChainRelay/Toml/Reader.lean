import ChainRelay.Toml.Scalar
import ChainRelay.Toml.Text
import ChainRelay.Toml.Tree

/-!
# Reading TOML

From the text of a settings file to its top-level table. `Toml.parse?` gives the
members with ascending keys, or nothing if the text does not follow the grammar
or sets a key twice.
-/

namespace ChainRelay.Toml

/-- Whether a character ends a word. -/
def endsWord (c : Char) : Bool :=
  c = ' ' || c = '\t' || c = '\n' || c = '\r' || c = ',' || c = ']' || c = '\x7d' || c = '#'

/-- A plain word. A date may be followed by a space and a time. -/
def plain (input : List Char) : Option (Json × List Char) := do
  let word := input.takeWhile (!endsWord ·)
  let rest := input.dropWhile (!endsWord ·)
  let (word, rest) := match rest with
    | ' ' :: more =>
      let time := more.takeWhile (!endsWord ·)
      if date? word = some [] ∧ (time.head?.map (isDigit 10)).getD false then
        (word ++ ' ' :: time, more.dropWhile (!endsWord ·))
      else (word, rest)
    | _ => (word, rest)
  return (← scalar? word, rest)

mutual
/-- A value; `fuel` bounds the depth of the calls. -/
def value : Nat → List Char → Option (Json × List Char)
  | 0, _ => none
  | fuel + 1, input =>
    match input with
    | '"' :: _ => (quoted input).map fun (s, rest) => (.text s, rest)
    | '\'' :: _ => (quoted input).map fun (s, rest) => (.text s, rest)
    | '[' :: rest => (items fuel rest).map fun (xs, rest) => (.array xs, rest)
    | '\x7b' :: rest => do
      let (ms, rest) ← inline fuel [] rest
      return (.object (Json.sortMembers (jsonMembers ms)), rest)
    | _ => plain input

/-- Items up to the closing bracket. -/
def items : Nat → List Char → Option (List Json × List Char)
  | 0, _ => none
  | fuel + 1, input => do
    match ← skipLines input.length input with
    | ']' :: rest => return ([], rest)
    | rest =>
      let (x, rest) ← value fuel rest
      match ← skipLines rest.length rest with
      | ',' :: rest =>
        let (xs, rest) ← items fuel rest
        return (x :: xs, rest)
      | ']' :: rest => return ([x], rest)
      | _ => none

/-- Members up to the closing brace. -/
def inline : Nat → Members → List Char → Option (Members × List Char)
  | 0, _, _ => none
  | fuel + 1, members, input => do
    match ← skipLines input.length input with
    | '\x7d' :: rest => return (members, rest)
    | rest =>
      let (path, rest) ← key rest.length rest
      match rest with
      | '=' :: rest =>
        let (x, rest) ← value fuel (skipSpace rest)
        let members ← members.set x path
        match ← skipLines rest.length rest with
        | ',' :: rest => inline fuel members rest
        | '\x7d' :: rest => return (members, rest)
        | _ => none
      | _ => none
end

/-- The key between the brackets of a header, up to the first of them. -/
def header (input : List Char) : Option (List String × List Char) := do
  let (path, rest) ← key input.length input
  match rest with
  | ']' :: rest => return (path, rest)
  | _ => none

/-- Reads line by line; `table` is the header in force. -/
def lines : Nat → List String → Members → List Char → Option Members
  | 0, _, _, _ => none
  | fuel + 1, table, root, input => do
    match ← skipLines input.length input with
    | [] => return root
    | '[' :: '[' :: rest =>
      let (path, rest) ← header rest
      match rest with
      | ']' :: rest =>
        let root ← root.along (Members.extend (path.getLast?.getD "")) path.dropLast
        lines fuel path root (← endLine rest)
      | _ => none
    | '[' :: rest =>
      let (path, rest) ← header rest
      let root ← root.along (Members.define (path.getLast?.getD "")) path.dropLast
      lines fuel path root (← endLine rest)
    | rest =>
      let (path, rest) ← key rest.length rest
      match rest with
      | '=' :: rest =>
        let (x, rest) ← value (2 * rest.length + 2) (skipSpace rest)
        let root ← root.along (Members.set x path) table
        lines fuel table root (← endLine rest)
      | _ => none

/-- The members of the table that a text stands for. -/
def parse? (text : String) : Option (List (String × Json)) :=
  let input := match text.toList with
    | '\ufeff' :: rest => rest
    | cs => cs
  (lines (input.length + 1) [] [] input).map fun root => Json.sortMembers (jsonMembers root)

end ChainRelay.Toml
