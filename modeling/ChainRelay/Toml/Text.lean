import ChainRelay.Text.Numeral

/-!
# Texts and blank space in TOML

The pieces of the grammar below values: blank space and comments, and texts in
the four kinds of quotes. Readers take the front of the input and give the rest;
`none` means that the input does not follow the grammar.
-/

namespace ChainRelay.Toml

/-- Whether a character may stand neither in a text nor in a comment. -/
def isControl (c : Char) : Bool := (c.toNat < 32 && c ≠ '\t') || c.toNat = 127

/-- Passes over spaces and tabs. -/
def skipSpace (input : List Char) : List Char :=
  input.dropWhile fun c => c = ' ' || c = '\t'

/-- Passes over the end of a line. -/
def newline? : List Char → Option (List Char)
  | '\n' :: rest => some rest
  | '\r' :: '\n' :: rest => some rest
  | _ => none

/-- Passes over a comment, up to the end of its line. -/
def skipComment : List Char → Option (List Char)
  | [] => some []
  | '\n' :: rest => some ('\n' :: rest)
  | '\r' :: '\n' :: rest => some ('\r' :: '\n' :: rest)
  | c :: rest => if isControl c then none else skipComment rest

/-- Passes over blank space, comments and ends of lines; `fuel` bounds their
    number. -/
def skipLines : Nat → List Char → Option (List Char)
  | 0, input => some input
  | fuel + 1, input =>
    match skipSpace input with
    | '#' :: rest => do skipLines fuel (← skipComment rest)
    | rest =>
      match newline? rest with
      | some rest => skipLines fuel rest
      | none => some rest

/-- The end of a line, or of the input, after blank space and a comment. -/
def endLine (input : List Char) : Option (List Char) := do
  let rest ← match skipSpace input with
    | '#' :: rest => skipComment rest
    | rest => some rest
  match rest with
  | [] => some []
  | rest => newline? rest

/-- A number of some hexadecimal digits. -/
def hexNumber : Nat → Nat → List Char → Option (Nat × List Char)
  | 0, n, rest => some (n, rest)
  | count + 1, n, c :: rest => do
    let d ← Numeral.digit? 16 c
    hexNumber count (n * 16 + d) rest
  | _ + 1, _, [] => none

/-- The character with a number. -/
def charOf? (n : Nat) : Option Char :=
  if n.isValidChar then some (Char.ofNat n) else none

/-- An escape, from behind its backslash. -/
def escape : List Char → Option (Char × List Char)
  | 'b' :: rest => some ('\x08', rest)
  | 't' :: rest => some ('\t', rest)
  | 'n' :: rest => some ('\n', rest)
  | 'f' :: rest => some ('\x0c', rest)
  | 'r' :: rest => some ('\r', rest)
  | 'e' :: rest => some ('\x1b', rest)
  | '"' :: rest => some ('"', rest)
  | '\\' :: rest => some ('\\', rest)
  | 'x' :: rest => numbered 2 rest
  | 'u' :: rest => numbered 4 rest
  | 'U' :: rest => numbered 8 rest
  | _ => none
where
  /-- The character with a number of some digits. -/
  numbered (count : Nat) (rest : List Char) : Option (Char × List Char) := do
    let (n, rest) ← hexNumber count 0 rest
    return (← charOf? n, rest)

/-- A text up to its closing double quote. -/
def basic : Nat → List Char → List Char → Option (String × List Char)
  | 0, _, _ => none
  | fuel + 1, seen, input =>
    match input with
    | [] => none
    | '"' :: rest => some (String.ofList seen.reverse, rest)
    | '\\' :: rest => do
      let (c, rest) ← escape rest
      basic fuel (c :: seen) rest
    | c :: rest => if isControl c then none else basic fuel (c :: seen) rest

/-- A text up to its closing single quote. -/
def literal : List Char → List Char → Option (String × List Char)
  | _, [] => none
  | seen, '\'' :: rest => some (String.ofList seen.reverse, rest)
  | seen, c :: rest => if isControl c then none else literal (c :: seen) rest

/-- The quotes at the front of the input, at most five. Three of them close a
    text of several lines, and those before belong to it. -/
def quotes (quote : Char) (input : List Char) : Nat :=
  min 5 (input.takeWhile (· = quote)).length

/-- Passes over all blank space behind a backslash at the end of a line. -/
def continued? (input : List Char) : Option (List Char) :=
  match newline? (skipSpace input) with
  | some rest => some (rest.dropWhile fun c => c = ' ' || c = '\t' || c = '\n' || c = '\r')
  | none => none

/-- A text of several lines up to its closing quotes. -/
def multiline (quote : Char) (escapes : Bool) : Nat → List Char → List Char → Option (String × List Char)
  | 0, _, _ => none
  | fuel + 1, seen, input =>
    let count := quotes quote input
    if 3 ≤ count then
      some (String.ofList (List.replicate (count - 3) quote ++ seen).reverse, input.drop count)
    else match input with
      | [] => none
      | c :: rest =>
        if escapes ∧ c = '\\' then
          match continued? rest with
          | some rest => multiline quote escapes fuel seen rest
          | none => do
            let (c, rest) ← escape rest
            multiline quote escapes fuel (c :: seen) rest
        else match newline? input with
          | some rest => multiline quote escapes fuel ('\n' :: seen) rest
          | none =>
            if isControl c then none else multiline quote escapes fuel (c :: seen) rest

/-- A text in any quotes. An end of line right behind three opening quotes does
    not belong to it. -/
def quoted (input : List Char) : Option (String × List Char) :=
  let lines (quote : Char) (rest : List Char) :=
    multiline quote (quote = '"') (input.length + 1) [] ((newline? rest).getD rest)
  match input with
  | '"' :: '"' :: '"' :: rest => lines '"' rest
  | '\'' :: '\'' :: '\'' :: rest => lines '\'' rest
  | '"' :: rest => basic (input.length + 1) [] rest
  | '\'' :: rest => literal [] rest
  | _ => none

/-- Whether a character may stand in a key without quotes. -/
def isBare (c : Char) : Bool :=
  ('a' ≤ c && c ≤ 'z') || ('A' ≤ c && c ≤ 'Z') || ('0' ≤ c && c ≤ '9') || c = '_' || c = '-'

/-- One part of a key. -/
def simpleKey (input : List Char) : Option (String × List Char) :=
  match input with
  | '"' :: '"' :: '"' :: _ => none
  | '\'' :: '\'' :: '\'' :: _ => none
  | '"' :: _ => quoted input
  | '\'' :: _ => quoted input
  | _ =>
    let name := input.takeWhile isBare
    if name.isEmpty then none else some (String.ofList name, input.dropWhile isBare)

/-- The parts of a key between points. -/
def key : Nat → List Char → Option (List String × List Char)
  | 0, _ => none
  | fuel + 1, input => do
    let (part, rest) ← simpleKey (skipSpace input)
    match skipSpace rest with
    | '.' :: rest =>
      let (parts, rest) ← key fuel rest
      return (part :: parts, rest)
    | rest => return ([part], rest)

end ChainRelay.Toml
