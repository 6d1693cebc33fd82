import ChainRelay.Json.Doc

/-!
# Reading JSON text

From bytes to a document (`Doc.read`). The text is read once from left to right;
what is wrong with it is written down in the document at its place and decides
nothing here. A quoted text is read by a machine of a few states (`Quoting`), one
character at a time.
-/

namespace ChainRelay

/-- What is read: characters, and `none` for bytes that make none. -/
abbrev Units := List (Option Char)

namespace Units

/-- The input from the next character on that is no white space. -/
def skipBlank : Units → Units
  | some c :: rest =>
    if c = ' ' ∨ c = '\t' ∨ c = '\n' ∨ c = '\r' then skipBlank rest else some c :: rest
  | input => input

/-- The length in bytes, a stretch without characters counted as one. -/
def byteLength (input : Units) : Nat :=
  input.foldl (fun n u => n + u.elim 1 Char.utf8Size) 0

end Units

/-- Where the reader of a quoted text stands. -/
inductive Quoting
  /-- Between characters. -/
  | plain
  /-- Behind a backslash; `high` is a leading surrogate before it. -/
  | escape (high : Option Nat)
  /-- Before the last `left` of four digits. -/
  | digits (left value : Nat) (high : Option Nat)
  /-- Behind a leading surrogate. -/
  | paired (high : Nat)

/-- What makes a quoted text unreadable. -/
inductive Damage
  | none
  /-- Bytes that are no character: noticed at the end. -/
  | bytes
  /-- A surrogate by itself: noticed at once. -/
  | surrogate
deriving DecidableEq

/-- What one character leads to. -/
inductive Quoting.Move
  | on (state : Quoting) (damage : Damage) (seen : Option Char)
  | close (damage : Damage)
  | fault (fault : Fault)

namespace Quoting

/-- A character between characters. -/
def stepPlain (damage : Damage) : Option Char → Move
  | none => .on .plain (if damage = .none then .bytes else damage) none
  | some c =>
    if c = '"' then .close damage
    else if c = '\\' then .on (.escape none) damage none
    else if c.toNat < 32 then .fault .malformed
    else .on .plain damage (some c)

/-- The character that a letter behind a backslash stands for. -/
def letter? (c : Char) : Option Char :=
  if c = '"' ∨ c = '\\' ∨ c = '/' then some c
  else if c = 'b' then some '\x08'
  else if c = 'f' then some '\x0c'
  else if c = 'n' then some '\n'
  else if c = 'r' then some '\r'
  else if c = 't' then some '\t'
  else none

/-- A character behind a backslash. -/
def stepEscape (high : Option Nat) (damage : Damage) (c : Option Char) : Move :=
  if c = some 'u' then .on (.digits 4 0 high) damage none
  else match c.bind letter? with
    | some seen => .on .plain (if high.isSome then .surrogate else damage) (some seen)
    | none => .fault .malformed

/-- All four digits are there. -/
def complete (n : Nat) (high : Option Nat) (damage : Damage) : Move :=
  let isLow := 0xDC00 ≤ n ∧ n ≤ 0xDFFF
  match high with
  | some h =>
    if isLow then
      .on .plain damage (some (Char.ofNat (0x10000 + (h - 0xD800) * 1024 + (n - 0xDC00))))
    else .on .plain .surrogate none
  | none =>
    if damage = .surrogate then .on .plain damage none
    else if isLow then .on .plain .surrogate none
    else if 0xD800 ≤ n ∧ n ≤ 0xDBFF then .on (.paired n) damage none
    else .on .plain damage (some (Char.ofNat n))

/-- A character where one of four digits belongs; `available` is the number of
    bytes from the first digit on. -/
def stepDigit (left value : Nat) (high : Option Nat) (damage : Damage) (available : Unit → Nat)
    (c : Option Char) : Move :=
  match c.bind (Numeral.digit? 16) with
  | some d =>
    if left ≤ 1 then complete (value * 16 + d) high damage
    else .on (.digits (left - 1) (value * 16 + d) high) damage none
  | none => .fault (if 4 ≤ available () then .malformed else .truncated)

/-- One character, with the input from it on. -/
def step (state : Quoting) (damage : Damage) (input : Units) (c : Option Char) : Move :=
  match state with
  | .plain => stepPlain damage c
  | .escape high => stepEscape high damage c
  | .digits left value high =>
    stepDigit left value high damage (fun _ => 4 - left + Units.byteLength input) c
  | .paired high =>
    if c = some '\\' then .on (.escape (some high)) damage none
    else stepPlain .surrogate c

/-- A fault that is met while reading; a surrogate by itself was met before it. -/
def breakOff (damage : Damage) (fault : Fault) : Quote :=
  .torn (if damage = .surrogate then .malformed else fault) fault

/-- Reads a quoted text from behind its first quote; `seen` holds its characters
    in reverse. -/
def run (state : Quoting) (damage : Damage) (seen : List Char) : Units → Quote × Units
  | [] => (breakOff damage .truncated, [])
  | c :: rest =>
    match step state damage (c :: rest) c with
    | .on state damage more => run state damage (more.toList ++ seen) rest
    | .close damage => (if damage = .none then .whole (String.ofList seen.reverse) else .spoiled, rest)
    | .fault fault => (breakOff damage fault, [])

end Quoting

/-- Reads a quoted text from behind its first quote. -/
def Quote.scan (input : Units) : Quote × Units := Quoting.run .plain .none [] input

/-- A number as written. -/
structure Literal where
  /-- Whether a minus sign stands before it. -/
  negative : Bool
  /-- The digits before the point. -/
  whole : List Nat
  /-- The digits after the point, if there is one. -/
  fraction : Option (List Nat)
  /-- The exponent, if there is one. -/
  exponent : Option Int

namespace Literal

/-- The bound of the digits that are kept. -/
def bound : Nat := Nat.pow 2 64

/-- Appends digits as long as the number stays below the bound; also gives those
    left over. -/
def gather (n : Nat) : List Nat → Nat × List Nat
  | [] => (n, [])
  | d :: rest => if n * 10 + d < bound then gather (n * 10 + d) rest else (n, d :: rest)

/-- The floating-point number nearest to `n`, scaled by the one nearest to the
    power of ten; `none` if it is out of range. Powers beyond `10 ^ 308` are
    divided out in steps. -/
def scale? (n : Nat) (exponent : Int) : Option Binary64 :=
  let x := Binary64.ofNat n
  if n = 0 then some x
  else if 308 < exponent then none
  else if 0 ≤ exponent then
    let y := x.mul (Binary64.powerOfTen exponent.toNat)
    if y.isFinite then some y else none
  else if -308 ≤ exponent then some (x.div (Binary64.powerOfTen (-exponent).toNat))
  else
    let y := x.div (Binary64.powerOfTen 308)
    if -616 ≤ exponent then some (y.div (Binary64.powerOfTen (-(exponent + 308)).toNat))
    else some .zero

/-- The number that is kept, unless it is out of range. An integer of sixty-four
    bits stays one, but for a negative zero; of more digits than fit, those
    before the point count as powers of ten, and those after it not at all. -/
def number? (l : Literal) : Option Number :=
  let (n, left) := gather 0 l.whole
  if left.isEmpty ∧ l.fraction.isNone ∧ l.exponent.isNone ∧ (!l.negative ∨ (0 < n ∧ n ≤ Nat.pow 2 63)) then
    some (.integer (if l.negative then -(n : Int) else n))
  else
    let digits := l.fraction.getD []
    let (n, dropped) := gather n digits
    let exponent : Int := left.length - (digits.length - dropped.length : Nat) + l.exponent.getD 0
    (scale? n exponent).map fun x => .float (if l.negative then x.neg else x)

/-- The digits at the front of the input. -/
def digits : Units → List Nat × Units
  | some c :: rest =>
    if '0' ≤ c ∧ c ≤ '9' then
      let (ds, rest) := digits rest
      ((c.toNat - 48) :: ds, rest)
    else ([], some c :: rest)
  | input => ([], input)

/-- What is met where a digit belongs. -/
def missingDigit : Units → Doc
  | [] => .torn .truncated .malformed
  | _ => .torn .malformed .malformed

/-- Reads the exponent, if there is one, and completes the number. -/
def withExponent (l : Literal) : Units → Doc × Units
  | some c :: rest =>
    if c = 'e' ∨ c = 'E' then
      let (isDown, rest) := match rest with
        | some '+' :: rest => (false, rest)
        | some '-' :: rest => (true, rest)
        | rest => (false, rest)
      match digits rest with
      | ([], rest) => (missingDigit rest, [])
      | (ds, rest) =>
        let n : Nat := ds.foldl (fun n d => n * 10 + d) 0
        (.number { l with exponent := some (if isDown then -(n : Int) else n) }.number?, rest)
    else (.number l.number?, some c :: rest)
  | input => (.number l.number?, input)

/-- Reads the fraction, if there is one, and what follows. -/
def withFraction (l : Literal) : Units → Doc × Units
  | some '.' :: rest =>
    match digits rest with
    | ([], rest) => (missingDigit rest, [])
    | (ds, rest) => withExponent { l with fraction := some ds } rest
  | input => withExponent l input

/-- Reads a number from behind its sign. No digit follows a leading zero. -/
def scan (negative : Bool) (input : Units) : Doc × Units :=
  match digits input with
  | ([], rest) => (missingDigit rest, [])
  | (0 :: _ :: _, _) => (.torn .malformed .malformed, [])
  | (ds, rest) => withFraction ⟨negative, ds, none, none⟩ rest

end Literal

namespace Doc

/-- Reads the rest of a word. -/
def word (d : Doc) : List Char → Units → Doc × Units
  | [], input => (d, input)
  | _ :: _, [] => (.torn .truncated .truncated, [])
  | c :: cs, u :: rest => if u = some c then word d cs rest else (.torn .malformed .malformed, [])

mutual
/-- Reads one document; `fuel` bounds the depth of the calls. -/
def scan : Nat → Units → Doc × Units
  | 0, _ => (.absent .malformed, [])
  | fuel + 1, input =>
    match Units.skipBlank input with
    | [] => (.absent .truncated, [])
    | none :: _ => (.absent .malformed, [])
    | some c :: rest =>
      if c = '\x7b' then
        match Units.skipBlank rest with
        | [] => (.object (.cut .truncated), [])
        | some '\x7d' :: rest => (.object .closed, rest)
        | rest =>
          let (members, rest) := scanMembers fuel rest
          (.object members, rest)
      else if c = '[' then
        match Units.skipBlank rest with
        | [] => (.array (.cut .truncated), [])
        | some ']' :: rest => (.array .closed, rest)
        | rest =>
          let (items, rest) := scanItems fuel rest
          (.array items, rest)
      else if c = '"' then
        let (q, rest) := Quote.scan rest
        (.text q, rest)
      else if c = '-' then Literal.scan true rest
      else if '0' ≤ c ∧ c ≤ '9' then Literal.scan false (some c :: rest)
      else if c = 'n' then word .null "ull".toList rest
      else if c = 't' then word (.bool true) "rue".toList rest
      else if c = 'f' then word (.bool false) "alse".toList rest
      else (.absent .malformed, [])

/-- Reads items from the first one on. -/
def scanItems : Nat → Units → Items × Units
  | 0, _ => (.cut .malformed, [])
  | fuel + 1, input =>
    let (item, rest) := scan fuel input
    match Units.skipBlank rest with
    | [] => (.cons item (.cut .truncated), [])
    | some ']' :: rest => (.cons item .closed, rest)
    | some ',' :: rest =>
      let (items, rest) := scanItems fuel rest
      (.cons item items, rest)
    | _ => (.cons item (.cut .malformed), [])

/-- Reads members from the first key on. -/
def scanMembers : Nat → Units → Members × Units
  | 0, _ => (.cut .malformed, [])
  | fuel + 1, input =>
    match Units.skipBlank input with
    | some '"' :: rest =>
      let (key, rest) := Quote.scan rest
      match Units.skipBlank rest with
      | some ':' :: rest =>
        let (value, rest) := scan fuel rest
        match Units.skipBlank rest with
        | [] => (.cons key value (.cut .truncated), [])
        | some '\x7d' :: rest => (.cons key value .closed, rest)
        | some ',' :: rest =>
          let (members, rest) := scanMembers fuel rest
          (.cons key value members, rest)
        | _ => (.cons key value (.cut .malformed), [])
      | [] => (.cons key (.absent .truncated) .closed, [])
      | _ => (.cons key (.absent .malformed) .closed, [])
    | rest =>
      let (d, _) := scan fuel rest
      (.stray d, [])
end

/-- The document in a text, and whether nothing but white space follows it. Every
    second call consumes a character, so the fuel suffices. -/
def ofUnits (input : Units) : Doc × Bool :=
  let (d, rest) := scan (2 * input.length + 2) input
  (d, (Units.skipBlank rest).isEmpty)

/-- The document in a byte string, and whether nothing but white space follows
    it. -/
def read (bytes : Bytes) : Doc × Bool := ofUnits (Utf8.scan bytes)

end Doc

end ChainRelay
