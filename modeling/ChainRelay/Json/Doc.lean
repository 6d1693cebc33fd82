import ChainRelay.Json.Basic

/-!
# JSON documents

A document as it is written: members in order, with repetitions, and with the
faults of the text where they stand. A reader that wants a part of the document
meets its faults in the order of the text; a reader that skips a part is more
lenient (`Doc.skip`): it looks at neither the range of numbers nor the pairing
of surrogates. `Doc.take` reads a document as a value.
-/

namespace ChainRelay

/-- Why a text is not a document. -/
inductive Fault
  /-- It breaks the grammar, or a limit of the reader. -/
  | malformed
  /-- It ends too early. -/
  | truncated
deriving DecidableEq, Repr

/-- A quoted text. -/
inductive Quote
  /-- It is sound. -/
  | whole (s : String)
  /-- It is closed, but cannot be read: some of it is no character. -/
  | spoiled
  /-- It breaks off, with the fault that is met in reading it and in skipping it. -/
  | torn (read skip : Fault)
deriving DecidableEq, Repr

mutual
/-- A document. -/
inductive Doc
  | null
  | bool (b : Bool)
  /-- A number, unless it is out of range. -/
  | number (n : Option Number)
  | text (q : Quote)
  | array (items : Items)
  | object (members : Members)
  /-- No value starts here. -/
  | absent (fault : Fault)
  /-- A word or a number that breaks off. -/
  | torn (read skip : Fault)

/-- The items of an array up to its end. -/
inductive Items
  | closed
  /-- There is neither a comma nor the end. -/
  | cut (fault : Fault)
  | cons (item : Doc) (rest : Items)

/-- The members of an object up to its end. -/
inductive Members
  | closed
  /-- There is neither a comma nor the end. -/
  | cut (fault : Fault)
  /-- Something else stands where a key belongs. -/
  | stray (d : Doc)
  | cons (key : Quote) (value : Doc) (rest : Members)
end

/-- The text, if it can be read. -/
def Quote.read : Quote → Except Fault String
  | .whole s => .ok s
  | .spoiled => .error .malformed
  | .torn read _ => .error read

/-- The fault of something that stands where a key belongs. -/
def Doc.strayFault : Doc → Fault
  | .absent fault => fault
  | _ => .malformed

mutual
/-- Passes over a document. -/
def Doc.skip : Doc → Except Fault Unit
  | .null | .bool _ | .number _ => .ok ()
  | .text (.torn _ skip) => .error skip
  | .text _ => .ok ()
  | .array items => items.skip
  | .object members => members.skip
  | .absent fault => .error fault
  | .torn _ skip => .error skip

/-- Passes over items. -/
def Items.skip : Items → Except Fault Unit
  | .closed => .ok ()
  | .cut fault => .error fault
  | .cons item rest => do
    item.skip
    rest.skip

/-- Passes over members. -/
def Members.skip : Members → Except Fault Unit
  | .closed => .ok ()
  | .cut fault => .error fault
  | .stray d => .error d.strayFault
  | .cons (.torn _ skip) _ _ => .error skip
  | .cons _ value rest => do
    value.skip
    rest.skip
end

mutual
/-- Reads a document as a value, as written; `room` is the number of containers
    that may still be opened. -/
def Doc.take (room : Nat) : Doc → Except Fault Json
  | .null => .ok .null
  | .bool b => .ok (.bool b)
  | .number (some n) => .ok (.number n)
  | .number none => .error .malformed
  | .text q => q.read.map .text
  | .array items =>
    if room = 0 then .error .malformed else (items.take (room - 1)).map .array
  | .object members =>
    if room = 0 then .error .malformed else (members.take (room - 1)).map .object
  | .absent fault => .error fault
  | .torn read _ => .error read

/-- Reads items. -/
def Items.take (room : Nat) : Items → Except Fault (List Json)
  | .closed => .ok []
  | .cut fault => .error fault
  | .cons item rest => do
    let x ← item.take room
    let xs ← rest.take room
    return x :: xs

/-- Reads members. -/
def Members.take (room : Nat) : Members → Except Fault (List (String × Json))
  | .closed => .ok []
  | .cut fault => .error fault
  | .stray d => .error d.strayFault
  | .cons key value rest => do
    let key ← key.read
    let x ← value.take room
    let xs ← rest.take room
    return (key, x) :: xs
end

mutual
/-- The sound document of a value. -/
def Doc.ofJson : Json → Doc
  | .null => .null
  | .bool b => .bool b
  | .number n => .number (some n)
  | .text s => .text (.whole s)
  | .array items => .array (Items.ofJson items)
  | .object members => .object (Members.ofJson members)

/-- The sound items of values. -/
def Items.ofJson : List Json → Items
  | [] => .closed
  | x :: rest => .cons (Doc.ofJson x) (Items.ofJson rest)

/-- The sound members of values. -/
def Members.ofJson : List (String × Json) → Members
  | [] => .closed
  | (key, x) :: rest => .cons (.whole key) (Doc.ofJson x) (Members.ofJson rest)
end

/-- How many items there are. -/
def Items.count : Items → Nat
  | .cons _ rest => rest.count + 1
  | _ => 0

end ChainRelay
