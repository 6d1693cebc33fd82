import ChainRelay.Json.Doc

/-!
# Codecs

How a type is written as a value and read from a document, declared together.
Reading walks the document in the order of its text and stops at the first thing
that is wrong; `DecodeError` tells what. A document may come from a text, from a
value that was read before, from a part of a text that had to be held back, or
from settings; these differ in how names stand for values of an enumeration and
in how an array of the wrong length is reported (`Origin`).
-/

namespace ChainRelay

/-- What was met where something else belongs. -/
inductive Unexpected
  | null
  | bool (b : Bool)
  | number (n : Number)
  | text (s : String)
  | map
  | sequence
  | unitVariant
deriving DecidableEq, Repr

/-- Why a sound document is not of the type. -/
inductive Misfit
  | missingField (name : String)
  | duplicateField (name : String)
  | unknownField (name : String)
  | unknownVariant (name : String)
  | invalidLength (length : Nat)
  | invalidType (found : Unexpected)
  | invalidValue (found : Unexpected)
  /-- A reason of the type itself. -/
  | refused (reason : String)
deriving DecidableEq, Repr

/-- Why a document cannot be read. -/
inductive DecodeError
  /-- The text is at fault. -/
  | fault (f : Fault)
  /-- The text is sound, but not of the type. -/
  | misfit (m : Misfit)
deriving DecidableEq, Repr

/-- A name in a message. -/
def Misfit.named (name : String) : String := "\x60" ++ name ++ "\x60"

/-- What was met, as a message names it; `float` writes floating-point numbers. -/
def Unexpected.message (float : Binary64 → String) : Unexpected → String
  | .null => "null"
  | .bool b => "boolean " ++ Misfit.named (if b then "true" else "false")
  | .number (.integer n) => "integer " ++ Misfit.named (toString n)
  | .number (.float x) => "floating point " ++ Misfit.named (float x)
  | .text s => "string " ++ Quoted.ofText s
  | .map => "map"
  | .sequence => "sequence"
  | .unitVariant => "unit variant"

/-- What a message tells about a misfit. -/
def Misfit.message (float : Binary64 → String) : Misfit → String
  | .missingField name => "missing field " ++ named name
  | .duplicateField name => "duplicate field " ++ named name
  | .unknownField name => "unknown field " ++ named name
  | .unknownVariant name => "unknown variant " ++ named name
  | .invalidLength n => "invalid length " ++ toString n
  | .invalidType found => "invalid type: " ++ found.message float
  | .invalidValue found => "invalid value: " ++ found.message float
  | .refused reason => reason

/-- Where a document comes from. -/
inductive Origin
  /-- A text that is being read. -/
  | text
  /-- A value. -/
  | value
  /-- A part of a text that was held back until its type was known. -/
  | held
  /-- A table of settings. -/
  | settings
deriving DecidableEq, Repr

/-- The state of the reader. -/
structure Reading where
  /-- Where the document comes from. -/
  origin : Origin
  /-- How many containers may still be opened; only a text has such a limit. -/
  room : Nat

namespace Reading

/-- The containers that may be open at once in a text. -/
def maxDepth : Nat := 127

/-- The start of a text. -/
def ofText : Reading := ⟨.text, maxDepth⟩

/-- The start of a value. -/
def ofValue : Reading := ⟨.value, 0⟩

/-- The start of a table of settings. -/
def ofSettings : Reading := ⟨.settings, 0⟩

/-- Opens a container. -/
def enter (r : Reading) : Except DecodeError Reading :=
  if r.origin = .text then
    if r.room = 0 then .error (.fault .malformed) else .ok { r with room := r.room - 1 }
  else .ok r

end Reading

/-- The error of a part of the text. -/
def liftFault {α : Type} : Except Fault α → Except DecodeError α
  | .ok x => .ok x
  | .error f => .error (.fault f)

/-- The error of a document that is of another type. -/
def Doc.unexpected : Doc → DecodeError
  | .null => .misfit (.invalidType .null)
  | .bool b => .misfit (.invalidType (.bool b))
  | .number (some n) => .misfit (.invalidType (.number n))
  | .number none => .fault .malformed
  | .text (.whole s) => .misfit (.invalidType (.text s))
  | .text .spoiled => .fault .malformed
  | .text (.torn read _) => .fault read
  | .array _ => .misfit (.invalidType .sequence)
  | .object _ => .misfit (.invalidType .map)
  | .absent fault => .fault fault
  | .torn read _ => .fault read

/-- Writing and reading a type. -/
structure Codec (α : Type) where
  /-- The value that stands for an element. -/
  encode : α → Json
  /-- The element that a document stands for. -/
  decode : Reading → Doc → Except DecodeError α

namespace Codec

variable {α β : Type}

/-- Texts. -/
def text : Codec String where
  encode := .text
  decode
    | _, .text q => liftFault q.read
    | _, d => .error d.unexpected

/-- Natural numbers below a bound, through their values. -/
def word (bound : Nat) (toNat : α → Nat) (ofNat : Nat → α) : Codec α where
  encode x := .ofNat (toNat x)
  decode
    | _, .number (some (.integer n)) =>
      if 0 ≤ n ∧ n < bound then .ok (ofNat n.toNat)
      else .error (.misfit (.invalidValue (.number (.integer n))))
    | _, d => .error d.unexpected

/-- Numbers of sixty-four bits. -/
def word64 : Codec UInt64 := word (Nat.pow 2 64) UInt64.toNat UInt64.ofNat

/-- Numbers of thirty-two bits. -/
def word32 : Codec UInt32 := word (Nat.pow 2 32) UInt32.toNat UInt32.ofNat

/-- Floating-point numbers; an integer is taken as the nearest one. -/
def float : Codec Binary64 where
  encode x := .number (.float x)
  decode
    | _, .number (some (.float x)) => .ok x
    | _, .number (some (.integer n)) => .ok (.ofInt n)
    | _, d => .error d.unexpected

/-- A type that is written as texts, with the reason why a text is refused. -/
def written (write : α → String) (read : String → Except String α) : Codec α where
  encode x := .text (write x)
  decode r d := do
    let s ← text.decode r d
    match read s with
    | .ok x => .ok x
    | .error reason => .error (.misfit (.refused reason))

/-- A type that another is read into, with the reason why an element is refused. -/
def refine (c : Codec α) (of : α → Except String β) (view : β → α) : Codec β where
  encode y := c.encode (view y)
  decode r d := do
    match of (← c.decode r d) with
    | .ok y => .ok y
    | .error reason => .error (.misfit (.refused reason))

/-- Numbers of sixty-four bits that are written as decimal texts. -/
def decimal : Codec UInt64 :=
  written Numeral.ofWord fun s =>
    match Numeral.readDecimal s with
    | .ok n => .ok n
    | .error fault =>
      .error ("invalid number " ++ Quoted.ofText s ++ ": " ++ fault.message)

/-- A type that is the same as another but for its name. -/
def iso (c : Codec α) (of : α → β) (view : β → α) : Codec β where
  encode y := c.encode (view y)
  decode r d := (c.decode r d).map of

/-- `null` or an element. In settings there is no `null`. -/
def option (c : Codec α) : Codec (Option α) where
  encode
    | none => .null
    | some x => c.encode x
  decode
    | _, .null => .ok none
    | r, d => (c.decode r d).map some

/-- Reads items one by one. -/
def decodeItems (decode : Doc → Except DecodeError α) : Items → Except DecodeError (List α)
  | .closed => .ok []
  | .cut fault => .error (.fault fault)
  | .cons item rest => do
    let x ← decode item
    let xs ← decodeItems decode rest
    return x :: xs

/-- Lists. -/
def list (c : Codec α) : Codec (List α) where
  encode xs := .array (xs.map c.encode)
  decode
    | r, .array items => do
      let r ← r.enter
      decodeItems (c.decode r) items
    | _, d => .error d.unexpected

/-- Values of any type, with ascending keys. -/
def value : Codec Json where
  encode j := j
  decode
    | ⟨.text, room⟩, d => (liftFault (d.take room)).map Json.sorted
    -- Only texts have a limit of depth; no other document is deeper than this.
    | _, d => (liftFault (d.take (Nat.pow 2 64))).map Json.sorted

/-- Reads a part of a text before its type is known. -/
def hold (r : Reading) (d : Doc) : Except DecodeError Doc :=
  match r.origin with
  | .text => (liftFault (d.take r.room)).map Doc.ofJson
  | _ => .ok d

end Codec

/-! ## Enumerations -/

namespace Codec

variable {α : Type}

/-- What follows the one member of an object that stands for a name. -/
def afterName : Members → Except DecodeError Unit
  | .closed => .ok ()
  | .cut fault => .error (.fault fault)
  | _ => .error (.fault .malformed)

/-- Whether a document stands for the payload of a bare name: `null`, or in a
    part that was held back also an empty object. -/
def isBare (r : Reading) : Doc → Bool
  | .null => true
  | .object .closed => r.origin = .held
  | _ => false

/-- The error of settings that give a bare name a payload, if they do. -/
def bareSettings : Doc → Except DecodeError Unit
  | .array .closed => .ok ()
  | .array _ => .error (.misfit (.refused "expected empty array"))
  | .object .closed => .ok ()
  | .object _ => .error (.misfit (.refused "expected empty table"))
  | .bool _ => .error (.misfit (.refused "expected table, found boolean"))
  | .number (some (.integer _)) => .error (.misfit (.refused "expected table, found integer"))
  | .number _ => .error (.misfit (.refused "expected table, found float"))
  | _ => .error (.misfit (.refused "expected table, found string"))

/-- The element that a name stands for. -/
def named (known : String → Option α) (name : String) : Except DecodeError α :=
  match known name with
  | some x => .ok x
  | none => .error (.misfit (.unknownVariant name))

/-- Reads a name, written as a text or as the one key of an object. -/
def decodeName (known : String → Option α) (r : Reading) : Doc → Except DecodeError α
  | .text q => do named known (← liftFault q.read)
  | .object members =>
    match r.origin with
    | .text => do
      let r ← r.enter
      match members with
      | .closed => .error (.fault .malformed)
      | .cut fault => .error (.fault fault)
      | .stray d => .error d.unexpected
      | .cons key payload rest =>
        let x ← named known (← liftFault key.read)
        if isBare r payload then afterName rest
        else .error payload.unexpected
        return x
    | .settings =>
      match members with
      | .cons key payload .closed => do
        let x ← named known (← liftFault key.read)
        bareSettings payload
        return x
      | .closed =>
        .error (.misfit (.refused "wanted exactly 1 element, found 0 elements"))
      | _ => .error (.misfit (.refused "wanted exactly 1 element, more than 1 element"))
    | _ =>
      match members with
      | .cons key payload .closed => do
        let x ← named known (← liftFault key.read)
        if isBare r payload then .ok x else .error payload.unexpected
      | _ => .error (.misfit (.invalidValue .map))
  | d =>
    match r.origin, d with
    | .text, .absent fault => .error (.fault fault)
    | .text, _ => .error (.fault .malformed)
    | .settings, _ => .error (.misfit (.invalidType .unitVariant))
    | _, d => .error d.unexpected

/-- An enumeration by its names. -/
def names (name : α → String) (known : String → Option α) : Codec α where
  encode x := .text (name x)
  decode := decodeName known

end Codec

end ChainRelay
