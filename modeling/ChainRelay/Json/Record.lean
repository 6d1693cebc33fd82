import ChainRelay.Json.Codec

/-!
# Records

Codecs of structures, from the codecs of their fields. A structure is written as
an object of its fields in order. It is read from an object with the fields in
any order, each at most once, or from an array with the fields in order; a field
with a default may be missing, in an array only at the end. `Fields` lists the
fields, `Row` holds their values, and `Draft` those met so far.
-/

namespace ChainRelay

/-- One field. -/
structure Field (β : Type) where
  /-- Its key. -/
  name : String
  /-- How its value is written and read. -/
  codec : Codec β
  /-- The value if the field is missing. -/
  absent : Option β
  /-- Whether a value is left out in writing. -/
  omits : β → Bool

namespace Field

variable {β : Type}

/-- A field that must be there. -/
def required (name : String) (codec : Codec β) : Field β := ⟨name, codec, none, fun _ => false⟩

/-- A field with a default. -/
def optional (name : String) (codec : Codec β) (absent : β) : Field β :=
  ⟨name, codec, some absent, fun _ => false⟩

/-- A field with a default that is left out in writing some values. -/
def sparse (name : String) (codec : Codec β) (absent : β) (omits : β → Bool) : Field β :=
  ⟨name, codec, some absent, omits⟩

end Field

/-- The fields of a structure. -/
inductive Fields : List Type → Type 1
  | nil : Fields []
  | cons {β : Type} {ts : List Type} (field : Field β) (rest : Fields ts) : Fields (β :: ts)

/-- Values of some types. -/
def Row : List Type → Type
  | [] => Unit
  | β :: ts => β × Row ts

/-- Values of some types, as far as they are known. -/
def Draft : List Type → Type
  | [] => Unit
  | β :: ts => Option β × Draft ts

/-- Nothing is known. -/
def Draft.empty : (ts : List Type) → Draft ts
  | [] => ()
  | _ :: ts => (none, Draft.empty ts)

namespace Fields

/-- The members of an object. -/
def encode : {ts : List Type} → Fields ts → Row ts → List (String × Json)
  | _, .nil, _ => []
  | _, .cons field rest, (x, xs) =>
    if field.omits x then rest.encode xs
    else (field.name, field.codec.encode x) :: rest.encode xs

/-- Reads the value of one field into the draft; `none` if no field has the key. -/
def put : {ts : List Type} → Fields ts → Reading → String → Doc → Draft ts →
    Option (Except DecodeError (Draft ts))
  | _, .nil, _, _, _, _ => none
  | _, .cons field rest, r, key, d, (x, xs) =>
    if key = field.name then
      match x with
      | some _ => some (.error (.misfit (.duplicateField key)))
      | none => some ((field.codec.decode r d).map fun y => (some y, xs))
    else (rest.put r key d xs).map fun result => result.map fun ys => (x, ys)

/-- Reads the members of an object into the draft. A key that is no field's is
    refused if `strict`, and passed over otherwise. -/
def readMembers {ts : List Type} (fields : Fields ts) (strict : Bool) (r : Reading) :
    Members → Draft ts → Except DecodeError (Draft ts)
  | .closed, draft => .ok draft
  | .cut fault, _ => .error (.fault fault)
  | .stray d, _ => .error (.fault d.strayFault)
  | .cons key value rest, draft => do
    let key ← liftFault key.read
    match fields.put r key value draft with
    | some result =>
      let draft ← result
      fields.readMembers strict r rest draft
    | none =>
      if strict then .error (.misfit (.unknownField key))
      else do
        liftFault value.skip
        fields.readMembers strict r rest draft

/-- The values of a draft, with defaults for missing fields. -/
def finish : {ts : List Type} → Fields ts → Draft ts → Except DecodeError (Row ts)
  | _, .nil, _ => .ok ()
  | _, .cons field rest, (x, xs) => do
    let x ← match x, field.absent with
      | some x, _ => .ok x
      | none, some x => .ok x
      | none, none => .error (.misfit (.missingField field.name))
    let xs ← rest.finish xs
    return (x, xs)

/-- The values of the fields that follow the end of an array, the first of them
    at `position`. -/
def defaults : {ts : List Type} → Fields ts → Nat → Except DecodeError (Row ts)
  | _, .nil, _ => .ok ()
  | _, .cons field rest, position =>
    match field.absent with
    | some x => (rest.defaults (position + 1)).map fun xs => (x, xs)
    | none => .error (.misfit (.invalidLength position))

/-- What follows the last field in an array with the fields before it. -/
def afterItems (r : Reading) (position : Nat) : Items → Except DecodeError Unit
  | .closed => .ok ()
  | .cut fault => .error (.fault fault)
  | .cons item rest =>
    if r.origin = .text then .error (.fault .malformed)
    else .error (.misfit (.invalidLength (position + (Items.cons item rest).count)))

/-- Reads the items of an array as the fields in order. -/
def readItems : {ts : List Type} → Fields ts → Reading → Nat → Items →
    Except DecodeError (Row ts)
  | _, .nil, r, position, items => (afterItems r position items).map fun _ => ()
  | _, .cons field rest, r, position, .cons item items => do
    let x ← field.codec.decode r item
    let xs ← rest.readItems r (position + 1) items
    return (x, xs)
  | _, .cons _ _, _, _, .cut fault => .error (.fault fault)
  | _, .cons field rest, _, position, .closed =>
    (Fields.cons field rest).defaults position

end Fields

namespace Codec

/-- The codec of a structure with some fields; a `strict` one knows no others. -/
def record {α : Type} {ts : List Type} (fields : Fields ts) (of : Row ts → α) (view : α → Row ts)
    (strict : Bool := false) : Codec α where
  encode x := .object (fields.encode (view x))
  decode
    | r, .object members => do
      let r ← r.enter
      let draft ← fields.readMembers strict r members (Draft.empty ts)
      let row ← fields.finish draft
      return of row
    | r, .array items => do
      let r ← r.enter
      let row ← fields.readItems r 0 items
      return of row
    | _, d => .error d.unexpected

end Codec

/-! ## Tagged unions -/

/-- One case of a union: its tag and how the payload is read. -/
structure Case (α : Type) where
  /-- The text that names the case. -/
  tag : String
  /-- Reads the payload. -/
  decode : Reading → Doc → Except DecodeError α

namespace Case

variable {α : Type}

/-- The case of a tag. -/
def find? (cases : List (Case α)) (tag : String) : Option (Case α) :=
  cases.find? (·.tag = tag)

/-- Which of the two members of a union a key names. -/
inductive Member
  | tag
  | payload
deriving DecidableEq

/-- The key of a member. -/
def Member.name : Member → String
  | .tag => "type"
  | .payload => "value"

/-- The next tag or payload among the members, with those after it. -/
def next : Members → Except DecodeError (Option (Member × Doc × Members))
  | .closed => .ok none
  | .cut fault => .error (.fault fault)
  | .stray d => .error (.fault d.strayFault)
  | .cons key value rest => do
    let key ← liftFault key.read
    if key = Member.tag.name then return some (.tag, value, rest)
    else if key = Member.payload.name then return some (.payload, value, rest)
    else do
      liftFault value.skip
      next rest

/-- Checks that neither member comes again. -/
def finish (x : α) (rest : Members) : Except DecodeError α := do
  match ← next rest with
  | none => return x
  | some (again, _, _) => .error (.misfit (.duplicateField again.name))

/-- Reads a union from the members of an object. A payload before its tag is held
    back. -/
def readMembers (cases : List (Case α)) (r : Reading) (members : Members) :
    Except DecodeError α := do
  match ← next members with
  | none => .error (.misfit (.missingField Member.tag.name))
  | some (.tag, tag, rest) =>
    let case ← Codec.decodeName (find? cases) r tag
    match ← next rest with
    | none => .error (.misfit (.missingField Member.payload.name))
    | some (.tag, _, _) => .error (.misfit (.duplicateField Member.tag.name))
    | some (.payload, payload, rest) => finish (← case.decode r payload) rest
  | some (.payload, payload, rest) =>
    let payload ← Codec.hold r payload
    match ← next rest with
    | none => .error (.misfit (.missingField Member.tag.name))
    | some (.payload, _, _) => .error (.misfit (.duplicateField Member.payload.name))
    | some (.tag, tag, rest) =>
      let case ← Codec.decodeName (find? cases) r tag
      finish (← case.decode { r with origin := .held } payload) rest

/-- Reads a union from an array of its tag and its payload. -/
def readItems (cases : List (Case α)) (r : Reading) : Items → Except DecodeError α
  | .closed => .error (.misfit (.invalidLength 0))
  | .cut fault => .error (.fault fault)
  | .cons tag rest => do
    let case ← Codec.decodeName (find? cases) r tag
    match rest with
    | .closed => .error (.misfit (.invalidLength 1))
    | .cut fault => .error (.fault fault)
    | .cons payload rest =>
      let x ← case.decode r payload
      Fields.afterItems r 2 rest
      return x

end Case

namespace Codec

/-- The codec of a union: an object of a tag and a payload. -/
def tagged {α : Type} (cases : List (Case α)) (encode : α → String × Json) : Codec α where
  encode x :=
    .object [(Case.Member.tag.name, .text (encode x).1), (Case.Member.payload.name, (encode x).2)]
  decode
    | r, .object members => do
      let r ← r.enter
      Case.readMembers cases r members
    | r, .array items => do
      let r ← r.enter
      Case.readItems cases r items
    | _, d => .error d.unexpected

/-- Reads a whole text. -/
def ofBytes {α : Type} (c : Codec α) (bytes : Bytes) (doc : Bytes → Doc × Bool) :
    Except DecodeError α := do
  let (d, ended) := doc bytes
  let x ← c.decode .ofText d
  if ended then .ok x else .error (.fault .malformed)

end Codec

end ChainRelay
