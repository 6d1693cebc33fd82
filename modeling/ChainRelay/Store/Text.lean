import ChainRelay.Json.Reader
import ChainRelay.Json.Record
import ChainRelay.Store.Basic

/-!
# The text of a store

A store that is kept in a file is kept as one JSON object. A program that opens the
file again finds what its text says.
-/

namespace ChainRelay

/-- The status with a name. -/
def BlockStatus.ofText? : String → Option BlockStatus
  | "NotStarted" => some handedOut
  | "Success" => some observed
  | "Failed" => some failed
  | _ => none

namespace Store

/-- Rows as objects. -/
def rowCodec : Codec (UInt64 × BlockStatus) :=
  .record
    (.cons (.required "height" .word64) <|
      .cons (.required "status" (.names BlockStatus.text BlockStatus.ofText?)) .nil)
    (fun (height, status, ()) => (height, status)) (fun (height, status) => (height, status, ()))

/-- Stores as objects; rows are put in order whatever order they come in. -/
def codec : Codec Store :=
  .record
    (.cons (.optional "position" (.option .word64) none) <|
      .cons (.required "rows" (.list rowCodec)) .nil)
    (fun (position, rows, ()) =>
      ⟨position, rows.foldl (fun rows (height, status) => StatusRows.put height status rows) []⟩)
    (fun s => (s.position, s.rows, ()))

/-- The text of a store. -/
def render (s : Store) : String := (codec.encode s).render

/-- The store with a text. -/
def ofText? (text : String) : Option Store :=
  (codec.ofBytes (Utf8.encode text) Doc.read).toOption

/-- Whether a store outlives the program that uses it. -/
inductive Kind
  /-- It is kept in a file. -/
  | file
  /-- It is kept in memory. -/
  | memory
deriving DecidableEq, Repr

/-- The store that a program finds when it opens one again. -/
def reopen (s : Store) : Kind → Store
  | .file => (ofText? s.render).getD empty
  | .memory => empty

end Store

end ChainRelay
