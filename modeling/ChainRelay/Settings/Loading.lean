import ChainRelay.Settings
import ChainRelay.Toml.Reader

/-!
# Loading settings

Settings may be spread over several TOML files. Their top-level keys are put
together; a key that an earlier file has set already is an error, so no file
overrides another.
-/

namespace ChainRelay.Settings

/-- A settings file: its path, and what it holds or why it cannot be read. -/
structure Source where
  /-- Where the file is. -/
  path : String
  /-- What it holds. -/
  content : Except String String

/-- Top-level keys with their values, ascending. -/
abbrev Table := List (String × Json)

/-- The table of one file. -/
def Source.table (s : Source) : Outcome Table :=
  match s.content with
  | .error kind => .error ((Failure.of (.file kind)).within ("unable to read " ++ s.path))
  | .ok text =>
    match Toml.parse? text with
    | none => .error ((Failure.of .toml).within ("malformed config file " ++ s.path))
    | some table => .ok table

/-- Adds the keys of a table to those that are set. -/
def add (path : String) (merged : Table) : Table → Outcome Table
  | [] => .ok merged
  | (key, x) :: rest =>
    if (merged.lookup key).isSome then
      .error (.message (Quoted.ofText key ++ " in " ++ path
        ++ " is already set by an earlier config file"))
    else add path (Json.insertMember key x merged) rest

/-- Puts the tables of files together, in their order. -/
def merge : Table → List Source → Outcome Table
  | merged, [] => .ok merged
  | merged, source :: rest => do
    let table ← source.table
    let merged ← add source.path merged table
    merge merged rest

/-- The settings of a table. -/
def ofTable (table : Table) : Outcome Settings :=
  (codec.decode .ofSettings (Doc.ofJson (.object table))).mapError Failure.ofSettings

/-- The settings of some files. -/
def load (sources : List Source) : Outcome Settings := do
  let settings ← ofTable (← merge [] sources)
  settings.check
  return settings

end ChainRelay.Settings
