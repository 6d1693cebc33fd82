import ChainRelay.Json.Basic

/-!
# Tables under construction

What the lines of a TOML text build up. A table remembers how it came to be, as
that decides which lines may add to it: each table is defined by one header, or
by the keys with points under one header.
-/

namespace ChainRelay.Toml

/-- How a table came to be. -/
inductive Standing
  /-- A header named a table inside it. -/
  | implied
  /-- A header named it. -/
  | defined
  /-- A key with points named it. -/
  | dotted
deriving DecidableEq, Repr

/-- What a key stands for. -/
inductive Node
  | value (j : Json)
  | table (standing : Standing) (members : List (String × Node))
  /-- Tables with one header each, the last one first. -/
  | tables (items : List (List (String × Node)))

/-- The members of a table. -/
abbrev Members := List (String × Node)

mutual
/-- The finished value of a node. -/
def Node.json : Node → Json
  | .value j => j
  | .table _ members => .object (Json.sortMembers (jsonMembers members))
  | .tables items => .array (jsonTables items).reverse

/-- The finished values of members. -/
def jsonMembers : List (String × Node) → List (String × Json)
  | [] => []
  | (key, node) :: rest => (key, node.json) :: jsonMembers rest

/-- The finished values of tables. -/
def jsonTables : List (List (String × Node)) → List Json
  | [] => []
  | members :: rest => .object (Json.sortMembers (jsonMembers members)) :: jsonTables rest
end

namespace Members

/-- Puts a node under a key, in place of the one there. -/
def put (key : String) (node : Node) : Members → Members
  | [] => [(key, node)]
  | (k, old) :: rest => if k = key then (k, node) :: rest else (k, old) :: put key node rest

/-- Changes the table that a header leads to. Tables on the way that are not
    there are implied; of tables with one header, the last one is meant. -/
def along (change : Members → Option Members) : List String → Members → Option Members
  | [], members => change members
  | key :: path, members =>
    match members.lookup key with
    | none => do
      return members.put key (.table .implied (← along change path []))
    | some (.table standing inner) => do
      return members.put key (.table standing (← along change path inner))
    | some (.tables (last :: earlier)) => do
      return members.put key (.tables ((← along change path last) :: earlier))
    | some _ => none

/-- Defines a table by its header. -/
def define (key : String) (members : Members) : Option Members :=
  match members.lookup key with
  | none => some (members.put key (.table .defined []))
  | some (.table .implied inner) => some (members.put key (.table .defined inner))
  | some _ => none

/-- Adds a table to those with one header each. -/
def extend (key : String) (members : Members) : Option Members :=
  match members.lookup key with
  | none => some (members.put key (.tables [[]]))
  | some (.tables items) => some (members.put key (.tables ([] :: items)))
  | some _ => none

/-- Sets a key, which may have points. -/
def set (value : Json) : List String → Members → Option Members
  | [], _ => none
  | [key], members =>
    match members.lookup key with
    | none => some (members.put key (.value value))
    | some _ => none
  | key :: path, members =>
    match members.lookup key with
    | none => do
      return members.put key (.table .dotted (← set value path []))
    | some (.table .defined _) => none
    | some (.table standing inner) => do
      return members.put key (.table standing (← set value path inner))
    | some _ => none

end Members

end ChainRelay.Toml
