/-!
# Command lines

A relay is told which settings files to read, and whether to write its log as
JSON. `Invocation.parse` reads the arguments from left to right; the first one
that cannot be understood makes the whole command line void.
-/

namespace ChainRelay

/-- What a command line asks for. -/
inductive Invocation
  /-- To run with some settings files. -/
  | run (files : List String) (isLogJson : Bool)
  /-- To tell how the command is used. -/
  | help
  /-- Something that is not understood. -/
  | refused
deriving DecidableEq, Repr

namespace Invocation

/-- The settings file if none is named. -/
def standardFile : String := "config.toml"

/-- Whether an argument can be the value of an option: one that looks like an
    option cannot. -/
def isValue (argument : String) : Bool :=
  argument ≠ "" && (argument = "-" || !"-".toList.isPrefixOf argument.toList)

/-- The text behind a beginning. -/
def behind? (beginning text : String) : Option String :=
  if beginning.toList.isPrefixOf text.toList then
    some (String.ofList (text.toList.drop beginning.length))
  else none

/-- The value that is attached to the option for settings files. -/
def attached? (argument : String) : Option String :=
  match behind? "--config-file=" argument with
  | some value => some value
  | none =>
    match behind? "--" argument with
    | some _ => none
    | none => (behind? "-c=" argument).or (behind? "-c" argument)

/-- The command line without further arguments. -/
def runOf (files : List String) (isLogJson : Bool) : Invocation :=
  run (if files.isEmpty then [standardFile] else files) isLogJson

/-- Reads the arguments that are left after some files, and a request to write the
    log as JSON. -/
def parseAfter (files : List String) (isLogJson : Bool) : List String → Invocation
  | [] => runOf files isLogJson
  | "--" :: rest => if rest.isEmpty then runOf files isLogJson else refused
  | "--log-json" :: rest => if isLogJson then refused else parseAfter files true rest
  | argument :: rest =>
    if argument = "--help" ∨ "-h".toList.isPrefixOf argument.toList then help
    else if argument = "--config-file" ∨ argument = "-c" then
      match rest with
      | value :: rest => if isValue value then parseAfter (files ++ [value]) isLogJson rest else refused
      | [] => refused
    else
      match attached? argument with
      | some "" => refused
      | some value => parseAfter (files ++ [value]) isLogJson rest
      | none => refused

/-- Reads the arguments of a command line. -/
def parse (arguments : List String) : Invocation := parseAfter [] false arguments

end Invocation

end ChainRelay
