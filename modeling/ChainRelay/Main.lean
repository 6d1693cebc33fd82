import ChainRelay.Relay.Invocation
import ChainRelay.Relay.Line
import ChainRelay.Settings.Loading
import ChainRelay.Store.Text

/-!
# The command

Reads the settings, opens the store and the key, and runs a relay by the lines of
its agent on the standard streams.
-/

namespace ChainRelay.Command

/-- Reads a settings file. -/
def readSource (path : String) : IO Settings.Source := do
  try
    return ⟨path, .ok (← IO.FS.readFile path)⟩
  catch _ => return ⟨path, .error "NotFound"⟩

/-- Reads a file that need not be there. -/
def readFile? (path : String) : IO (Option String) := do
  try
    return some (← IO.FS.readFile path)
  catch _ => return none

/-- Tells what is at a path. -/
def lookAt (path : String) : IO (Option KeyStore.Entry) := do
  try
    return some (.ok (← IO.FS.readFile path))
  catch
    | .noFileOrDirectory .. => return none
    | e => return some (.error (toString e))

/-- Writes a failure and gives the exit code for it. -/
def complain (failure : Failure) : IO UInt32 := do
  (← IO.getStderr).putStrLn failure.report
  return 1

/-- Writes why the command breaks off and gives the exit code for it. -/
def collapse (breakdown : Breakdown) : IO UInt32 := do
  (← IO.getStderr).putStrLn ("broken off: " ++ breakdown.message)
  return 101

/-- What the clock tells. -/
def tell : IO Moment := return .ofNanoseconds (← IO.monoNanosNow)

/-- A secret that nobody knows. -/
partial def freshKey : IO SigningKey := do
  match SigningKey.ofBytes? (← IO.getRandomBytes 32).toList with
  | some key => return key
  | none => freshKey

/-- Lets the tasks of a relay take all steps that they can take at some moment. -/
partial def settle (now : Moment) (r : Relay) : Relay :=
  match r.step? now with
  | some r => settle now r
  | none => r

/-- Keeps a store in its file, if it has one. -/
def save (path : Option String) (store : Store) : IO Unit := do
  match path with
  | some path => IO.FS.writeFile path store.render
  | none => return ()

/-- Runs a relay to its end. The requests of `asked` have been written. -/
partial def run (path : Option String) (asked : List Asker) (r : Relay) : IO UInt32 := do
  let r := settle (← tell) r
  save path r.store
  match r with
  | .ended _ (.ok ()) => return 0
  | .ended _ (.error failure) => complain failure
  | .ended _ (.broken breakdown) => collapse breakdown
  | _ =>
    let output ← IO.getStdout
    for (asker, request) in r.requests do
      unless asker ∈ asked do output.putStrLn (asker.requestLine request)
    output.flush
    let line ← (← IO.getStdin).getLine
    if line.isEmpty then run path [] r.interrupt
    else
      match Happening.ofLine? line with
      | some happening =>
        let waiting := r.requests.map Prod.fst
        let asked := match happening with
          | .replied asker _ => waiting.filter fun a => a.text ≠ asker
          | _ => waiting
        run path asked (r.after happening)
      | none => run path (r.requests.map Prod.fst) r

/-- Opens the store of a path. -/
def openStore (path : Option String) : IO Store := do
  match path with
  | none => return .empty
  | some path => return ((← readFile? path).bind Store.ofText?).getD .empty

/-- Runs a relay with some settings. -/
def launch (settings : Settings) : IO UInt32 := do
  let store ← openStore settings.observer.database
  let keyPath := KeyStore.path settings.bridge.home settings.bridge.signerName
  let there ← lookAt keyPath
  let key ← freshKey
  let salt := (← IO.getRandomBytes 16).toList
  let visit := KeyStore.visit keyPath there.isSome there key salt
  let begun ← tell
  match Relay.start settings store begun fun name passphrase => (visit name passphrase).1 with
  | .ended _ (.error failure) => complain failure
  | relay =>
    match there, (visit settings.bridge.signerName settings.bridge.signerPassword).2 with
    | none, some (.ok text) =>
      IO.FS.createDirAll (KeyStore.join settings.bridge.home "keys")
      (← IO.FS.Handle.mk keyPath .writeNew).putStr text
    | _, _ => pure ()
    run settings.observer.database [] relay

end ChainRelay.Command

open ChainRelay in
/-- Runs the command with some arguments. -/
def main (arguments : List String) : IO UInt32 := do
  match Invocation.parse arguments with
  | .refused =>
    (← IO.getStderr).putStrLn "usage: chain-relay [-c FILE]... [--log-json]"
    return 2
  | .help =>
    (← IO.getStdout).putStrLn "usage: chain-relay [-c FILE]... [--log-json]"
    return 0
  | .run files _ =>
    match Settings.load (← files.mapM Command.readSource) with
    | .ok settings => Command.launch settings
    | .error failure => Command.complain failure
