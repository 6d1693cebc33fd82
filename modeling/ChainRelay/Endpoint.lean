import ChainRelay.Failure
import ChainRelay.Http.Url
import ChainRelay.Text.Blank

/-!
# Endpoints

The address of a node as an operator writes it: `http://` may be left out, and so
may the slash at the end. Paths are appended to the result.
-/

namespace ChainRelay.Endpoint

/-- Whether a host is written with a scheme. -/
def hasScheme (host : String) : Bool :=
  "http://".toList.isPrefixOf host.toList || "https://".toList.isPrefixOf host.toList

/-- The host with a scheme. -/
def withScheme (host : String) : String :=
  if hasScheme host then host else "http://" ++ host

/-- The endpoint that a host stands for. -/
def normalize (host : String) : Outcome String :=
  let trimmed := Blank.trim host
  if trimmed = "" then .error (.of (.invalidEndpoint host "host is empty"))
  else
    let full := withScheme trimmed
    match Http.Url.parse full with
    | .error fault => .error (.of (.invalidEndpoint host fault.message))
    | .ok _ => .ok (Blank.trimSlashes full)

end ChainRelay.Endpoint
