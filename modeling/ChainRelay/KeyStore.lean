import ChainRelay.Crypto.Ecdsa
import ChainRelay.Envelope
import ChainRelay.Failure
import ChainRelay.Json.Reader
import ChainRelay.Text.Base64

/-!
# Keys and their store

A signer holds a key of its own and signs transactions with it. Keys are stored
in one file each, which a passphrase opens: the file holds the secret itself, and
the hash of the passphrase behind a salt.
-/

namespace ChainRelay

/-- A named key with what is derived from it. -/
structure Signer where
  /-- The name of the key. -/
  name : String
  /-- The key. -/
  key : SigningKey

namespace Signer

/-- The public key. -/
def publicKey (s : Signer) : PublicKey := ⟨s.key.point⟩

/-- The address of the signer on THORChain. -/
def address (s : Signer) : Address := s.publicKey.labelled "thor"

/-- The signer as a message shows it, without its secret. -/
def text (s : Signer) : String :=
  "Keys \x7b name: " ++ Quoted.ofText s.name ++ ", address: Address(" ++ Quoted.ofText s.address.text
    ++ "), .. \x7d"

/-- Signs a transaction for an account on a chain. -/
def sign (s : Signer) (e : Envelope) (chainId : String) (account : Account) : Signature where
  key := ⟨"tendermint/PubKeySecp256k1", Base64.encode s.publicKey.bytes⟩
  value := Base64.encode (Ecdsa.sign s.key (e.signBytes chainId account))
  account := account

end Signer

/-- What the file of a key holds. -/
structure KeyFile where
  /-- The name of the key. -/
  name : String
  /-- The secret in hexadecimal digits. -/
  secret : String
  /-- The salt in hexadecimal digits. -/
  salt : String
  /-- The hash of the passphrase in hexadecimal digits. -/
  passphraseHash : String
deriving DecidableEq, Repr

namespace KeyFile

/-- The hash of a passphrase behind a salt. -/
def hashOf (salt : Bytes) (passphrase : String) : String :=
  Hex.lower (Sha256.hash (salt ++ Utf8.encode passphrase))

/-- The fields of a file. -/
def fields : Fields [String, String, String, String] :=
  .cons (.required "name" .text) <| .cons (.required "secret_key" .text) <|
    .cons (.required "salt" .text) <| .cons (.required "passphrase_hash" .text) .nil

/-- Files as objects. -/
def codec : Codec KeyFile :=
  .record fields
    (fun (name, secret, salt, passphraseHash, ()) => ⟨name, secret, salt, passphraseHash⟩)
    (fun f => (f.name, f.secret, f.salt, f.passphraseHash, ()))

/-- The file of a new key. -/
def create (name : String) (key : SigningKey) (salt : Bytes) (passphrase : String) : KeyFile where
  name := name
  secret := Hex.lower key.bytes
  salt := Hex.lower salt
  passphraseHash := hashOf salt passphrase

/-- The text of a file. -/
def render (f : KeyFile) : String :=
  Json.renderLines (fields.encode (f.name, f.secret, f.salt, f.passphraseHash, ()))

/-- Bytes from hexadecimal digits. -/
def bytesOf (digits : String) : Outcome Bytes :=
  (Hex.decode digits).mapError fun fault => .of (.hex fault)

/-- Opens a file for the key of some name with a passphrase. -/
def unlock (f : KeyFile) (name passphrase : String) : Outcome Signer := do
  let salt ← bytesOf f.salt
  if hashOf salt passphrase ≠ f.passphraseHash then
    .error (.message ("invalid passphrase for key " ++ name))
  else do
    let secret ← bytesOf f.secret
    match SigningKey.ofBytes? secret with
    | some key => return ⟨name, key⟩
    | none => .error (.message ("invalid secret key for " ++ name))

/-- Opens the text of the file at `path` for the key of some name. -/
def ofText (path text name passphrase : String) : Outcome Signer := do
  let f ← (codec.ofBytes (Utf8.encode text) Doc.read).mapError fun e =>
    (Failure.ofDecode e).within ("malformed key file " ++ path)
  f.unlock name passphrase

end KeyFile

namespace KeyStore

/-- A path below another; one that begins with a slash stands for itself. -/
def join (base path : String) : String :=
  if path.startsWith "/" then path
  else if base = "" ∨ base.endsWith "/" then base ++ path
  else base ++ "/" ++ path

/-- Opens the key with a name, given what is at the path of its file. If there is
    nothing, a fresh key is made, and the text of its new file comes with it; a file
    that is there is never replaced. -/
def openOrCreate (path : String) (existing : Option String) (fresh : SigningKey) (salt : Bytes)
    (name passphrase : String) : Outcome (Signer × Option String) :=
  match existing with
  | some text => (KeyFile.ofText path text name passphrase).map (·, none)
  | none => .ok (⟨name, fresh⟩, some (KeyFile.create name fresh salt passphrase).render)

/-- What is at the path of a file: a text, or something that cannot be read as one, and
    why. -/
abbrev Entry := Except String String

/-- Opens the key with a name, and tells what is at the path of its file in the end.
    `isSeen` tells whether something was seen there at first, and `there` what is there by
    now, which need not fit. What was seen is read; otherwise a file is made, which must be
    a new one. -/
def visit (path : String) (isSeen : Bool) (there : Option Entry) (fresh : SigningKey) (salt : Bytes)
    (name passphrase : String) : Outcome Signer × Option Entry :=
  let refuse (task kind : String) : Outcome Signer :=
    .error ((Failure.of (.file kind)).within (task ++ path))
  let opened (existing : Option String) : Outcome Signer × Option Entry :=
    match openOrCreate path existing fresh salt name passphrase with
    | .ok (signer, written) => (.ok signer, (written.map .ok).or there)
    | .error failure => (.error failure, there)
  match isSeen, there with
  | true, none => (refuse "unable to read " "NotFound", none)
  | true, some (.error kind) => (refuse "unable to read " kind, there)
  | true, some (.ok text) => opened (some text)
  | false, some _ => (refuse "unable to create " "AlreadyExists", there)
  | false, none => opened none

/-- The file of the key with a name. -/
def path (home name : String) : String := join (join home "keys") (name ++ ".json")

end KeyStore

end ChainRelay
