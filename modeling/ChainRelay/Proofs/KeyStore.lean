import ChainRelay.Proofs.Crypto.Multiples
import ChainRelay.Proofs.Ids
import ChainRelay.Proofs.Json.Lines
import ChainRelay.Proofs.Json.Restoring

/-!
# What opens a stored key

The text of a key file is an object over several lines, with the secret and the salt in
hexadecimal digits. Each of these is read as it was written: the object
(`KeyFile.ofBytes_render`), the digits (`KeyFile.bytesOf_lower`) and the bytes of the secret
(`SigningKey.ofBytes?_bytes`), whatever they are. What is left is the comparison of hashes
behind the salt, so the file of a new key opens for its own passphrase and for no other one
(`KeyFile.ofText_render_create`). That holds of two passphrases as long as SHA-256 tells
them apart.

Where a file is found, nothing is written (`KeyStore.visit_keeps`). A file that is new opens
exactly with its passphrase, for every secret that there may be (`KeyStore.opens_exactly`).
-/

namespace ChainRelay

/-- A key is read from its bytes, also where the first of them are zero. -/
theorem SigningKey.ofBytes?_bytes (key : SigningKey) : ofBytes? key.bytes = some key := by
  obtain ⟨secret, inRange, point, isPublic⟩ := key
  have hlt : secret < 256 ^ 32 := inRange.2.trans (by decide)
  rw [ofBytes?, bytes, Secp256k1.Point.length_bigEndian, if_pos (by decide),
    Secp256k1.Point.number_bigEndian, Nat.mod_eq_of_lt hlt, ofSecret?, dif_pos inRange]
  split
  · next point' h =>
    obtain rfl : point = point' := Option.some.inj (isPublic.symm.trans h)
    rfl
  · next h => cases isPublic.symm.trans h

namespace KeyFile

/-! ## The text of a file -/

theorem codec_admits : codec.Admits 1 Codec.Every :=
  .record
    (.cons (.required .text) <| .cons (.required .text) <| .cons (.required .text) <|
      .cons (.required .text) .nil)
    (by decide) (by decide) (fun _ _ => trivial)
    fun _ _ => ⟨⟨trivial, trivial, trivial, trivial, trivial⟩, rfl⟩

/-- A file is read from its text as it was. -/
theorem ofBytes_render (f : KeyFile) : codec.ofBytes (Utf8.encode f.render) Doc.read = .ok f := by
  have hread : Doc.read (Utf8.encode f.render) = (Doc.ofJson (codec.encode f), true) :=
    Doc.read_renderLines ⟨trivial, trivial, trivial, trivial, trivial⟩
  rw [Codec.ofBytes, hread]
  simp only [codec_admits.restores (r := .ofText) rfl (by decide) (show Codec.Every f from trivial)]
  rfl

/-! ## Opening a file -/

variable {salt : Bytes} {p q : String}

/-- The hash behind a salt tells the passphrase, if it is told from others. -/
theorem hashOf_eq_iff (hfree : Sha256.TellsApart (salt ++ Utf8.encode p) (salt ++ Utf8.encode q)) :
    hashOf salt q = hashOf salt p ↔ p = q := by
  constructor
  · intro h
    have hinput := hfree (Hex.lower_injective h).symm
    exact Utf8.encode_injective (List.append_cancel_left hinput)
  · rintro rfl
    rfl

theorem bytesOf_lower (bytes : Bytes) : bytesOf (Hex.lower bytes) = .ok bytes := by
  rw [bytesOf, Hex.decode_lower]
  rfl

/-- The file of a new key opens for the passphrase that it was made with. -/
theorem unlock_create (name name' : String) (key : SigningKey) (salt : Bytes) (p q : String) :
    (create name key salt p).unlock name' q =
      if hashOf salt q = hashOf salt p then .ok ⟨name', key⟩
      else .error (.message ("invalid passphrase for key " ++ name')) := by
  simp only [unlock, create, bytesOf_lower, bind, Except.bind, key.ofBytes?_bytes]
  by_cases h : hashOf salt q = hashOf salt p
  · rw [if_neg (not_not.2 h), if_pos h]
    rfl
  · rw [if_pos h, if_neg h]

/-- So does its text. -/
theorem ofText_render_create (path name name' : String) (key : SigningKey)
    (hfree : Sha256.TellsApart (salt ++ Utf8.encode p) (salt ++ Utf8.encode q)) :
    ofText path (create name key salt p).render name' q =
      if p = q then .ok ⟨name', key⟩
      else .error (.message ("invalid passphrase for key " ++ name')) := by
  rw [ofText, ofBytes_render]
  simp only [Except.mapError, bind, Except.bind, unlock_create, hashOf_eq_iff hfree]

end KeyFile

namespace KeyStore

variable {path : String} {fresh : SigningKey} {salt : Bytes} {name passphrase : String}

/-- A file is made where there is none, and then it is the file of the new key. -/
theorem visit_new (path : String) (fresh : SigningKey) (salt : Bytes) (name passphrase : String) :
    visit path false none fresh salt name passphrase =
      (.ok ⟨name, fresh⟩, some (.ok (KeyFile.create name fresh salt passphrase).render)) := rfl

/-- A file that was seen and is there is opened. -/
theorem visit_text (path text : String) (fresh : SigningKey) (salt : Bytes)
    (name passphrase : String) :
    visit path true (some (.ok text)) fresh salt name passphrase =
      (KeyFile.ofText path text name passphrase, some (.ok text)) := by
  cases h : KeyFile.ofText path text name passphrase with
  | ok signer => simp [visit, openOrCreate, h, Except.map]
  | error failure => simp [visit, openOrCreate, h, Except.map]

/-- Whatever was seen at first, what is there by now stays. -/
theorem visit_keeps (isSeen : Bool) (entry : Entry) :
    (visit path isSeen (some entry) fresh salt name passphrase).2 = some entry := by
  cases isSeen with
  | false => rfl
  | true =>
    cases entry with
    | error kind => rfl
    | ok text => rw [visit_text]

/-- What was seen at first is left as it is, also if it is gone by now. -/
theorem visit_seen (there : Option Entry) :
    (visit path true there fresh salt name passphrase).2 = there := by
  cases there with
  | none => rfl
  | some entry => exact visit_keeps true entry

/-- A key store opens exactly with its passphrase, and no file of it is ever replaced.
    Every secret in range has a key, and the file that is made for it under a passphrase
    gives that key back for the same passphrase; for any other one it is refused. Whether a
    file can be read or not, a visit leaves it as it was found. -/
theorem opens_exactly (path : String) :
    (∀ (name p q : String) (secret : Nat) (salt : Bytes),
      0 < secret ∧ secret < Secp256k1.order →
      Sha256.TellsApart (salt ++ Utf8.encode p) (salt ++ Utf8.encode q) →
      ∃ key text, SigningKey.ofSecret? secret = some key ∧ key.secret = secret ∧
        visit path false none key salt name p = (.ok ⟨name, key⟩, some (.ok text)) ∧
        ∀ fresh salt', visit path true (some (.ok text)) fresh salt' name q =
          (if p = q then .ok ⟨name, key⟩
            else .error (.message ("invalid passphrase for key " ++ name)), some (.ok text))) ∧
    (∀ isSeen entry fresh salt name passphrase,
      (visit path isSeen (some entry) fresh salt name passphrase).2 = some entry) ∧
    (∀ there fresh salt name passphrase,
      (visit path true there fresh salt name passphrase).2 = there) := by
  refine ⟨fun name p q secret salt hsecret hfree => ?_, fun isSeen entry _ _ _ _ =>
    visit_keeps isSeen entry, fun there _ _ _ _ => visit_seen there⟩
  obtain ⟨key, hkey, rfl⟩ := SigningKey.exists_ofSecret? hsecret
  refine ⟨key, _, hkey, rfl, visit_new path key salt name p, fun fresh salt' => ?_⟩
  rw [visit_text, KeyFile.ofText_render_create path name name key hfree]

/-- The secret with the most zeros before it, under one passphrase and under another. -/
theorem opens_exactly_for_password :
    ∃ key text, SigningKey.ofSecret? 1 = some key ∧ key.secret = 1 ∧
      visit "keys/bob.json" false none key (List.replicate 16 0) "bob" "password" =
        (.ok ⟨"bob", key⟩, some (.ok text)) ∧
      ∀ fresh salt',
        visit "keys/bob.json" true (some (.ok text)) fresh salt' "bob" "hunter2" =
          (.error (.message "invalid passphrase for key bob"), some (.ok text)) := by
  have hfree : Sha256.TellsApart (List.replicate 16 0 ++ Utf8.encode "password")
      (List.replicate 16 0 ++ Utf8.encode "hunter2") := fun h => absurd h (by decide +kernel)
  exact (opens_exactly "keys/bob.json").1 "bob" "password" "hunter2" 1 (List.replicate 16 0)
    (by decide) hfree

end KeyStore

end ChainRelay
