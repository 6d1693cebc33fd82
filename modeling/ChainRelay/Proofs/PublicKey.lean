import ChainRelay.Proofs.Crypto.Encodings
import ChainRelay.Proofs.Crypto.LeastKey
import ChainRelay.Proofs.Parsed
import ChainRelay.Proofs.SignBytes
import ChainRelay.Proofs.Text.Carrying

/-!
# One form of each key

A key may be given in several encodings of its point, and as any text that carries one of
these under the label of keys. Whatever it is given as, it is read as the key with that
point (`PublicKey.Given.read_eq_ok_iff`), which has one form of thirty-three bytes, one
text, and one address on each chain. Both of its forms are read as the key again, and
nothing under another label is, such as an address (`PublicKey.one_form`).
-/

namespace ChainRelay.PublicKey

open Secp256k1 (Point)

/-- What a key may be given as. -/
inductive Given
  /-- Bytes. -/
  | encoded (bytes : Bytes)
  /-- A text. -/
  | written (s : String)

namespace Given

/-- The key that is read. -/
def read : Given → Except Fault PublicKey
  | encoded bytes => ofBytes bytes
  | written s => parse s

/-- Which point is meant. -/
inductive Denotes : Given → Point → Prop
  /-- Bytes encode it. -/
  | encoded {bytes : Bytes} {p : Point} : Point.Encodes bytes p → Denotes (encoded bytes) p
  /-- A text carries bytes that encode it. -/
  | written {s : String} {bytes : Bytes} {p : Point} :
      Bech32.Carries s label bytes → Point.Encodes bytes p → Denotes (written s) p

end Given

theorem ofBytes_eq_ok_iff {bytes : Bytes} {k : PublicKey} :
    ofBytes bytes = .ok k ↔ Point.Encodes bytes k.point := by
  rw [← Point.ofBytes?_eq_some_iff, ofBytes]
  obtain ⟨p⟩ := k
  cases Point.ofBytes? bytes <;> simp

theorem parse_eq_ok_iff {s : String} {k : PublicKey} :
    parse s = .ok k ↔ ∃ bytes, Bech32.Carries s label bytes ∧ Point.Encodes bytes k.point := by
  simp only [← Bech32.decode_eq_ok_iff, ← ofBytes_eq_ok_iff]
  rw [parse]
  cases Bech32.decode s with
  | error fault => simp
  | ok found =>
    obtain ⟨found, bytes⟩ := found
    by_cases h : found = label
    · simp [h]
    · simp [h]

/-- What is given is read as the key with the point that is meant. -/
theorem Given.read_eq_ok_iff {g : Given} {k : PublicKey} : g.read = .ok k ↔ g.Denotes k.point := by
  cases g with
  | encoded bytes =>
    refine ofBytes_eq_ok_iff.trans ⟨Denotes.encoded, fun h => ?_⟩
    cases h with
    | encoded h => exact h
  | written s =>
    refine parse_eq_ok_iff.trans ⟨fun ⟨_, hs, hp⟩ => Denotes.written hs hp, fun h => ?_⟩
    cases h with
    | written hs hp => exact ⟨_, hs, hp⟩

/-- Only texts under the label of keys are read as keys. -/
theorem exists_of_parse {s : String} {k : PublicKey} (h : parse s = .ok k) :
    ∃ digits, s.toList = label.toList ++ '1' :: digits ∧ '1' ∉ digits := by
  obtain ⟨bytes, hs, -⟩ := parse_eq_ok_iff.1 h
  exact Bech32.label_of_decode (Bech32.decode_eq_ok_iff.2 hs)

/-- No address is read as a key. -/
theorem parse_address_ne_ok {k k' : PublicKey} {chain : Chain} {address : Address}
    (h : k.address? chain = some address) : parse address.text ≠ .ok k' := by
  intro hparse
  obtain ⟨digits, htext, -⟩ := exists_of_parse hparse
  -- The labels of addresses part from that of keys at the fifth character at the latest.
  have hlabel : (address.text.toList.take 5) = "thorp".toList := by
    rw [htext]
    rfl
  cases chain with
  | bnb | thor | eth =>
    cases h
    simp [labelled, hexAddress, Bech32.encode] at hlabel
  | btc => cases h

/-- Whatever a key is given as, it is read as the one with the point that is meant. That
    has thirty-three bytes and a text, both of which are read as the key again. If the
    same point is meant twice, key, text and addresses are the same; texts of different
    keys are different. No text is read as a key but those under the label of keys, so no
    address is. -/
theorem one_form :
    (∀ (g : Given) (k : PublicKey), g.read = .ok k ↔ g.Denotes k.point) ∧
      (∀ k : PublicKey, k.bytes.length = 33 ∧ ofBytes k.bytes = .ok k ∧ parse k.text = .ok k) ∧
      (∀ (g g' : Given) (k k' : PublicKey) (p : Point), g.read = .ok k → g'.read = .ok k' →
        g.Denotes p → g'.Denotes p →
          k = k' ∧ k.text = k'.text ∧ ∀ chain, k.address? chain = k'.address? chain) ∧
      (∀ k k' : PublicKey, k ≠ k' → k.text ≠ k'.text) ∧
      (∀ (s : String) (found digits : List Char), s.toList = found ++ '1' :: digits →
        '1' ∉ digits → found ≠ label.toList → ∀ k, parse s ≠ .ok k) ∧
      (∀ s : String, '1' ∉ s.toList → ∀ k, parse s ≠ .ok k) ∧
      ∀ (k k' : PublicKey) (chain : Chain) (address : Address),
        k.address? chain = some address → parse address.text ≠ .ok k' := by
  refine ⟨fun _ _ => Given.read_eq_ok_iff, fun k => ⟨k.length_bytes, k.ofBytes_bytes, k.parse_text⟩,
    fun g g' k k' p hk hk' hp hp' => ?_, fun _ _ hne h => hne (text_injective h),
    fun s found digits htext hdigits hfound k hparse => ?_, fun s hs k hparse => ?_,
    fun _ _ _ _ => parse_address_ne_ok⟩
  · have hmeant : g.read = .ok ⟨p⟩ := Given.read_eq_ok_iff.2 hp
    have hmeant' : g'.read = .ok ⟨p⟩ := Given.read_eq_ok_iff.2 hp'
    cases hk.symm.trans hmeant
    cases hk'.symm.trans hmeant'
    exact ⟨rfl, rfl, fun _ => rfl⟩
  · obtain ⟨digits', htext', hdigits'⟩ := exists_of_parse hparse
    -- The last mark is at one place only.
    have hsplit := Bech32.split?_eq_some_iff.2 ⟨htext, hdigits⟩
    rw [Bech32.split?_eq_some_iff.2 ⟨htext', hdigits'⟩] at hsplit
    cases hsplit
    exact hfound rfl
  · obtain ⟨digits, htext, -⟩ := exists_of_parse hparse
    exact hs (htext ▸ by simp)

/-- The base point is read with both coordinates, or with the first one only. -/
theorem one_form_of_base :
    (Given.encoded (4 :: Secp256k1.base.coordinates)).read = .ok ⟨Secp256k1.base⟩ ∧
      (Given.encoded (5 :: Sha256.bigEndian 32 Secp256k1.base.x)).read = .ok ⟨Secp256k1.base⟩ :=
  ⟨(one_form.1 _ ⟨Secp256k1.base⟩).2 (.encoded (.uncompressed _)),
    (one_form.1 _ ⟨Secp256k1.base⟩).2 (.encoded (.compact _ (by decide)))⟩

end ChainRelay.PublicKey
