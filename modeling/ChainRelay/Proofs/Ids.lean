import ChainRelay.Proofs.Crypto.LeastKey
import ChainRelay.Proofs.Parsed
import ChainRelay.Proofs.SignBytes
import ChainRelay.Proofs.Text.Hex
import ChainRelay.Proofs.Text.Numeral
import Mathlib.Data.List.Perm.Basic

/-!
# What the ids of reports tell

The id of a report is the hash of a text in which the parts of the report stand side by
side, with nothing between them. Where SHA-256 does not give two texts one hash, equal
ids tell equal texts (`TxId.ofDigest_hash_inj`); it remains to be seen what a text tells.

All public keys have texts of one length, which is more than the digits of any height. So
the length of the text of a keygen report tells how many members there are, and the text
can be cut into keys and a height again: an id tells the round, whatever the order of its
members (`KeygenReport.id_tells_round`).

Nothing in the text of a failed signing tells where its height, its note and its coins
end. Two failures have one id if their parts make one text, and then they are the same
only if they are cut at the same places (`KeysignFailure.id_tells_parts_cut_alike`).
Others need not be: digits at the end of a symbol may as well belong to the amount of the
next coin (`KeysignFailure.shared_id`).
-/

namespace ChainRelay

/-! ## Texts side by side -/

/-- Texts that tell what they are of, and are cut at the same places, tell it also side by
    side, and what follows them. -/
theorem flatMap_append_inj {α : Type} {text : α → List Char} (htext : Function.Injective text)
    {l l' : List α} {rest rest' : List Char}
    (hcuts : l.map (fun a => (text a).length) = l'.map fun a => (text a).length)
    (h : l.flatMap text ++ rest = l'.flatMap text ++ rest') : l = l' ∧ rest = rest' := by
  induction l generalizing l' with
  | nil =>
    obtain rfl : l' = [] := List.map_eq_nil_iff.1 hcuts.symm
    exact ⟨rfl, h⟩
  | cons a l ih =>
    cases l' with
    | nil => exact absurd hcuts (by simp)
    | cons a' l' =>
      rw [List.map_cons, List.map_cons, List.cons.injEq] at hcuts
      rw [List.flatMap_cons, List.flatMap_cons, List.append_assoc, List.append_assoc] at h
      obtain ⟨ha, hrest⟩ := List.append_inj h hcuts.1
      obtain ⟨rfl, rfl⟩ := ih hcuts.2 hrest
      exact ⟨by rw [htext ha], rfl⟩

/-- A text without some character tells itself and what follows that character. -/
theorem append_cons_inj {c : Char} {cs ds rest rest' : List Char} (hcs : c ∉ cs) (hds : c ∉ ds)
    (h : cs ++ c :: rest = ds ++ c :: rest') : cs = ds ∧ rest = rest' := by
  have hbefore {es more : List Char} (hes : c ∉ es) :
      (es ++ c :: more).takeWhile (· ≠ c) = es := by
    rw [List.takeWhile_append_of_pos fun e he => decide_eq_true (ne_of_mem_of_not_mem he hes)]
    simp
  obtain rfl : cs = ds := by rw [← hbefore hcs, h, hbefore hds]
  exact ⟨rfl, (List.cons.inj (List.append_cancel_left h)).2⟩

theorem Coin.text_injective : Function.Injective Coin.text := by
  rintro ⟨asset, amount⟩ ⟨asset', amount'⟩ h
  have hspace (n : UInt64) : ' ' ∉ (Numeral.ofWord n).toList := fun hmem =>
    absurd (Numeral.isDigit_of_mem_ofWord hmem) (by decide)
  have hchars := congrArg String.toList h
  simp only [text, String.toList_append, List.append_assoc] at hchars
  obtain ⟨hamount, hasset⟩ := append_cons_inj (hspace _) (hspace _) hchars
  rw [Numeral.ofWord_injective (String.toList_injective hamount),
    Asset.text_injective (String.toList_injective hasset)]

namespace PublicKey

/-- The characters of keys side by side. -/
def joined (keys : List PublicKey) : List Char := keys.flatMap fun k => k.text.toList

theorem length_joined (keys : List PublicKey) : (joined keys).length = 67 * keys.length := by
  induction keys with
  | nil => rfl
  | cons k keys ih =>
    rw [joined, List.flatMap_cons, List.length_append, k.length_text, ← joined, ih,
      List.length_cons]
    omega

/-- As many keys side by side tell the keys, and what follows them. -/
theorem joined_append_inj {keys keys' : List PublicKey} {rest rest' : List Char}
    (hlength : keys.length = keys'.length) (h : joined keys ++ rest = joined keys' ++ rest') :
    keys = keys' ∧ rest = rest' := by
  refine flatMap_append_inj (fun k k' hk => text_injective (String.toList_injective hk)) ?_ h
  simp only [length_text, List.map_const', hlength]

/-- The key on the other side of the axis from the least one. -/
def opposite : PublicKey :=
  ⟨⟨Secp256k1.generator.X, Secp256k1.field - Secp256k1.generator.Y, by decide⟩⟩

end PublicKey

/-! ## Hashes -/

/-- Two inputs do not share a hash, unless they are one. Not all pairs can be like this, but
    nobody has found one that is not. -/
def Sha256.TellsApart (input input' : Bytes) : Prop := hash input = hash input' → input = input'

/-- Ids of the hashes of inputs that are told apart tell the inputs. -/
theorem TxId.ofDigest_hash_inj {input input' : Bytes} (hfree : Sha256.TellsApart input input') :
    TxId.ofDigest (Sha256.hash input) = TxId.ofDigest (Sha256.hash input') ↔ input = input' := by
  constructor
  · intro h
    exact hfree (Hex.upper_injective (TxId.mk.inj h))
  · rintro rfl
    rfl

/-! ## Rounds of making a key -/

namespace KeygenReport

variable {members members' : List PublicKey} {poolKey poolKey' : PublicKey}
  {height height' : UInt64}

/-- The members in the order of their texts. -/
def inOrder (members : List PublicKey) : List PublicKey :=
  members.mergeSort fun k l => decide (k.text ≤ l.text)

/-- Members are put in one order exactly if they are the same, each as often. -/
theorem inOrder_eq_iff : inOrder members = inOrder members' ↔ members.Perm members' := by
  constructor
  · intro h
    have hperm : (inOrder members).Perm members' := h ▸ List.mergeSort_perm members' _
    exact (List.mergeSort_perm members _).symm.trans hperm
  · intro h
    have hordered (keys : List PublicKey) :
        (inOrder keys).Pairwise fun k l => decide (k.text ≤ l.text) = true := by
      refine List.pairwise_mergeSort (fun k l m hkl hlm => ?_) (fun k l => ?_) keys
      · exact decide_eq_true
          (String.le_trans (of_decide_eq_true hkl) (of_decide_eq_true hlm))
      · simpa using String.le_total k.text l.text
    have hperm : (inOrder members).Perm (inOrder members') :=
      ((List.mergeSort_perm members _).trans h).trans (List.mergeSort_perm members' _).symm
    refine hperm.eq_of_pairwise (fun k l _ _ hkl hlk => ?_) (hordered _) (hordered _)
    exact PublicKey.text_injective
      (String.le_antisymm (of_decide_eq_true hkl) (of_decide_eq_true hlk))

theorem toList_idText (members : List PublicKey) (poolKey : PublicKey) (height : UInt64) :
    (idText members poolKey height).toList
      = PublicKey.joined (inOrder members)
        ++ (PublicKey.joined [poolKey] ++ (Numeral.ofWord height).toList) := by
  have hsorted : (members.map PublicKey.text).mergeSort (fun s t => decide (s ≤ t))
      = (inOrder members).map PublicKey.text :=
    (List.map_mergeSort (f := PublicKey.text) fun _ _ _ _ => rfl).symm
  simp only [idText, hsorted, String.toList_append, String.toList_join, PublicKey.joined,
    List.flatMap_map, List.flatMap_singleton, List.append_assoc]

/-- The text tells the members, but for their order, the key and the height. -/
theorem idText_inj : idText members poolKey height = idText members' poolKey' height' ↔
    members.Perm members' ∧ poolKey = poolKey' ∧ height = height' := by
  rw [← String.toList_inj, toList_idText, toList_idText, ← inOrder_eq_iff]
  constructor
  · intro h
    -- A height has fewer digits than a key, so the lengths tell how many keys there are.
    have hcount : (inOrder members).length = (inOrder members').length := by
      have hlength := congrArg List.length h
      simp only [List.length_append, PublicKey.length_joined, List.length_singleton] at hlength
      have hdigits := Numeral.length_ofWord_le height
      have hdigits' := Numeral.length_ofWord_le height'
      omega
    obtain ⟨hmembers, hrest⟩ := PublicKey.joined_append_inj hcount h
    have hone : [poolKey].length = [poolKey'].length := rfl
    obtain ⟨hpool, hheight⟩ := PublicKey.joined_append_inj hone hrest
    exact ⟨hmembers, List.singleton_inj.1 hpool,
      Numeral.ofWord_injective (String.toList_injective hheight)⟩
  · rintro ⟨hmembers, rfl, rfl⟩
    rw [hmembers]

/-- What is hashed for the id of a round. -/
def idInput (members : List PublicKey) (poolKey : PublicKey) (height : UInt64) : Bytes :=
  Utf8.encode (idText members poolKey height)

/-- Two reports have one id exactly if they are about one round: the same members in
    whatever order, the same key and the same height. -/
theorem id_tells_round (kind kind' : KeygenKind) (blame blame' : Blame) (signer signer' : Address)
    (hfree : Sha256.TellsApart (idInput members poolKey height)
      (idInput members' poolKey' height')) :
    (report members poolKey kind height blame signer).id
        = (report members' poolKey' kind' height' blame' signer').id ↔
      members.Perm members' ∧ poolKey = poolKey' ∧ height = height' := by
  rw [← idText_inj]
  exact (TxId.ofDigest_hash_inj hfree).trans Utf8.encode_injective.eq_iff

theorem id_tells_round_of_swap :
    (report [.least, .opposite] .least .asgard 5 .none ⟨"thor1a"⟩).id
      = (report [.opposite, .least] .least .yggdrasil 5 ⟨"timeout", [.least]⟩ ⟨"thor1b"⟩).id :=
  have hround : [PublicKey.least, .opposite].Perm [.opposite, .least] ∧
      PublicKey.least = .least ∧ (5 : UInt64) = 5 := ⟨.swap _ _ _, rfl, rfl⟩
  (id_tells_round _ _ _ _ _ _ fun _ => congrArg Utf8.encode (idText_inj.2 hround)).2 hround

end KeygenReport

/-! ## Failed signings -/

namespace KeysignFailure

variable {height height' : UInt64} {blame blame' : Blame} {memo memo' : String}
  {coins coins' : List Coin}

theorem toList_idText (height : UInt64) (blame : Blame) (memo : String) (coins : List Coin) :
    (idText height blame memo coins).toList
      = (Numeral.ofWord height).toList ++ (memo.toList ++
        (coins.flatMap (fun c => c.text.toList) ++ PublicKey.joined blame.nodes)) := by
  simp only [idText, String.toList_append, String.toList_join, PublicKey.joined,
    List.flatMap_map, List.append_assoc]

/-- Where the text of a failure is cut into its parts: how long its height, its note and
    each of its coins are. -/
def cuts (height : UInt64) (memo : String) (coins : List Coin) : Nat × Nat × List Nat :=
  ((Numeral.ofWord height).toList.length, memo.toList.length,
    coins.map fun c => c.text.toList.length)

/-- Of failures with one text, those have the same parts that are cut at the same
    places. -/
theorem eq_iff_cuts_eq (h : idText height blame memo coins = idText height' blame' memo' coins') :
    (height = height' ∧ memo = memo' ∧ coins = coins' ∧ blame.nodes = blame'.nodes) ↔
      cuts height memo coins = cuts height' memo' coins' := by
  constructor
  · rintro ⟨rfl, rfl, rfl, -⟩
    rfl
  · intro hcuts
    obtain ⟨hdigits, hmemo, hcoins⟩ : _ ∧ _ ∧ _ := by
      simpa only [cuts, Prod.mk.injEq] using hcuts
    rw [← String.toList_inj, toList_idText, toList_idText] at h
    obtain ⟨hheight, h⟩ := List.append_inj h hdigits
    obtain ⟨hnote, h⟩ := List.append_inj h hmemo
    obtain ⟨rfl, hnodes⟩ := flatMap_append_inj
      (fun c c' hc => Coin.text_injective (String.toList_injective hc)) hcoins h
    -- What is left are keys, and their length tells how many.
    have hcount : blame.nodes.length = blame'.nodes.length := by
      have hlength := congrArg List.length hnodes
      rw [PublicKey.length_joined, PublicKey.length_joined] at hlength
      omega
    refine ⟨Numeral.ofWord_injective (String.toList_injective hheight),
      String.toList_injective hnote, rfl, ?_⟩
    exact (PublicKey.joined_append_inj hcount (congrArg (· ++ []) hnodes)).1

/-- What is hashed for the id of a failure. -/
def idInput (height : UInt64) (blame : Blame) (memo : String) (coins : List Coin) : Bytes :=
  Utf8.encode (idText height blame memo coins)

/-- Two reports have one id exactly if their parts make one text, and of these reports those
    have the same parts that are cut at the same places. -/
theorem id_tells_parts_cut_alike (signer signer' : Address)
    (hfree : Sha256.TellsApart (idInput height blame memo coins)
      (idInput height' blame' memo' coins')) :
    ((report height blame memo coins signer).id = (report height' blame' memo' coins' signer').id ↔
      idText height blame memo coins = idText height' blame' memo' coins') ∧
    ((report height blame memo coins signer).id = (report height' blame' memo' coins' signer').id →
      ((height = height' ∧ memo = memo' ∧ coins = coins' ∧ blame.nodes = blame'.nodes) ↔
        cuts height memo coins = cuts height' memo' coins')) := by
  have hid : (report height blame memo coins signer).id
        = (report height' blame' memo' coins' signer').id ↔
      idText height blame memo coins = idText height' blame' memo' coins' :=
    (TxId.ofDigest_hash_inj hfree).trans Utf8.encode_injective.eq_iff
  exact ⟨hid, fun h => eq_iff_cuts_eq (hid.1 h)⟩

/-- Five `TCAN-014` and twenty `BNB`. -/
def payment : List Coin := [⟨⟨.bnb, "TCAN-014"⟩, 5⟩, ⟨⟨.bnb, "BNB"⟩, 20⟩]

/-- Five `TCAN-01` and four hundred and twenty `BNB`, of which the first digit comes right
    after the symbol. -/
def shifted : List Coin := [⟨⟨.bnb, "TCAN-01"⟩, 5⟩, ⟨⟨.bnb, "BNB"⟩, 420⟩]

theorem idText_shifted : idText 5 .none "" payment = idText 5 .none "" shifted := by decide

theorem id_tells_parts_cut_alike_of_shifted :
    (report 5 .none "" payment ⟨"thor1a"⟩).id = (report 5 .none "" shifted ⟨"thor1b"⟩).id ∧
      ¬((5 : UInt64) = 5 ∧ "" = "" ∧ payment = shifted ∧ Blame.none.nodes = Blame.none.nodes) := by
  obtain ⟨hid, hparts⟩ := id_tells_parts_cut_alike ⟨"thor1a"⟩ ⟨"thor1b"⟩
    fun _ => congrArg Utf8.encode idText_shifted
  refine ⟨hid.2 idText_shifted, fun hsame => ?_⟩
  exact absurd ((hparts (hid.2 idText_shifted)).1 hsame) (by decide)

/-- Two payments of which the signing failed, and no id tells them apart, whatever the
    hash. -/
theorem shared_id :
    Sha256.TellsApart (idInput 5 .none "" payment) (idInput 5 .none "" shifted) ∧
      (report 5 .none "" payment ⟨"thor1a"⟩).id = (report 5 .none "" shifted ⟨"thor1a"⟩).id ∧
      payment ≠ shifted :=
  ⟨fun _ => congrArg Utf8.encode idText_shifted,
    congrArg (fun s => TxId.ofDigest (Sha256.hash (Utf8.encode s))) idText_shifted, by decide⟩

end KeysignFailure

end ChainRelay
