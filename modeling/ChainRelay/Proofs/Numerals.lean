import ChainRelay.Proofs.Block.Ethereum
import ChainRelay.Proofs.Block.Tendermint
import ChainRelay.Proofs.Bridge.Agreement
import ChainRelay.Proofs.Crypto.LeastKey
import ChainRelay.Proofs.Json.Members
import ChainRelay.Proofs.Text.Digits

/-!
# Numbers in texts are read exactly

Nodes write many numbers as texts: amounts and the numbers of an account, the heights of
blocks, and quantities of Ethereum. Wherever one is read, the result is the number that the
text is written of, or the failure for what is wrong with the text, and never another number
(`Numeral.Exactly`). All readers come down to one, which is why it is enough that this one
goes exactly by the digits (`Numeral.exactly_of_eq`).

A sign with nothing behind it is no number, and the fault is not that there is nothing to be
read (`Numeral.sign_is_no_digit`).
-/

namespace ChainRelay

namespace Numeral

/-! ## Exact readers -/

variable {ε α : Type} {radix : Nat} {cs : List Char} {failure : Fault → ε}
  {result : Except ε UInt64}

/-- What is read of a text in some radix: the number of sixty-four bits that it is written
    of, or the failure for its fault. -/
structure Exactly (radix : Nat) (cs : List Char) (failure : Fault → ε)
    (result : Except ε UInt64) : Prop where
  /-- A number is read exactly from its texts. -/
  ok_iff (n : UInt64) : result = .ok n ↔ Writes radix cs n.toNat
  /-- All else fails by its fault. -/
  error_iff (e : ε) :
    result = .error e ↔ ∃ fault, Fails radix (Nat.pow 2 64) cs fault ∧ e = failure fault

/-- A reader is exact if it only words the faults of reading a numeral. -/
theorem exactly_of_eq (hradix : radix ≤ 16) {s : String}
    (h : result = (read64 radix s).mapError failure) :
    Exactly radix s.toList failure result := by
  subst h
  refine ⟨fun n => mapError_eq_ok_iff.trans (read64_eq_ok_iff hradix), fun e => ?_⟩
  simp only [← read64_eq_error_iff hradix]
  cases read64 radix s with
  | ok n => exact ⟨nofun, nofun⟩
  | error fault => simp [Except.mapError, eq_comm]

theorem Exactly.bind_eq_ok_iff (h : Exactly radix cs failure result) {f : UInt64 → Except ε α}
    {x : α} : result >>= f = .ok x ↔ ∃ n : UInt64, Writes radix cs n.toNat ∧ f n = .ok x := by
  simp only [ChainRelay.bind_eq_ok_iff, h.ok_iff]

theorem Exactly.bind_eq_error_iff (h : Exactly radix cs failure result) {f : UInt64 → Except ε α}
    {e : ε} : result >>= f = .error e ↔
      (∃ fault, Fails radix (Nat.pow 2 64) cs fault ∧ e = failure fault) ∨
        ∃ n : UInt64, Writes radix cs n.toNat ∧ f n = .error e := by
  simp only [ChainRelay.bind_eq_error_iff, h.ok_iff, h.error_iff]

theorem exactly_readDecimal (s : String) : Exactly 10 s.toList id (readDecimal s) := by
  refine exactly_of_eq (by decide) ?_
  rw [readDecimal]
  cases read64 10 s <;> rfl

end Numeral

open Numeral (Exactly Writes Fails)

/-! ## Numbers in JSON -/

namespace Codec

/-- The failure to read a number that is kept as a text. -/
def noDecimal (s : String) (fault : Numeral.Fault) : DecodeError :=
  .misfit (.refused ("invalid number " ++ Quoted.ofText s ++ ": " ++ fault.message))

theorem exactly_decimal (r : Reading) (s : String) :
    Exactly 10 s.toList (noDecimal s) (decimal.decode r (.text (.whole s))) := by
  refine Numeral.exactly_of_eq (by decide) ?_
  simp only [decimal, written, text, Quote.read, liftFault, bind, Except.bind,
    Numeral.readDecimal]
  cases Numeral.read64 10 s <;> rfl

end Codec

/-! ## Heights -/

namespace Tendermint

variable {body : Bytes} {answer : Answer}

/-- The failure to read the height of the newest block. -/
def noHead (raw : String) (fault : Numeral.Fault) : Failure :=
  .of (.headNoNumber raw fault.message)

/-- The failure to read the height of a block. -/
def noHeight (raw : String) (fault : Numeral.Fault) : Failure :=
  (Failure.of (.numeral fault)).within ("fail to parse block height " ++ Quoted.ofText raw)

theorem exactly_readHead (h : Answer.codec.ofAnswer body = .ok answer) :
    Exactly 10 answer.height.toList (noHead answer.height) (readHead body) := by
  refine Numeral.exactly_of_eq (by decide) ?_
  rw [readHead, h]
  simp only [Except.mapError, bind, Except.bind, Numeral.readDecimal]
  cases Numeral.read64 10 answer.height <;> rfl

/-- A block is read with the height that its answer is written of, and its transactions are
    read if there is one. -/
structure ReadsBlock (answer : Answer) (result : Outcome Block) : Prop where
  /-- The height and the transactions are those of the answer. -/
  ok_iff (block : Block) : result = .ok block ↔
    Writes 10 answer.height.toList block.height.toNat ∧
      readTransactions block.height (answer.transactions.getD []) = .ok block.transactions
  /-- It fails by the height, or else by a transaction. -/
  error_iff (e : Failure) : result = .error e ↔
    (∃ fault, Fails 10 (Nat.pow 2 64) answer.height.toList fault ∧
      e = noHeight answer.height fault) ∨
    ∃ height : UInt64, Writes 10 answer.height.toList height.toNat ∧
      readTransactions height (answer.transactions.getD []) = .error e

theorem readsBlock (h : Answer.codec.ofAnswer body = .ok answer) :
    ReadsBlock answer (readBlock body) := by
  have hexactly : Exactly 10 answer.height.toList (noHeight answer.height)
      ((Numeral.read64 10 answer.height).mapError (noHeight answer.height)) :=
    Numeral.exactly_of_eq (by decide) rfl
  have hread : readBlock body
      = (Numeral.read64 10 answer.height).mapError (noHeight answer.height) >>= fun height =>
        (readTransactions height (answer.transactions.getD [])).map fun txs => ⟨height, txs⟩ := by
    cases hheight : Numeral.read64 10 answer.height with
    | error fault =>
      rw [readBlock, h]
      simp only [Except.mapError, bind, Except.bind, Numeral.readDecimal, hheight]
      rfl
    | ok height => exact readBlock_of_answer h hheight
  rw [hread]
  refine ⟨fun block => ?_, fun e => ?_⟩
  · simp only [hexactly.bind_eq_ok_iff, map_eq_ok_iff]
    constructor
    · rintro ⟨height, hheight, txs, htxs, rfl⟩
      exact ⟨hheight, htxs⟩
    · rintro ⟨hheight, htxs⟩
      exact ⟨_, hheight, _, htxs, rfl⟩
  · simp only [hexactly.bind_eq_error_iff, map_eq_error_iff]

end Tendermint

namespace Ethereum

variable {s : String}

theorem exactly_readQuantity {digits : List Char} (h : s.toList = '0' :: 'x' :: digits) :
    Exactly 16 digits Cause.numeral (readQuantity s) := by
  have hread : readQuantity s
      = (Numeral.read64 16 (String.ofList digits)).mapError Cause.numeral := by
    rw [readQuantity, h, Numeral.read64, String.toList_ofList]
    simp only
    cases Numeral.read 16 (Nat.pow 2 64) digits <;> rfl
  have hexactly := Numeral.exactly_of_eq (by decide) hread
  rwa [String.toList_ofList] at hexactly

theorem readQuantity_of_ne (h : ∀ digits, s.toList ≠ '0' :: 'x' :: digits) :
    readQuantity s = .error (.message (Quoted.ofText s ++ " is not a hex quantity")) := by
  rw [readQuantity]
  split
  · next digits hs => exact absurd hs (h digits)
  · rfl

theorem readQuantity_eq_ok_iff {n : UInt64} : readQuantity s = .ok n ↔
    ∃ digits, s.toList = '0' :: 'x' :: digits ∧ Writes 16 digits n.toNat := by
  by_cases hs : ∃ digits, s.toList = '0' :: 'x' :: digits
  · obtain ⟨digits, hs⟩ := hs
    rw [(exactly_readQuantity hs).ok_iff]
    simp [hs]
  · rw [readQuantity_of_ne (not_exists.1 hs)]
    exact ⟨nofun, fun ⟨digits, h, _⟩ => absurd ⟨digits, h⟩ hs⟩

end Ethereum

/-! ## Accounts -/

namespace Bridge

variable {σ : Type} {b : Bridge} {serve : Http.Request → σ → Http.Reply × σ} {now : Scene σ}
  {body : Bytes} {answer : AccountAnswer}

/-- The failure to read a number of an account. -/
def noNumber (name raw : String) (fault : Numeral.Fault) : Failure :=
  .message ("failed to parse " ++ name ++ " number (" ++ raw ++ "): " ++ fault.message)

/-- An account is read with the numbers that its answer is written of. -/
structure ReadsAccount (answer : AccountAnswer) (result : Ending Account) : Prop where
  /-- Both numbers are those of the answer. -/
  ok_iff (account : Account) : result = .ok account ↔
    Writes 10 answer.number.toList account.number.toNat ∧
      Writes 10 answer.sequence.toList account.sequence.toNat
  /-- It fails by the number of the account, or else by the sequence number. -/
  error_iff (e : Failure) : result = .error e ↔
    (∃ fault, Fails 10 (Nat.pow 2 64) answer.number.toList fault ∧
      e = noNumber "account" answer.number fault) ∨
    (∃ number : UInt64, Writes 10 answer.number.toList number.toNat) ∧
      ∃ fault, Fails 10 (Nat.pow 2 64) answer.sequence.toList fault ∧
        e = noNumber "sequence" answer.sequence fault
  /-- There is no other end. -/
  unbroken (why : Breakdown) : result ≠ .broken why

theorem play_readNumber (serve : Http.Request → σ → Http.Reply × σ) (trouble : BridgeTrouble)
    (name raw : String) (now : Scene σ) :
    ((readNumber trouble name raw).play serve now).1
      = .ofOutcome ((Numeral.read64 10 raw).mapError (noNumber name raw)) := by
  rw [readNumber, Numeral.readDecimal]
  cases Numeral.read64 10 raw <;> rfl

theorem play_account (hask : ((b.ask b.accountPath).play serve now).1 = .ok body)
    (hanswer : AccountAnswer.codec.ofAnswer body = .ok answer) :
    (b.account.play serve now).1
      = .ofOutcome ((Numeral.read64 10 answer.number).mapError (noNumber "account" answer.number)
        >>= fun number =>
          ((Numeral.read64 10 answer.sequence).mapError (noNumber "sequence" answer.sequence)).map
            fun sequence => ⟨number, sequence⟩) := by
  change ((b.ask ("/auth/accounts/" ++ b.signer.address.text)).play serve now).1 = _ at hask
  rcases hplay : (b.ask ("/auth/accounts/" ++ b.signer.address.text)).play serve now with
    ⟨outcome, next⟩
  rw [hplay] at hask
  obtain rfl : outcome = .ok body := hask
  have hbody : ((b.ask ("/auth/accounts/" ++ b.signer.address.text)).within
      "failed to get auth accounts").play serve now = (.ok body, next) := by
    rw [Call.play_within, hplay]
    rfl
  have hread : (readAnswer AccountAnswer.codec .accountUnreadable body).play serve next
      = (.ok answer, next) := by
    rw [readAnswer, hanswer]
    rfl
  rw [account, Call.play_bind, hbody]
  simp only
  rw [Call.play_bind, hread]
  simp only
  -- One number after the other: the second one is read only if the first one is.
  have hnumber := play_readNumber serve .accountNumber "account" answer.number next
  rw [Call.play_bind]
  generalize (readNumber .accountNumber "account" answer.number).play serve next = played
    at hnumber ⊢
  obtain ⟨_, next'⟩ := played
  subst hnumber
  cases (Numeral.read64 10 answer.number).mapError (noNumber "account" answer.number) with
  | error e => rfl
  | ok number =>
    have hsequence :=
      play_readNumber serve .sequenceNumber "sequence" answer.sequence next'
    simp only [Ending.ofOutcome]
    rw [Call.play_bind]
    generalize (readNumber .sequenceNumber "sequence" answer.sequence).play serve next' = played
      at hsequence ⊢
    obtain ⟨_, next''⟩ := played
    subst hsequence
    cases (Numeral.read64 10 answer.sequence).mapError (noNumber "sequence" answer.sequence) with
    | error e => rfl
    | ok sequence => rfl

theorem readsAccount (hask : ((b.ask b.accountPath).play serve now).1 = .ok body)
    (hanswer : AccountAnswer.codec.ofAnswer body = .ok answer) :
    ReadsAccount answer (b.account.play serve now).1 := by
  have hexactly (name raw : String) : Exactly 10 raw.toList (noNumber name raw)
      ((Numeral.read64 10 raw).mapError (noNumber name raw)) :=
    Numeral.exactly_of_eq (by decide) rfl
  rw [play_account hask hanswer]
  refine ⟨fun account => ?_, fun e => ?_, fun why => Ending.ofOutcome_ne_broken⟩
  · simp only [Ending.ofOutcome_eq_ok_iff, (hexactly _ _).bind_eq_ok_iff, map_eq_ok_iff,
      (hexactly _ _).ok_iff]
    constructor
    · rintro ⟨number, hnumber, sequence, hsequence, rfl⟩
      exact ⟨hnumber, hsequence⟩
    · rintro ⟨hnumber, hsequence⟩
      exact ⟨_, hnumber, _, hsequence, rfl⟩
  · simp only [Ending.ofOutcome_eq_error_iff, (hexactly _ _).bind_eq_error_iff,
      map_eq_error_iff, (hexactly _ _).error_iff, exists_and_right]

end Bridge

/-! ## All readers -/

/-- Every reader of numbers in texts is exact, and what is written of a number is read as that
    number. -/
theorem reads_exactly :
    (∀ s, Exactly 10 s.toList id (Numeral.readDecimal s)) ∧
    (∀ r s, Exactly 10 s.toList (Codec.noDecimal s)
      (Codec.decimal.decode r (.text (.whole s)))) ∧
    (∀ body answer, Tendermint.Answer.codec.ofAnswer body = .ok answer →
      Exactly 10 answer.height.toList (Tendermint.noHead answer.height)
        (Tendermint.readHead body) ∧
      Tendermint.ReadsBlock answer (Tendermint.readBlock body)) ∧
    (∀ {σ : Type} (b : Bridge) (serve : Http.Request → σ → Http.Reply × σ) (now : Scene σ)
      body answer, ((b.ask b.accountPath).play serve now).1 = .ok body →
      AccountAnswer.codec.ofAnswer body = .ok answer →
      Bridge.ReadsAccount answer (b.account.play serve now).1) ∧
    (∀ s, (∀ n, Ethereum.readQuantity s = .ok n ↔
        ∃ digits, s.toList = '0' :: 'x' :: digits ∧ Writes 16 digits n.toNat) ∧
      (∀ digits, s.toList = '0' :: 'x' :: digits →
        Exactly 16 digits Cause.numeral (Ethereum.readQuantity s)) ∧
      ((∀ digits, s.toList ≠ '0' :: 'x' :: digits) → Ethereum.readQuantity s =
        .error (.message (Quoted.ofText s ++ " is not a hex quantity")))) ∧
    ∀ n, Numeral.readDecimal (Numeral.ofWord n) = .ok n ∧
      Codec.decimal.ofAnswer (Utf8.encode (Codec.decimal.encode n).render) = .ok n ∧
      Ethereum.readQuantity (Ethereum.quantity n) = .ok n :=
  ⟨Numeral.exactly_readDecimal, Codec.exactly_decimal,
    fun _ _ h => ⟨Tendermint.exactly_readHead h, Tendermint.readsBlock h⟩,
    fun _ _ _ _ _ hask hanswer => Bridge.readsAccount hask hanswer,
    fun _ => ⟨fun _ => Ethereum.readQuantity_eq_ok_iff, fun _ => Ethereum.exactly_readQuantity,
      Ethereum.readQuantity_of_ne⟩,
    fun n => ⟨Numeral.readDecimal_ofWord n,
      (Codec.ofAnswer_render (Codec.WritesNoNumber.decimal n)).trans
        (Codec.decode_decimal .ofText n),
      Ethereum.readQuantity_quantity n⟩⟩

/-- An answer with the greatest height there is, behind zeros. -/
def Tendermint.greatestHead : Bytes :=
  Utf8.encode ("\x7b\"result\":\x7b\"block\":\x7b\"header\":\x7b\"height\":" ++
    "\"0018446744073709551615\"\x7d\x7d\x7d\x7d")

/-- An answer with a sign in front of the number of an account, and with the least sequence
    number that is too large. -/
def AccountAnswer.overfull : Bytes :=
  Utf8.encode ("\x7b\"result\":\x7b\"value\":\x7b\"account_number\":\"+007\"," ++
    "\"sequence\":\"18446744073709551616\"\x7d\x7d\x7d")

/-- The greatest number of sixty-four bits is read, behind zeros or a sign, and the one behind
    it is not, nor is a quantity without its mark. -/
theorem reads_exactly_at_bound :
    Tendermint.readHead Tendermint.greatestHead = .ok 18446744073709551615 ∧
    Tendermint.readBlock Tendermint.greatestHead = .ok ⟨18446744073709551615, []⟩ ∧
    (Bridge.plain.account.play (fun _ s => (.answered .ok AccountAnswer.overfull, s))
      ⟨.start, ()⟩).1 = .error (Bridge.noNumber "sequence" "18446744073709551616" .tooLarge) ∧
    Ethereum.readQuantity "0x+0fFfFfFfFfFfFfFfF" = .ok 18446744073709551615 ∧
    Ethereum.readQuantity "ff" = .error (.message "\"ff\" is not a hex quantity") := by
  obtain ⟨-, -, hheights, haccount, hquantity, -⟩ := reads_exactly
  have hhead : Tendermint.Answer.codec.ofAnswer Tendermint.greatestHead
      = .ok ⟨"0018446744073709551615", none⟩ := ok_of_toOption (by decide +kernel)
  have hgreatest : Writes 10 "0018446744073709551615".toList
      (18446744073709551615 : UInt64).toNat := by
    refine ⟨_, .inl rfl, by decide,
      [5, 1, 6, 1, 5, 5, 9, 0, 7, 3, 7, 0, 4, 4, 7, 6, 4, 4, 8, 1, 0, 0], ?_, rfl⟩
    simp [Numeral.IsDigit]
  have hanswer : AccountAnswer.codec.ofAnswer AccountAnswer.overfull
      = .ok ⟨"", "+007", "18446744073709551616"⟩ := ok_of_toOption (by decide +kernel)
  have hask : ((Bridge.plain.ask Bridge.plain.accountPath).play
      (fun _ s => (.answered .ok AccountAnswer.overfull, s)) ⟨.start, ()⟩).1
        = .ok AccountAnswer.overfull := by
    obtain ⟨u, hu⟩ := Bridge.exists_accountUrl_plain
    rw [Bridge.plain.play_ask_of_answered _ ⟨.start, ()⟩ hu rfl]
  have hseven : Writes 10 "+007".toList (7 : UInt64).toNat := by
    refine ⟨"007".toList, .inr rfl, by decide, [7, 0, 0], ?_, rfl⟩
    simp [Numeral.IsDigit]
  -- The last digit is the one that passes the bound.
  have htooLarge : Fails 10 (Nat.pow 2 64) "18446744073709551616".toList .tooLarge := by
    refine .outgrown ⟨"1844674407370955161".toList, '6', [], 1844674407370955161, 6, rfl,
      ⟨[1, 6, 1, 5, 5, 9, 0, 7, 3, 7, 0, 4, 4, 7, 6, 4, 4, 8, 1], ?_, rfl⟩, by decide,
      ⟨by decide, .inl rfl⟩, by decide⟩
    simp [Numeral.IsDigit]
  have hletters : Writes 16 "+0fFfFfFfFfFfFfFfF".toList
      (18446744073709551615 : UInt64).toNat := by
    refine ⟨"0fFfFfFfFfFfFfFfF".toList, .inr rfl, by decide,
      [15, 15, 15, 15, 15, 15, 15, 15, 15, 15, 15, 15, 15, 15, 15, 15, 0], ?_, rfl⟩
    simp [Numeral.IsDigit]
    rfl
  obtain ⟨hreadHead, hreadBlock⟩ := hheights _ _ hhead
  exact ⟨(hreadHead.ok_iff _).2 hgreatest, (hreadBlock.ok_iff _).2 ⟨hgreatest, rfl⟩,
    ((haccount _ _ _ _ _ hask hanswer).error_iff _).2
      (.inr ⟨⟨7, hseven⟩, .tooLarge, htooLarge, rfl⟩),
    ((hquantity _).1 _).2 ⟨_, rfl, hletters⟩, (hquantity _).2.2 fun digits => by simp⟩

/-- A sign with nothing behind it fails, but not for being empty. -/
theorem Numeral.sign_is_no_digit :
    unsigned "+".toList = [] ∧ readDecimal "+" = .error .invalidDigit ∧
      ¬ ∀ s : String, unsigned s.toList = [] → readDecimal s = .error .empty := by
  have hsign : readDecimal "+" = .error .invalidDigit := rfl
  refine ⟨rfl, hsign, fun h => ?_⟩
  have hempty := h "+" rfl
  rw [hsign] at hempty
  cases hempty

end ChainRelay
