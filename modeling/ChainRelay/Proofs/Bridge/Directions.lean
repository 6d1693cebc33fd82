import ChainRelay.Bridge.Report
import ChainRelay.Proofs.Address
import ChainRelay.Proofs.Bridge.Calls
import Mathlib.Data.List.Flatten
import Mathlib.Data.List.Forall2
import Mathlib.Data.List.Perm.Basic

/-!
# Reports of what was observed

An observation belongs to its vault if its transaction pays the vault, or is paid by it.
Observations that all belong to their vaults are told apart by two filters, which lose
nothing (`Sorted.ofObservations_of_forall`); the first one that does not belong makes the
report fail (`Sorted.ofObservations_of_first`). Addresses are looked at without the case of
their letters, so that makes no difference (`Observation.Recased`).

What is said of `Sorted.ofObservations` is then said of the whole report
(`Bridge.observations_told_apart`).
-/

namespace ChainRelay

/-! ## Which way one observation goes -/

namespace Observation

/-- The chain on which the vault has its address: that of the asset of the first coin, and
    Binance Chain if there is no coin. -/
def vaultChain (o : Observation) : Chain :=
  (o.transaction.coins.head?.map fun coin => coin.asset.chain).getD .bnb

/-- The address of the vault on that chain. -/
def vaultAddress? (o : Observation) : Option Address := o.vault.address? o.vaultChain

/-- The transaction pays the vault. -/
def paysIn (o : Observation) : Bool :=
  o.vaultAddress?.any fun vault => o.transaction.receiver.Alike vault

/-- The vault pays, and is not paid by itself. -/
def paysOut (o : Observation) : Bool :=
  o.vaultAddress?.any fun vault =>
    o.transaction.sender.Alike vault ∧ ¬o.transaction.receiver.Alike vault

/-- The vault has an address, and it pays or is paid. -/
def Belongs (o : Observation) : Prop :=
  ∃ vault, o.vaultAddress? = some vault ∧
    (o.transaction.receiver.Alike vault ∨ o.transaction.sender.Alike vault)

/-- What is wrong with an observation that does not belong to its vault. -/
def offence (o : Observation) : Failure :=
  if o.vaultAddress? = none then
    .message (PublicKey.underivableMessage o.vaultChain)
  else .of (.ambiguousDirection o.transaction.id)

variable {o o' : Observation}

theorem addressChain_eq_vaultChain (o : Observation) :
    o.transaction.addressChain = o.vaultChain := by
  rw [Transaction.addressChain, vaultChain]
  cases o.transaction.coins <;> rfl

theorem paysOut_eq_of_belongs (h : o.Belongs) : o.paysOut = !o.paysIn := by
  obtain ⟨vault, hvault, halike⟩ := h
  by_cases hin : o.transaction.receiver.Alike vault
  · simp [paysOut, paysIn, hvault, hin]
  · simp [paysOut, paysIn, hvault, hin, halike.resolve_left hin]

theorem paysIn_of_vault {vault : Address} (h : o.vaultAddress? = some vault) :
    o.paysIn = o.transaction.receiver.same vault := by
  rw [paysIn, h, Option.any_some, Bool.eq_iff_iff, decide_eq_true_eq, Address.same_iff_alike]

theorem belongs_iff_of_vault {vault : Address} (h : o.vaultAddress? = some vault) :
    o.Belongs ↔ o.transaction.receiver.same vault ∨ o.transaction.sender.same vault := by
  simp [Belongs, h, Address.same_iff_alike]

theorem direction_of_belongs (h : o.Belongs) :
    o.direction = .ok (if o.paysIn then .inbound else .outbound) := by
  obtain ⟨vault, hvault, halike⟩ := h
  rw [vaultAddress?] at hvault
  simp only [direction, paysIn, vaultAddress?, addressChain_eq_vaultChain, hvault,
    Address.same_iff_alike, Option.any_some, decide_eq_true_eq]
  by_cases hin : o.transaction.receiver.Alike vault
  · simp only [if_pos hin]
  · simp only [if_neg hin, if_pos (halike.resolve_left hin)]

theorem direction_of_not_belongs (h : ¬o.Belongs) : o.direction = .error o.offence := by
  rcases hvault : o.vault.address? o.vaultChain with _ | vault
  · simp only [direction, offence, vaultAddress?, addressChain_eq_vaultChain, hvault, if_true]
  · have hin : ¬o.transaction.receiver.Alike vault := fun hin => h ⟨vault, hvault, .inl hin⟩
    have hout : ¬o.transaction.sender.Alike vault := fun hout => h ⟨vault, hvault, .inr hout⟩
    simp only [direction, offence, vaultAddress?, addressChain_eq_vaultChain, hvault,
      Address.same_iff_alike, if_neg hin, if_neg hout, reduceCtorEq, if_false]

/-- An observation is another one, but for the case of ASCII letters in the addresses of
    who pays and who is paid. -/
def Recased (o o' : Observation) : Prop :=
  ∃ sender receiver, o.transaction.sender.Alike sender ∧ o.transaction.receiver.Alike receiver ∧
    o' = { o with transaction := { o.transaction with sender := sender, receiver := receiver } }

namespace Recased

theorem vaultAddress?_eq (h : Recased o o') : o.vaultAddress? = o'.vaultAddress? := by
  obtain ⟨sender, receiver, -, -, rfl⟩ := h
  rfl

theorem offence_eq (h : Recased o o') : o.offence = o'.offence := by
  obtain ⟨sender, receiver, -, -, rfl⟩ := h
  rfl

theorem sender_alike_iff (h : Recased o o') (vault : Address) :
    o.transaction.sender.Alike vault ↔ o'.transaction.sender.Alike vault := by
  obtain ⟨sender, receiver, hsender, -, rfl⟩ := h
  exact ⟨hsender.symm.trans, hsender.trans⟩

theorem receiver_alike_iff (h : Recased o o') (vault : Address) :
    o.transaction.receiver.Alike vault ↔ o'.transaction.receiver.Alike vault := by
  obtain ⟨sender, receiver, -, hreceiver, rfl⟩ := h
  exact ⟨hreceiver.symm.trans, hreceiver.trans⟩

theorem paysIn_eq (h : Recased o o') : o.paysIn = o'.paysIn := by
  simp only [paysIn, h.vaultAddress?_eq, h.receiver_alike_iff]

theorem belongs_iff (h : Recased o o') : o.Belongs ↔ o'.Belongs := by
  simp only [Belongs, h.vaultAddress?_eq, h.sender_alike_iff, h.receiver_alike_iff]

end Recased

end Observation

/-! ## Which way all observations go -/

/-- Outcomes are the same failure, or related results. -/
inductive Outcome.Related {α β : Type} (related : α → β → Prop) : Outcome α → Outcome β → Prop
  | ok {a : α} {b : β} (h : related a b) : Related related (.ok a) (.ok b)
  | error (f : Failure) : Related related (.error f) (.error f)

theorem Outcome.Related.bind {α β γ δ : Type} {related : α → β → Prop} {related' : γ → δ → Prop}
    {x : Outcome α} {y : Outcome β} {f : α → Outcome γ} {g : β → Outcome δ}
    (h : Related related x y) (hnext : ∀ a b, related a b → Related related' (f a) (g b)) :
    Related related' (x >>= f) (y >>= g) := by
  cases h with
  | ok h => exact hnext _ _ h
  | error failure => exact .error failure

/-- Ends are the same failure, or related results. -/
inductive Ending.Related {α β : Type} (related : α → β → Prop) : Ending α → Ending β → Prop
  | ok {a : α} {b : β} (h : related a b) : Related related (.ok a) (.ok b)
  | error (f : Failure) : Related related (.error f) (.error f)

theorem Outcome.Related.ofOutcome {α β : Type} {related : α → β → Prop} {x : Outcome α}
    {y : Outcome β} (h : Related related x y) :
    Ending.Related related (.ofOutcome x) (.ofOutcome y) := by
  cases h with
  | ok h => exact .ok h
  | error failure => exact .error failure

namespace Sorted

variable {observed recased before after : List Observation} {o : Observation}

/-- Observations that belong to their vaults are told apart, each kind in order. -/
theorem ofObservations_of_forall (h : ∀ o ∈ observed, o.Belongs) :
    ofObservations observed
      = .ok ⟨observed.filter Observation.paysIn, observed.filter Observation.paysOut⟩ := by
  induction observed with
  | nil => rfl
  | cons o rest ih =>
    obtain ⟨ho, hrest⟩ := List.forall_mem_cons.1 h
    rw [ofObservations, Observation.direction_of_belongs ho, ih hrest, List.filter_cons,
      List.filter_cons, Observation.paysOut_eq_of_belongs ho]
    cases o.paysIn <;> rfl

/-- The first observation that does not belong to its vault is what all of them fail with. -/
theorem ofObservations_of_first (hbefore : ∀ p ∈ before, p.Belongs) (ho : ¬o.Belongs) :
    ofObservations (before ++ o :: after) = .error o.offence := by
  induction before with
  | nil =>
    rw [List.nil_append, ofObservations, Observation.direction_of_not_belongs ho]
    rfl
  | cons p before ih =>
    obtain ⟨hp, hbefore⟩ := List.forall_mem_cons.1 hbefore
    rw [List.cons_append, ofObservations, Observation.direction_of_belongs hp, ih hbefore]
    rfl

/-- Either all observations belong to their vaults, or there is a first one that does not. -/
theorem forall_belongs_or_first (observed : List Observation) :
    (∀ o ∈ observed, o.Belongs) ∨ ∃ before o after, observed = before ++ o :: after ∧
      (∀ p ∈ before, p.Belongs) ∧ ¬o.Belongs := by
  induction observed with
  | nil => exact .inl nofun
  | cons o rest ih =>
    by_cases ho : o.Belongs
    · rcases ih with hrest | ⟨before, p, after, rfl, hbefore, hp⟩
      · exact .inl (List.forall_mem_cons.2 ⟨ho, hrest⟩)
      · exact .inr ⟨o :: before, p, after, rfl, List.forall_mem_cons.2 ⟨ho, hbefore⟩, hp⟩
    · exact .inr ⟨[], o, rest, rfl, nofun, ho⟩

/-- Observations are sorted as others, but for the case of letters in the addresses of who
    pays and who is paid. -/
structure Recased (s s' : Sorted) : Prop where
  inbound : s.inbound.Forall₂ Observation.Recased s'.inbound
  outbound : s.outbound.Forall₂ Observation.Recased s'.outbound

/-- The case of letters makes no difference to how observations are sorted. -/
theorem ofObservations_recased (h : observed.Forall₂ Observation.Recased recased) :
    Outcome.Related Recased (ofObservations observed) (ofObservations recased) := by
  induction h with
  | nil => exact .ok ⟨.nil, .nil⟩
  | @cons o o' rest rest' ho _ ih =>
    rw [ofObservations, ofObservations]
    by_cases hbelongs : o.Belongs
    · rw [Observation.direction_of_belongs hbelongs, ho.paysIn_eq,
        Observation.direction_of_belongs (ho.belongs_iff.1 hbelongs)]
      refine ih.bind fun s s' hs => ?_
      cases o'.paysIn with
      | true => exact .ok ⟨.cons ho hs.inbound, hs.outbound⟩
      | false => exact .ok ⟨hs.inbound, .cons ho hs.outbound⟩
    · rw [Observation.direction_of_not_belongs hbelongs, ho.offence_eq,
        Observation.direction_of_not_belongs (mt ho.belongs_iff.2 hbelongs)]
      exact .error _

end Sorted

/-! ## The report -/

namespace Message

/-- What a message says was observed. -/
def observations : Message → List Observation
  | inbound m | outbound m => m.observations
  | keysignFailed _ | keygen _ => []

/-- A message is another one, but for the case of letters in the addresses of who pays and
    who is paid. -/
inductive Recased : Message → Message → Prop
  | inbound {observed recased : List Observation} {signer : Address}
    (h : observed.Forall₂ Observation.Recased recased) :
    Recased (.inbound ⟨observed, signer⟩) (.inbound ⟨recased, signer⟩)
  | outbound {observed recased : List Observation} {signer : Address}
    (h : observed.Forall₂ Observation.Recased recased) :
    Recased (.outbound ⟨observed, signer⟩) (.outbound ⟨recased, signer⟩)

end Message

/-- A transaction is another one, but for the case of letters in what it reports. -/
def Envelope.Recased (tx tx' : Envelope) : Prop :=
  tx.messages.Forall₂ Message.Recased tx'.messages ∧ tx' = { tx with messages := tx'.messages }

/-- A transaction reports some observations: those that pay in before those that pay out,
    each in order and as it is, and none is lost. -/
structure Envelope.Reports (tx : Envelope) (signer : Address) (observed : List Observation) :
    Prop where
  /-- The fee is so much gas, whatever is reported. -/
  fee : tx.fee = ⟨[], 100000000⟩
  /-- There is no note. -/
  memo : tx.memo = ""
  /-- Nothing is signed yet. -/
  signatures : tx.signatures = []
  /-- At most two messages, and no empty one. -/
  messages : tx.messages =
    [Message.inbound ⟨observed.filter Observation.paysIn, signer⟩,
      Message.outbound ⟨observed.filter Observation.paysOut, signer⟩].filter
        fun m => !m.observations.isEmpty
  /-- All messages together hold what was observed. -/
  perm : (tx.messages.flatMap Message.observations).Perm observed
  /-- What was observed is in one message, as often as it was observed. -/
  once : ∀ o ∈ observed, ∃ m ∈ tx.messages, m.observations.count o = observed.count o ∧
    ∀ m' ∈ tx.messages, o ∈ m'.observations → m' = m

/-- There is one message for each kind of which there are any. -/
theorem Sorted.messages_eq (s : Sorted) (signer : Address) :
    s.messages signer =
      [Message.inbound ⟨s.inbound, signer⟩, Message.outbound ⟨s.outbound, signer⟩].filter
        fun m => !m.observations.isEmpty := by
  rcases s with ⟨_ | ⟨o, inbound⟩, _ | ⟨p, outbound⟩⟩ <;> rfl

theorem Sorted.Recased.messages {s s' : Sorted} (h : Recased s s') (signer : Address) :
    (s.messages signer).Forall₂ Message.Recased (s'.messages signer) := by
  rcases s with ⟨inbound, outbound⟩
  rcases s' with ⟨inbound', outbound'⟩
  obtain ⟨hin, hout⟩ := h
  refine List.rel_append ?_ ?_
  · cases hin with
    | nil => exact .nil
    | cons ho hrest => exact .cons (.inbound (.cons ho hrest)) .nil
  · cases hout with
    | nil => exact .nil
    | cons ho hrest => exact .cons (.outbound (.cons ho hrest)) .nil

theorem Sorted.flatMap_messages (s : Sorted) (signer : Address) :
    (s.messages signer).flatMap Message.observations = s.inbound ++ s.outbound := by
  rcases s with ⟨_ | ⟨o, inbound⟩, _ | ⟨p, outbound⟩⟩ <;> simp [messages, Message.observations]

/-- Where an observation goes one way only, one message has all of it. -/
theorem Sorted.exists_message (s : Sorted) (signer : Address) {o : Observation}
    (h : o ∈ s.inbound ∧ o ∉ s.outbound ∨ o ∈ s.outbound ∧ o ∉ s.inbound) :
    ∃ m ∈ s.messages signer, m.observations.count o = (s.inbound ++ s.outbound).count o ∧
      ∀ m' ∈ s.messages signer, o ∈ m'.observations → m' = m := by
  have hmem {m : Message} : m ∈ s.messages signer ↔
      (m = .inbound ⟨s.inbound, signer⟩ ∨ m = .outbound ⟨s.outbound, signer⟩) ∧
        m.observations ≠ [] := by
    rw [messages_eq, List.mem_filter, List.mem_pair, Bool.not_eq_true', List.isEmpty_eq_false_iff]
  rw [List.count_append]
  rcases h with ⟨hin, hout⟩ | ⟨hout, hin⟩
  · refine ⟨_, hmem.2 ⟨.inl rfl, List.ne_nil_of_mem hin⟩, ?_, fun m' hm' ho => ?_⟩
    · rw [List.count_eq_zero_of_not_mem hout]
      rfl
    · obtain ⟨rfl | rfl, -⟩ := hmem.1 hm'
      · rfl
      · exact absurd ho hout
  · refine ⟨_, hmem.2 ⟨.inr rfl, List.ne_nil_of_mem hout⟩, ?_, fun m' hm' ho => ?_⟩
    · rw [List.count_eq_zero_of_not_mem hin, Nat.zero_add]
      rfl
    · obtain ⟨rfl | rfl, -⟩ := hmem.1 hm'
      · exact absurd ho hin
      · rfl

namespace Bridge

variable {σ : Type} (b : Bridge) (serve : Http.Request → σ → Http.Reply × σ) (now : Scene σ)
  {observed recased : List Observation}

theorem ending_observations (h : observed ≠ []) :
    ((b.observations observed).play serve now).1
      = .ofOutcome (Sorted.ofObservations observed >>= fun s =>
        .ok (.unsigned (s.messages b.signer.address))) := by
  rw [observations, if_neg (by simpa using h), Call.play_bind]
  simp only [Call.count, Call.play_modify, Call.play_bind]
  rcases Sorted.ofObservations observed with f | sorted
  · rfl
  · rfl

/-- The report of observations that all belong to their vaults. -/
def reportOf (observed : List Observation) : Envelope :=
  .unsigned (Sorted.messages ⟨observed.filter Observation.paysIn,
    observed.filter Observation.paysOut⟩ b.signer.address)

theorem reports_reportOf (h : ∀ o ∈ observed, o.Belongs) :
    (b.reportOf observed).Reports b.signer.address observed := by
  have hout : observed.filter Observation.paysOut = observed.filter fun o => !o.paysIn :=
    List.filter_congr fun o ho => Observation.paysOut_eq_of_belongs (h o ho)
  have hperm : (observed.filter Observation.paysIn ++ observed.filter Observation.paysOut).Perm
      observed := by
    rw [hout]
    exact List.filter_append_perm _ _
  refine ⟨rfl, rfl, rfl, Sorted.messages_eq _ _, ?_, fun o ho => ?_⟩
  · rw [reportOf, Envelope.unsigned, Sorted.flatMap_messages]
    exact hperm
  · rw [← hperm.count_eq o]
    refine Sorted.exists_message _ _ ?_
    simp only [hout, List.mem_filter, ho, true_and]
    cases o.paysIn <;> decide

theorem ending_of_forall (hne : observed ≠ []) (h : ∀ o ∈ observed, o.Belongs) :
    ((b.observations observed).play serve now).1 = .ok (b.reportOf observed) := by
  rw [ending_observations b serve now hne, Sorted.ofObservations_of_forall h]
  rfl

theorem ending_of_first {before after : List Observation} {o : Observation}
    (hbefore : ∀ p ∈ before, p.Belongs) (ho : ¬o.Belongs) :
    ((b.observations (before ++ o :: after)).play serve now).1 = .error o.offence := by
  rw [ending_observations b serve now (by simp), Sorted.ofObservations_of_first hbefore ho]
  rfl

theorem ending_recased (h : observed.Forall₂ Observation.Recased recased) :
    Ending.Related Envelope.Recased ((b.observations observed).play serve now).1
      ((b.observations recased).play serve now).1 := by
  rcases eq_or_ne observed [] with rfl | hne
  · obtain rfl := List.forall₂_nil_left_iff.1 h
    exact .error _
  · have hne' : recased ≠ [] := by
      rintro rfl
      exact hne (List.forall₂_nil_right_iff.1 h)
    rw [ending_observations b serve now hne, ending_observations b serve now hne']
    refine Outcome.Related.ofOutcome ((Sorted.ofObservations_recased h).bind fun s s' hs => ?_)
    exact .ok ⟨hs.messages b.signer.address, rfl⟩

theorem exists_first (h : ¬∀ o ∈ observed, o.Belongs) :
    ∃ before o after, observed = before ++ o :: after ∧ (∀ p ∈ before, p.Belongs) ∧ ¬o.Belongs ∧
      ((b.observations observed).play serve now).1 = .error o.offence := by
  rcases Sorted.forall_belongs_or_first observed with hall | ⟨before, o, after, rfl, hbefore, ho⟩
  · exact absurd hall h
  · exact ⟨before, o, after, rfl, hbefore, ho, b.ending_of_first serve now hbefore ho⟩

/-- An observation that alone does not belong to its vault is what all of them fail with. -/
theorem ending_of_only {o : Observation} (hmem : o ∈ observed) (ho : ¬o.Belongs)
    (honly : ∀ p ∈ observed, p ≠ o → p.Belongs) :
    ((b.observations observed).play serve now).1 = .error o.offence := by
  obtain ⟨before, p, after, rfl, -, hp, hfailed⟩ :=
    b.exists_first serve now fun hall => ho (hall o hmem)
  obtain rfl : p = o := not_imp_comm.1 (honly p (by simp)) hp
  exact hfailed

theorem belongs_of_ok {tx : Envelope} (h : ((b.observations observed).play serve now).1 = .ok tx) :
    observed ≠ [] ∧ ∀ o ∈ observed, o.Belongs := by
  refine ⟨?_, ?_⟩
  · rintro rfl
    exact absurd h nofun
  · by_contra hall
    obtain ⟨before, o, after, -, -, -, hfailed⟩ := b.exists_first serve now hall
    exact absurd (h.symm.trans hfailed) nofun

/-- The report of what was observed tells payments into vaults from payments out of them. It
    fails if there is nothing to report, or with the first observation that does not belong
    to its vault, and otherwise it loses nothing. The case of letters in addresses makes no
    difference. -/
theorem observations_told_apart (observed : List Observation) :
    ((b.observations []).play serve now).1 = .error (.of .nothingToSign) ∧
    ((∃ tx, ((b.observations observed).play serve now).1 = .ok tx) ↔
      observed ≠ [] ∧ ∀ o ∈ observed, o.Belongs) ∧
    (∀ tx, ((b.observations observed).play serve now).1 = .ok tx →
      tx.Reports b.signer.address observed) ∧
    (¬(∀ o ∈ observed, o.Belongs) → ∃ before o after, observed = before ++ o :: after ∧
      (∀ p ∈ before, p.Belongs) ∧ ¬o.Belongs ∧
      ((b.observations observed).play serve now).1 = .error o.offence) ∧
    ∀ recased, observed.Forall₂ Observation.Recased recased →
      Ending.Related Envelope.Recased ((b.observations observed).play serve now).1
        ((b.observations recased).play serve now).1 := by
  refine ⟨rfl, ⟨?_, ?_⟩, fun tx htx => ?_, b.exists_first serve now,
    fun recased h => b.ending_recased serve now h⟩
  · rintro ⟨tx, htx⟩
    exact b.belongs_of_ok serve now htx
  · rintro ⟨hne, hall⟩
    exact ⟨_, b.ending_of_forall serve now hne hall⟩
  · obtain ⟨hne, hall⟩ := b.belongs_of_ok serve now htx
    obtain rfl := Ending.ok.inj (htx.symm.trans (b.ending_of_forall serve now hne hall))
    exact b.reports_reportOf hall

/-- A payment that is seen at the vault with the least key. -/
def payment (sender receiver : String) (coins : List Coin) : Observation :=
  .unsigned ⟨⟨"A1"⟩, .bnb, ⟨sender⟩, ⟨receiver⟩, coins, [], ""⟩ 5 .least

/-- The vault has the address of the chain of the first coin, and that of Binance Chain
    without coins; on Bitcoin it has none. -/
theorem observations_told_apart_by_first_coin :
    let rune : Coin := ⟨⟨.thor, "RUNE"⟩, 1⟩
    let bnb : Coin := ⟨⟨.bnb, "BNB"⟩, 2⟩
    let bitcoin : Coin := ⟨⟨.btc, "BTC"⟩, 3⟩
    let onThor := "THOR1W508D6QEJXTDG4Y5R3ZARVARY0C5XW7KU6WP68"
    let onBinance := "bnb1w508d6qejxtdg4y5r3zarvary0c5xw7kcegkwk"
    let paid := payment "someone" onThor [rune, bnb]
    let pays := payment onBinance "someone" [bnb, rune]
    let bare := payment "someone" onBinance []
    let ending (observed : List Observation) :=
      ((plain.observations observed).play Http.scripted ⟨.start, []⟩).1
    (∃ tx, ending [paid, pays, bare] = .ok tx ∧
      tx.messages = [.inbound ⟨[paid, bare], plain.signer.address⟩,
        .outbound ⟨[pays], plain.signer.address⟩]) ∧
    ending [paid, payment "someone" onThor [], pays]
      = .error (.of (.ambiguousDirection ⟨"A1"⟩)) ∧
    ending [payment "someone" onThor [bitcoin, rune]]
      = .error (.message "address derivation for BTC is not supported") := by
  intro rune bnb bitcoin onThor onBinance paid pays bare ending
  have hthor : paid.vaultAddress? = some ⟨"thor1w508d6qejxtdg4y5r3zarvary0c5xw7ku6wp68"⟩ :=
    PublicKey.address?_least_thor
  have hbnb {o : Observation} (hvault : o.vault = .least) (hchain : o.vaultChain = .bnb) :
      o.vaultAddress? = some ⟨onBinance⟩ := by
    rw [Observation.vaultAddress?, hvault, hchain, PublicKey.address?_least_bnb]
  have hpaid : paid.Belongs := (Observation.belongs_iff_of_vault hthor).2 (by decide +kernel)
  have hpays : pays.Belongs :=
    (Observation.belongs_iff_of_vault (hbnb rfl rfl)).2 (by decide +kernel)
  have hbare : bare.Belongs :=
    (Observation.belongs_iff_of_vault (hbnb rfl rfl)).2 (by decide +kernel)
  refine ⟨?_, ?_, ?_⟩
  · obtain ⟨-, hok, hreports, -⟩ :=
      plain.observations_told_apart Http.scripted ⟨.start, []⟩ [paid, pays, bare]
    obtain ⟨tx, htx⟩ := hok.2 ⟨by simp, by simp [hpaid, hpays, hbare]⟩
    have hpaysIn : [paid, pays, bare].map Observation.paysIn = [true, false, true] := by
      simp only [List.map_cons, List.map_nil, Observation.paysIn_of_vault hthor,
        Observation.paysIn_of_vault (hbnb (o := pays) rfl rfl),
        Observation.paysIn_of_vault (hbnb (o := bare) rfl rfl)]
      decide +kernel
    simp only [List.map_cons, List.map_nil, List.cons.injEq, and_true] at hpaysIn
    refine ⟨tx, htx, ?_⟩
    rw [(hreports tx htx).messages]
    simp [Observation.paysOut_eq_of_belongs, hpaid, hpays, hbare, hpaysIn,
      Message.observations]
  · refine plain.ending_of_only _ _ (o := payment "someone" onThor []) (by simp) ?_ ?_
    · rw [Observation.belongs_iff_of_vault (hbnb rfl rfl)]
      decide +kernel
    · simp [hpaid, hpays]
  · refine plain.ending_of_only _ _ (List.mem_singleton_self _) ?_ (by simp)
    rintro ⟨vault, hvault, -⟩
    exact absurd hvault nofun

end Bridge

end ChainRelay
