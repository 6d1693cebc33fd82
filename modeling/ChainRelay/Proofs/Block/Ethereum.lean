import ChainRelay.Observer.Basic
import ChainRelay.Proofs.Json.Canonical
import ChainRelay.Proofs.Json.Lines
import ChainRelay.Proofs.Json.Members
import ChainRelay.Proofs.Text.Numeral

/-!
# Blocks of Ethereum nodes round-trip

The height in a call for a block is read back as that height, so a node that repeats it
answers with the block that was asked for, and a node that tells another number does not
(`Answers.accepts_iff`). The transactions of an answer are handed on as canonical
texts, one for each and in order (`Answers.readBlock_ok`), which depend neither on white
space (`Answers.of_hasText`) nor on the order of keys (`render_eq_of_same`). An answer with an error is no
answer, whatever else it holds (`refuses_error`).
-/

namespace ChainRelay

/-- The item of some values is not deeper than they are. -/
theorem Json.depth_le_itemsDepth {items : List Json} {j : Json} (h : j ∈ items) :
    j.depth ≤ itemsDepth items := by
  induction items with
  | nil => exact absurd h List.not_mem_nil
  | cons x rest ih =>
    rw [itemsDepth]
    rcases List.mem_cons.1 h with rfl | h
    · exact Nat.le_max_left _ _
    · exact (ih h).trans (Nat.le_max_right _ _)

/-- Values of any type are read as they are taken, with their keys in order. -/
theorem Codec.decodeItems_value {room : Nat} : ∀ {items : Items} {xs : List Json},
    items.take room = .ok xs →
      decodeItems (value.decode ⟨.text, room⟩) items = .ok (xs.map Json.sorted)
  | .closed, _, h => by
    cases h
    rfl
  | .cut _, _, h => by cases h
  | .cons item rest, _, h => by
    rw [Items.take] at h
    obtain ⟨x, hx, h⟩ := ok_of_bind h
    obtain ⟨xs, hxs, h⟩ := ok_of_bind h
    cases h
    have hfirst : value.decode ⟨.text, room⟩ item = .ok x.sorted := by
      change (liftFault (item.take room)).map Json.sorted = _
      rw [hx]
      rfl
    rw [decodeItems, hfirst, decodeItems_value hxs]
    rfl

/-- Only null is read as nothing. -/
theorem Codec.decode_option {α : Type} {c : Codec α} {r : Reading} {d : Doc} (h : d ≠ .null) :
    (option c).decode r d = (c.decode r d).map some := by
  cases d with
  | null => exact absurd rfl h
  | _ => rfl

namespace Ethereum

/-! ## Quantities -/

/-- A number is read back from its quantity. -/
theorem readQuantity_quantity (n : UInt64) : readQuantity (quantity n) = .ok n := by
  have hdigits : (quantity n).toList = '0' :: 'x' :: Nat.toDigits 16 n.toNat := by
    simp only [quantity, String.toList_append, String.toList_ofList]
    rfl
  have hread : Numeral.read 16 (Nat.pow 2 64) (Nat.toDigits 16 n.toNat) = .ok n.toNat :=
    Numeral.read_toDigits (by decide) (by decide) n.toNat_lt
  simp only [readQuantity, hdigits, hread, UInt64.ofNat_toNat]

/-- The parameters in the call for a block are the quantity of its height, and that whole
    transactions are asked for. -/
theorem parameters_blockQuery (host : String) (height : UInt64) :
    ∃ text, (blockQuery host height).body = some text ∧
      (Codec.only "params" (.list .value)).ofAnswer (Utf8.encode text)
        = .ok [.text (quantity height), .bool true] := by
  have hcall : call "eth_getBlockByNumber" [.text (quantity height), .bool true] =
      .object ([("id", .ofNat 1), ("jsonrpc", .text "2.0"),
        ("method", .text "eth_getBlockByNumber")] ++
        ("params", .array [.text (quantity height), .bool true]) :: []) := by
    rfl
  refine ⟨_, rfl, Codec.ofAnswer_eq_ok_iff.2 ⟨_, Doc.read_render ?_, ?_⟩⟩
  · rw [hcall]
    exact ⟨⟨by decide, by decide⟩, trivial, trivial, ⟨trivial, trivial, trivial⟩, trivial⟩
  · rw [hcall]
    exact Codec.decode_only _ _ rfl (by decide) (by decide) rfl

/-! ## What an answer shows -/

/-- How deep a transaction can be in an answer, which opens three containers around it. -/
def maxDepth : Nat := Reading.maxDepth - 3

/-- A result shows a quantity and transactions. Without any, they may be left out. -/
def ShowsBody (number : String) (txs : List Json) (d : Doc) : Prop :=
  ∃ members, d = .object members ∧ members.Sound ["number", "transactions"] false ∧
    members.get? "number" = some (.text (.whole number)) ∧
    ((∃ items, members.get? "transactions" = some (.array items) ∧ items.take maxDepth = .ok txs) ∨
      txs = [] ∧ members.get? "transactions" = none)

/-- An answer without an error shows a quantity and transactions. -/
def ShowsBlock (number : String) (txs : List Json) (d : Doc) : Prop :=
  ∃ members result, d = .object members ∧ members.Sound ["result", "error"] false ∧
    members.get? "result" = some result ∧ ShowsBody number txs result ∧
    (members.get? "error" = none ∨ members.get? "error" = some .null)

/-- The bytes are an answer that shows a quantity and transactions. -/
def Answers (body : Bytes) (number : String) (txs : List Json) : Prop :=
  ∃ d, Doc.read body = (d, true) ∧ ShowsBlock number txs d

variable {number : String} {txs : List Json} {d : Doc} {body : Bytes}

/-- White space between the parts of an answer does not count. -/
theorem Answers.of_hasText {j : Json} {text : String}
    (h : Answers (Utf8.encode j.render) number txs) (htext : j.HasText text)
    (hj : j.AllNumbers Number.IsWord) :
    Answers (Utf8.encode text) number txs := by
  obtain ⟨d, hread, h⟩ := h
  exact ⟨d, ((Doc.read_of_hasText htext hj).trans (Doc.read_render hj).symm).trans hread, h⟩

theorem ShowsBody.decode (h : ShowsBody number txs d) :
    BlockBody.codec.decode ⟨.text, 126⟩ d = .ok ⟨number, txs.map Json.sorted⟩ := by
  obtain ⟨members, rfl, hsound, hnumber, htxs⟩ := h
  have hnames : (Fields.cons (.required "number" .text) <|
      .cons (.optional "transactions" (.list .value) []) .nil).names.Nodup := by decide
  have hhas : (Field.optional "transactions" (.list .value) []).Has ⟨.text, 125⟩
      (members.get? "transactions") (txs.map Json.sorted) := by
    rcases htxs with ⟨items, hget, hitems⟩ | ⟨rfl, hget⟩
    · rw [hget]
      exact Codec.decodeItems_value hitems
    · rw [hget]
      rfl
  refine (Codec.decode_object_eq_ok_iff rfl hnames).2
    ⟨hsound, (number, txs.map Json.sorted, ()), And.intro ?_ (And.intro hhas trivial), rfl⟩
  rw [Field.required, hnumber]
  rfl

theorem ShowsBlock.decode (h : ShowsBlock number txs d) :
    (Answer.codec BlockBody.codec).decode .ofText d
      = .ok ⟨some ⟨number, txs.map Json.sorted⟩, none⟩ := by
  obtain ⟨members, result, rfl, hsound, hresult, hbody, herror⟩ := h
  have hnames : (Fields.cons (.optional "result" (.option BlockBody.codec) none) <|
      .cons (.optional "error" (.option .value) none) .nil).names.Nodup := by decide
  have hnull : result ≠ .null := by
    obtain ⟨_, rfl, -⟩ := hbody
    exact nofun
  have hfirst : (Field.optional "result" (.option BlockBody.codec) none).Has ⟨.text, 126⟩
      (members.get? "result") (some ⟨number, txs.map Json.sorted⟩) := by
    rw [hresult]
    exact (Codec.decode_option hnull).trans (congrArg (Except.map some) hbody.decode)
  have hsecond : (Field.optional "error" (.option .value) none).Has ⟨.text, 126⟩
      (members.get? "error") none := by
    rcases herror with hget | hget
    · rw [hget]
      rfl
    · rw [hget]
      rfl
  exact (Codec.decode_object_eq_ok_iff rfl hnames).2
    ⟨hsound, (some ⟨number, txs.map Json.sorted⟩, none, ()),
      And.intro hfirst (And.intro hsecond trivial), rfl⟩

/-- The block that an answer shows is the one that is read, if its quantity is one. -/
theorem Answers.readBlock_eq (h : Answers body number txs) :
    readBlock body =
      match readQuantity number with
      | .error cause =>
        .error ((Failure.of cause).within ("fail to parse block number " ++ Quoted.ofText number))
      | .ok height => .ok ⟨height, txs.map fun tx => tx.sorted.render⟩ := by
  obtain ⟨d, hread, h⟩ := h
  rw [readBlock, Codec.ofAnswer_eq_ok_iff.2 ⟨d, hread, h.decode⟩]
  change (match readQuantity number with | .error _ => _ | .ok _ => _) = _
  cases readQuantity number with
  | error cause => rfl
  | ok height =>
    rw [List.map_map]
    rfl

theorem Answers.readBlock_ok {height : UInt64} (h : Answers body number txs)
    (hnumber : readQuantity number = .ok height) :
    readBlock body = .ok ⟨height, txs.map fun tx => tx.sorted.render⟩ := by
  rw [h.readBlock_eq, hnumber]

/-- An observer takes an answer for the block of a height exactly if the answer's quantity
    is read as that height. -/
theorem Answers.accepts_iff {o : Observer} (ho : o.nodeKind = .ethereum) {height : UInt64}
    (h : Answers body number txs) :
    (∃ block, o.readBlock height body = .ok block) ↔ readQuantity number = .ok height := by
  have hblock : o.readBlock height body = readBlock body >>= fun block =>
      if block.height = height then .ok block
      else .error (Observer.otherBlock height block.height) := by
    rw [Observer.readBlock, ho]
    rfl
  rw [hblock, h.readBlock_eq]
  cases readQuantity number with
  | error cause =>
    refine ⟨?_, nofun⟩
    rintro ⟨_, h⟩
    cases h
  | ok told =>
    by_cases htold : told = height
    · exact ⟨fun _ => congrArg _ htold, fun _ => ⟨_, if_pos htold⟩⟩
    · refine ⟨?_, fun h => absurd (Except.ok.inj h) htold⟩
      rintro ⟨_, h⟩
      exact nomatch (if_neg htold).symm.trans h

/-- The transactions of an answer are not too deep. -/
theorem Answers.depth_le (h : Answers body number txs) : ∀ tx ∈ txs, tx.depth ≤ maxDepth := by
  obtain ⟨_, -, _, _, -, -, -, ⟨_, -, -, -, htxs⟩, -⟩ := h
  intro tx htx
  rcases htxs with ⟨items, -, hitems⟩ | ⟨rfl, -⟩
  · exact (Json.depth_le_itemsDepth htx).trans (Items.depth_le_of_take hitems)
  · exact absurd htx List.not_mem_nil

/-- Transactions are handed on as canonical texts. -/
theorem Answers.isCanonical (h : Answers body number txs) {tx : Json} (htx : tx ∈ txs)
    (hkeys : tx.KeysDiffer) (hnumbers : tx.AllNumbers Number.IsWord) :
    Json.IsCanonical (Utf8.encode tx.sorted.render) tx :=
  Json.isCanonical_sorted hnumbers ⟨hkeys, (h.depth_le tx htx).trans (by decide)⟩

/-- The same transactions are handed on as the same texts. -/
theorem render_eq_of_same {txs' : List Json} (h : Json.SameItems txs txs')
    (hkeys : ∀ tx ∈ txs, tx.KeysDiffer) :
    (txs.map fun tx => tx.sorted.render) = txs'.map fun tx => tx.sorted.render := by
  have hsorted := h.sorted_eq (Json.itemsAllKeys_iff.2 hkeys)
  rw [Json.sortedItems_eq_map, Json.sortedItems_eq_map] at hsorted
  have htexts := congrArg (List.map Json.render) hsorted
  rw [List.map_map, List.map_map] at htexts
  exact htexts

/-! ## Errors -/

/-- A node answers with an error: a member of the answer by that name is not null, or the
    second item of an answer that is written as an array. -/
def TellsError : Doc → Prop
  | .object members => ∃ error, members.Holds "error" error ∧ error ≠ .null
  | .array (.cons _ (.cons error _)) => error ≠ .null
  | _ => False

variable {α : Type} {c : Codec α}

/-- What is read of an answer with an error has that error. -/
theorem error_of_decode {answer : Answer α} (h : TellsError d)
    (hdecode : (Answer.codec c).decode .ofText d = .ok answer) :
    ∃ error, answer.error = some error := by
  cases d with
  | object members =>
    obtain ⟨error, hholds, hnull⟩ := h
    have hnames : (Fields.cons (.optional "result" (.option c) none) <|
        .cons (.optional "error" (.option .value) none) .nil).names.Nodup := by
      change ["result", "error"].Nodup
      decide
    obtain ⟨hsound, ⟨result, told, _⟩, ⟨-, htold, -⟩, rfl⟩ :=
      (Codec.decode_object_eq_ok_iff rfl hnames).1 hdecode
    change (Field.optional "error" (.option .value) none).Has ⟨.text, 126⟩
      (members.get? "error") told at htold
    have hname : "error" ∈ ["result", "error"] := by decide
    rw [hsound.get?_of_holds hname hholds] at htold
    obtain ⟨j, -, hj⟩ := ok_of_map ((Codec.decode_option hnull).symm.trans htold)
    exact ⟨j, hj.symm⟩
  | array items =>
    obtain ⟨r', hr, hrow⟩ := ok_of_bind hdecode
    cases items with
    | closed => exact h.elim
    | cut fault => exact h.elim
    | cons first rest =>
      cases rest with
      | closed => exact h.elim
      | cut fault => exact h.elim
      | cons error rest =>
        obtain ⟨row, hrow, hanswer⟩ := ok_of_bind hrow
        obtain ⟨result, -, hrow⟩ := ok_of_bind hrow
        obtain ⟨others, hothers, hrow⟩ := ok_of_bind hrow
        obtain ⟨told, htold, hothers⟩ := ok_of_bind hothers
        obtain ⟨_, -, hothers⟩ := ok_of_bind hothers
        cases hothers
        cases hrow
        cases hanswer
        obtain ⟨j, -, hj⟩ := ok_of_map ((Codec.decode_option h).symm.trans htold)
        exact ⟨j, hj.symm⟩
  | _ => exact h.elim

/-- An answer with an error gives neither a block nor a height, whatever else it holds. -/
theorem refuses_error {ended : Bool} (hread : Doc.read body = (d, ended)) (h : TellsError d) :
    (∃ failure, readBlock body = .error failure) ∧ ∃ failure, readHead body = .error failure := by
  have hanswer {α : Type} {c : Codec α} {answer : Answer α}
      (hdecode : (Answer.codec c).ofAnswer body = .ok answer) :
      ∃ error, answer.error = some error := by
    obtain ⟨d', hd, hdecode⟩ := Codec.ofAnswer_eq_ok_iff.1 hdecode
    rw [hread] at hd
    cases hd
    exact error_of_decode h hdecode
  constructor
  · cases hblock : readBlock body with
    | error failure => exact ⟨failure, rfl⟩
    | ok block =>
      obtain ⟨answer, hdecode, hblock⟩ := ok_of_bind hblock
      obtain ⟨error, herror⟩ := hanswer (mapError_eq_ok_iff.1 hdecode)
      rw [herror] at hblock
      cases hblock
  · cases hhead : readHead body with
    | error failure => exact ⟨failure, rfl⟩
    | ok height =>
      obtain ⟨answer, hdecode, hhead⟩ := ok_of_bind hhead
      obtain ⟨error, herror⟩ := hanswer (mapError_eq_ok_iff.1 hdecode)
      rw [herror] at hhead
      cases hhead

/-! ## All together -/

/-- The height that is asked for is read back from the call, and only an answer with this
    height is taken. The transactions of an answer are handed on one by one, as canonical
    texts that the same transactions in other words have as well. An answer with an error
    is refused. -/
theorem round_trips :
    (∀ (host : String) (height : UInt64), ∃ text, (blockQuery host height).body = some text ∧
      (Codec.only "params" (.list .value)).ofAnswer (Utf8.encode text)
        = .ok [.text (quantity height), .bool true] ∧
      readQuantity (quantity height) = .ok height) ∧
    (∀ (o : Observer) (height : UInt64) (body : Bytes) (number : String) (txs : List Json),
      o.nodeKind = .ethereum → Answers body number txs →
        ((∃ block, o.readBlock height body = .ok block) ↔ readQuantity number = .ok height)) ∧
    (∀ (body : Bytes) (number : String) (txs : List Json) (height : UInt64),
      Answers body number txs → readQuantity number = .ok height →
      (∀ tx ∈ txs, tx.KeysDiffer ∧ tx.AllNumbers Number.IsWord) →
        readBlock body = .ok ⟨height, txs.map fun tx => tx.sorted.render⟩ ∧
          ∀ tx ∈ txs, Json.IsCanonical (Utf8.encode tx.sorted.render) tx) ∧
    (∀ (body body' : Bytes) (number number' : String) (txs txs' : List Json)
      (height height' : UInt64), Answers body number txs → Answers body' number' txs' →
      readQuantity number = .ok height → readQuantity number' = .ok height' →
      (∀ tx ∈ txs, tx.KeysDiffer) → Json.SameItems txs txs' →
        ∃ texts, readBlock body = .ok ⟨height, texts⟩ ∧ readBlock body' = .ok ⟨height', texts⟩) ∧
    ∀ (body : Bytes) (d : Doc) (ended : Bool), Doc.read body = (d, ended) → TellsError d →
      (∃ failure, readBlock body = .error failure) ∧
        ∃ failure, readHead body = .error failure := by
  refine ⟨fun host height => ?_, fun o height body number txs ho h => h.accepts_iff ho,
    fun body number txs height h hnumber htxs => ⟨h.readBlock_ok hnumber, fun tx htx =>
      h.isCanonical htx (htxs tx htx).1 (htxs tx htx).2⟩,
    fun body body' number number' txs txs' height height' h h' hnumber hnumber' hkeys hsame =>
      ⟨_, h.readBlock_ok hnumber, ?_⟩,
    fun body d ended hread herror => refuses_error hread herror⟩
  · obtain ⟨text, hbody, hparameters⟩ := parameters_blockQuery host height
    exact ⟨text, hbody, hparameters, readQuantity_quantity height⟩
  · rw [render_eq_of_same hsame hkeys]
    exact h'.readBlock_ok hnumber'

/-- A transaction, and the same with its members in another order. -/
def transfer : Json := .object [("to", .text "0x01"), ("value", .ofNat 7), ("from", .null)]

def transfer' : Json := .object [("value", .ofNat 7), ("from", .null), ("to", .text "0x01")]

/-- An answer about a block with one transaction. -/
def answerWith (tx : Json) : List (String × Json) :=
  [("jsonrpc", .text "2.0"), ("result", .object [
    ("transactions", .array [tx]), ("number", .text "0x10"), ("miner", .text "0x02")])]

theorem allNumbers_answerWith {tx : Json} (hnumbers : tx.AllNumbers Number.IsWord) :
    (Json.object (answerWith tx)).AllNumbers Number.IsWord :=
  ⟨trivial, ⟨⟨hnumbers, trivial⟩, trivial, trivial, trivial⟩, trivial⟩

theorem answers_answerWith {tx : Json} (hdepth : tx.depth ≤ maxDepth)
    (hnumbers : tx.AllNumbers Number.IsWord) :
    Answers (Utf8.encode (Json.object (answerWith tx)).render) "0x10" [tx] := by
  refine ⟨_, Doc.read_render (allNumbers_answerWith hnumbers), ?_⟩
  have hnames : ["transactions", "number"].Nodup := by decide
  refine ⟨_, _, rfl, Members.sound_ofJson (List.nodup_singleton "result"), rfl, ⟨_, rfl,
    Members.sound_ofJson hnames, rfl, .inl ⟨_, rfl, ?_⟩⟩, .inl rfl⟩
  exact Items.take_ofJson (Nat.max_le.2 ⟨hdepth, Nat.zero_le _⟩)

/-- The second answer has its members on lines of their own. -/
theorem round_trips_transfer :
    (∃ texts, readBlock (Utf8.encode (Json.object (answerWith transfer)).render)
        = .ok ⟨16, texts⟩ ∧
      readBlock (Utf8.encode (Json.renderLines (answerWith transfer'))) = .ok ⟨16, texts⟩) ∧
    Json.IsCanonical (Utf8.encode transfer.sorted.render) transfer := by
  have hnumbers : transfer.AllNumbers Number.IsWord :=
    ⟨trivial, ⟨by decide, by decide⟩, trivial, trivial⟩
  have hnumbers' : transfer'.AllNumbers Number.IsWord :=
    ⟨⟨by decide, by decide⟩, trivial, trivial, trivial⟩
  have hkeys : transfer.KeysDiffer := ⟨by decide, trivial, trivial, trivial, trivial⟩
  have h := answers_answerWith (by decide) hnumbers
  have h' := (answers_answerWith (by decide) hnumbers').of_hasText
    (Json.hasText_renderLines _) (allNumbers_answerWith hnumbers')
  have hsame : transfer.Same transfer' :=
    .object (.cons (.text _) (.cons (.number _) (.cons .null .nil)))
      (List.perm_append_singleton _ _).symm
  obtain ⟨-, -, hcanonical, htexts, -⟩ := round_trips
  refine ⟨htexts _ _ _ _ _ _ 16 16 h h' rfl rfl ?_ (.cons hsame .nil),
    (hcanonical _ _ _ 16 h rfl ?_).2 transfer List.mem_cons_self⟩
  · exact List.forall_mem_singleton.2 hkeys
  · exact List.forall_mem_singleton.2 ⟨hkeys, hnumbers⟩

end Ethereum

end ChainRelay
