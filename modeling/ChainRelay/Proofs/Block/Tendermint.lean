import ChainRelay.Block.Tendermint
import ChainRelay.Proofs.Json.Members
import ChainRelay.Proofs.Text.Base64

/-!
# Blocks of Tendermint nodes are read faithfully

An answer is a few objects in each other, in which a node may tell more than what is
looked at (`Answers`). The height and the transactions in it are those of the block
that is read, each transaction with its bytes in other digits. The chain head is read
from the same answers, and the two never disagree on the height: where there is a chain
head there is a block, unless some transaction is not the Base64 text of any bytes
(`reads_faithfully`).
-/

namespace ChainRelay.Tendermint

/-! ## Transactions -/

/-- The failure to read a transaction of a block. -/
def unreadable (height : UInt64) (tx : String) : Failure :=
  (Failure.of .base64).within
    ("fail to decode tx " ++ Quoted.ofText tx ++ " in block " ++ Numeral.ofWord height)

theorem readTransactions_encode (height : UInt64) (txs : List Bytes) :
    readTransactions height (txs.map Base64.encode) = .ok (txs.map Hex.lower) := by
  induction txs with
  | nil => rfl
  | cons tx txs ih =>
    simp only [List.map_cons, readTransactions, Base64.decode?_eq_some_iff.2 rfl, ih]
    rfl

/-- Transactions are read all or none: none if one of them is not the text of any bytes,
    and of these the first is told. -/
theorem readTransactions_cases (height : UInt64) (texts : List String) :
    (∃ txs : List Bytes, texts = txs.map Base64.encode) ∨
      ∃ tx ∈ texts, (∀ bytes, tx ≠ Base64.encode bytes) ∧
        readTransactions height texts = .error (unreadable height tx) := by
  induction texts with
  | nil => exact .inl ⟨[], rfl⟩
  | cons tx texts ih =>
    cases hdecode : Base64.decode? tx with
    | none =>
      refine .inr ⟨tx, List.mem_cons_self, fun bytes htx => ?_, ?_⟩
      · rw [Base64.decode?_eq_some_iff.2 htx] at hdecode
        cases hdecode
      · rw [readTransactions, hdecode]
        rfl
    | some bytes =>
      obtain rfl := Base64.decode?_eq_some_iff.1 hdecode
      rcases ih with ⟨txs, rfl⟩ | ⟨bad, hbad, hno, herror⟩
      · exact .inl ⟨bytes :: txs, rfl⟩
      · refine .inr ⟨bad, List.mem_cons_of_mem _ hbad, hno, ?_⟩
        rw [readTransactions, hdecode, herror]
        rfl

/-! ## Height and transactions of one answer -/

variable {body : Bytes} {height : UInt64}

/-- The chain head is the height of an answer. -/
theorem readHead_eq_ok_iff :
    readHead body = .ok height ↔
      ∃ answer, Answer.codec.ofAnswer body = .ok answer ∧
        Numeral.readDecimal answer.height = .ok height := by
  rw [readHead, bind_eq_ok_iff]
  simp only [mapError_eq_ok_iff]
  refine exists_congr fun answer => and_congr_right fun _ => ?_
  cases Numeral.readDecimal answer.height with
  | error fault => exact ⟨nofun, nofun⟩
  | ok _ => exact ⟨fun h => congrArg _ (Except.ok.inj h), fun h => congrArg _ (Except.ok.inj h)⟩

/-- The block of an answer with a height. -/
theorem readBlock_of_answer {answer : Answer} (h : Answer.codec.ofAnswer body = .ok answer)
    (hheight : Numeral.readDecimal answer.height = .ok height) :
    readBlock body =
      (readTransactions height (answer.transactions.getD [])).map (⟨height, ·⟩) := by
  rw [readBlock, h]
  simp only [Except.mapError, bind, Except.bind, hheight]
  cases readTransactions height (answer.transactions.getD []) <;> rfl

/-- A block is one of an answer with its height. -/
theorem answer_of_readBlock {block : Block} (h : readBlock body = .ok block) :
    ∃ answer, Answer.codec.ofAnswer body = .ok answer ∧
      Numeral.readDecimal answer.height = .ok block.height := by
  rw [readBlock, bind_eq_ok_iff] at h
  obtain ⟨answer, hanswer, h⟩ := h
  refine ⟨answer, mapError_eq_ok_iff.1 hanswer, ?_⟩
  cases hheight : Numeral.readDecimal answer.height with
  | error fault =>
    rw [hheight] at h
    cases h
  | ok height =>
    rw [hheight] at h
    obtain ⟨txs, -, h⟩ := ok_of_bind h
    cases h
    rfl

/-! ## What an answer shows -/

/-- An object shows its member with a name, if that comes once and all others can be
    passed over. -/
def Shows (name : String) (p : Doc → Prop) (d : Doc) : Prop :=
  ∃ members d', d = .object members ∧ members.Sound [name] false ∧
    members.get? name = some d' ∧ p d'

/-- The data of a block shows its transactions. Without any, they may be left out. -/
def ShowsTransactions (txs : List Bytes) (d : Doc) : Prop :=
  ∃ members, d = .object members ∧ members.Sound ["txs"] false ∧
    (members.get? "txs" = some (Doc.ofJson (.array (txs.map fun tx => .text (Base64.encode tx))))
      ∨ txs = [] ∧ (members.get? "txs" = none ∨ members.get? "txs" = some .null))

/-- An answer shows the height and the transactions of a block. -/
def ShowsBlock (height : UInt64) (txs : List Bytes) : Doc → Prop :=
  Shows "result" <| Shows "block" fun d =>
    ∃ members header, d = .object members ∧ members.Sound ["header", "data"] false ∧
      members.get? "header" = some header ∧
      Shows "height" (· = .text (.whole (Numeral.ofWord height))) header ∧
      ((∃ data, members.get? "data" = some data ∧ ShowsTransactions txs data) ∨
        txs = [] ∧ members.get? "data" = none)

/-- The bytes are an answer that shows the height and the transactions of a block. -/
def Answers (body : Bytes) (height : UInt64) (txs : List Bytes) : Prop :=
  ∃ d, Doc.read body = (d, true) ∧ ShowsBlock height txs d

variable {r : Reading} {d : Doc}

/-- What is shown is read. -/
theorem Shows.decode {α : Type} {name : String} {p : Doc → Prop} {q : α → Prop} {c : Codec α}
    {r' : Reading} (h : Shows name p d) (hr : r.enter = .ok r')
    (hc : ∀ d', p d' → ∃ x, c.decode r' d' = .ok x ∧ q x) :
    ∃ x, (nested name c).decode r d = .ok x ∧ q x := by
  obtain ⟨members, d', rfl, hsound, hget, hp⟩ := h
  obtain ⟨x, hx, hq⟩ := hc d' hp
  exact ⟨x, (Codec.decode_only_eq_ok_iff hr).2 ⟨hsound, d', hget, hx⟩, hq⟩

theorem ShowsTransactions.decode {txs : List Bytes} {r' r'' : Reading}
    (h : ShowsTransactions txs d) (hr : r.enter = .ok r') (hr' : r'.enter = .ok r'') :
    ∃ texts, dataCodec.decode r d = .ok texts ∧ texts.getD [] = txs.map Base64.encode := by
  obtain ⟨members, rfl, hsound, h⟩ := h
  have hnames : (Fields.cons (.optional "txs" (.option (.list .text)) none) .nil).names.Nodup :=
    List.nodup_singleton "txs"
  have hdecode {texts : Option (List String)}
      (htexts : (Field.optional "txs" (.option (.list .text)) none).Has r'
        (members.get? "txs") texts) :
      dataCodec.decode r (.object members) = .ok texts :=
    (Codec.decode_object_eq_ok_iff hr hnames).2 ⟨hsound, (texts, ()), And.intro htexts trivial, rfl⟩
  rcases h with hget | ⟨rfl, hget | hget⟩
  · refine ⟨some (txs.map Base64.encode), hdecode ?_, rfl⟩
    rw [hget]
    have hlist : (Codec.list .text).decode r'
        (Doc.ofJson (.array (txs.map fun tx => .text (Base64.encode tx))))
          = .ok (txs.map Base64.encode) := Codec.decode_list hr' fun _ _ => rfl
    change ((Codec.list .text).decode r' _).map some = _
    rw [hlist]
    rfl
  · refine ⟨none, hdecode ?_, rfl⟩
    rw [hget]
    rfl
  · refine ⟨none, hdecode ?_, rfl⟩
    rw [hget]
    rfl

theorem ShowsBlock.decode {txs : List Bytes} (h : ShowsBlock height txs d) :
    ∃ answer, Answer.codec.decode .ofText d = .ok answer ∧
      answer.height = Numeral.ofWord height ∧
      answer.transactions.getD [] = txs.map Base64.encode := by
  refine Shows.decode h rfl fun result hresult => Shows.decode hresult rfl ?_
  rintro _ ⟨members, header, rfl, hsound, hheader, hheight, hdata⟩
  obtain ⟨_, hdecode, rfl⟩ := hheight.decode (c := .text) (q := (· = Numeral.ofWord height))
    (r := ⟨.text, 124⟩) rfl (by rintro _ rfl; exact ⟨_, rfl, rfl⟩)
  have hnames : (Fields.cons (.required "header" (nested "height" .text)) <|
      .cons (.optional "data" dataCodec none) .nil).names.Nodup := by decide
  obtain ⟨texts, hhas, htexts⟩ : ∃ texts,
      (Field.optional "data" dataCodec none).Has ⟨.text, 124⟩ (members.get? "data") texts ∧
        texts.getD [] = txs.map Base64.encode := by
    rcases hdata with ⟨data, hget, hdata⟩ | ⟨rfl, hget⟩
    · rw [hget]
      exact hdata.decode rfl rfl
    · rw [hget]
      exact ⟨none, rfl, rfl⟩
  refine ⟨⟨Numeral.ofWord height, texts⟩, ?_, rfl, htexts⟩
  refine (Codec.decode_object_eq_ok_iff rfl hnames).2
    ⟨hsound, (Numeral.ofWord height, texts, ()), And.intro ?_ (And.intro hhas trivial), rfl⟩
  rw [Field.required, hheader]
  exact hdecode

/-- The block that an answer shows is the one that is read. -/
theorem Answers.readBlock_ok {txs : List Bytes} (h : Answers body height txs) :
    readBlock body = .ok ⟨height, txs.map Hex.lower⟩ := by
  obtain ⟨d, hread, h⟩ := h
  obtain ⟨answer, hanswer, hheight, htxs⟩ := h.decode
  have hdecimal : Numeral.readDecimal answer.height = .ok height := by
    rw [hheight, Numeral.readDecimal_ofWord]
  rw [readBlock_of_answer (Codec.ofAnswer_eq_ok_iff.2 ⟨d, hread, hanswer⟩) hdecimal, htxs,
    readTransactions_encode]
  rfl

/-! ## Two readings of one answer -/

/-- A block has the height of the chain head in the same answer. -/
theorem readHead_of_readBlock {block : Block} (h : readBlock body = .ok block) :
    readHead body = .ok block.height :=
  readHead_eq_ok_iff.2 (answer_of_readBlock h)

/-- With a chain head there is a block, but for a transaction that stands for no bytes. -/
theorem readBlock_of_readHead (h : readHead body = .ok height) :
    ∃ answer, Answer.codec.ofAnswer body = .ok answer ∧
      ((∃ txs : List Bytes, answer.transactions.getD [] = txs.map Base64.encode ∧
          readBlock body = .ok ⟨height, txs.map Hex.lower⟩) ∨
        ∃ tx ∈ answer.transactions.getD [], (∀ bytes, tx ≠ Base64.encode bytes) ∧
          readBlock body = .error (unreadable height tx)) := by
  obtain ⟨answer, hanswer, hheight⟩ := readHead_eq_ok_iff.1 h
  refine ⟨answer, hanswer, ?_⟩
  rw [readBlock_of_answer hanswer hheight]
  rcases readTransactions_cases height (answer.transactions.getD []) with
    ⟨txs, htxs⟩ | ⟨tx, htx, hno, herror⟩
  · refine .inl ⟨txs, htxs, ?_⟩
    rw [htxs, readTransactions_encode]
    rfl
  · refine .inr ⟨tx, htx, hno, ?_⟩
    rw [herror]
    rfl

/-- What an answer shows is read. Of every body at all, the two readings agree on the
    height, and they part only over a transaction that is not the Base64 text of any
    bytes; then none is handed on. -/
theorem reads_faithfully :
    (∀ (body : Bytes) (height : UInt64) (txs : List Bytes), Answers body height txs →
      readBlock body = .ok ⟨height, txs.map Hex.lower⟩) ∧
    (∀ (body : Bytes) (block : Block), readBlock body = .ok block →
      readHead body = .ok block.height) ∧
    ∀ (body : Bytes) (height : UInt64), readHead body = .ok height →
      ∃ answer, Answer.codec.ofAnswer body = .ok answer ∧
        ((∃ txs : List Bytes, answer.transactions.getD [] = txs.map Base64.encode ∧
            readBlock body = .ok ⟨height, txs.map Hex.lower⟩) ∨
          ∃ tx ∈ answer.transactions.getD [], (∀ bytes, tx ≠ Base64.encode bytes) ∧
            readBlock body = .error (unreadable height tx)) :=
  ⟨fun _ _ _ h => h.readBlock_ok, fun _ _ => readHead_of_readBlock,
    fun _ _ => readBlock_of_readHead⟩

/-- An answer about a block with two transactions. -/
def recorded : Json :=
  .object [("jsonrpc", .text "2.0"), ("result", .object [
    ("block_meta", .null),
    ("block", .object [
      ("data", .object [("txs", .array [.text "AQID", .text "/w=="])]),
      ("header", .object [("chain_id", .text "Binance-Chain-Tigris"), ("height", .text "12")])])])]

theorem reads_recorded :
    readBlock (Utf8.encode recorded.render) = .ok ⟨12, ["010203", "ff"]⟩ ∧
      readHead (Utf8.encode recorded.render) = .ok 12 := by
  have hnumbers : recorded.HasNoNumber := by
    simp [recorded, Json.HasNoNumber, Json.HaveNoNumber, Json.MembersHaveNoNumber]
  have hanswers : Answers (Utf8.encode recorded.render) 12 [[1, 2, 3], [255]] := by
    refine ⟨_, Doc.read_render hnumbers.allNumbers, ?_⟩
    refine ⟨_, _, rfl, Members.sound_ofJson (by decide), rfl,
      ⟨_, _, rfl, Members.sound_ofJson (by decide), rfl, ?_⟩⟩
    refine ⟨_, _, rfl, Members.sound_ofJson (by decide), rfl,
      ⟨_, _, rfl, Members.sound_ofJson (by decide), rfl, rfl⟩, .inl ⟨_, rfl, ?_⟩⟩
    exact ⟨_, rfl, Members.sound_ofJson (by decide), .inl rfl⟩
  have hblock := reads_faithfully.1 _ _ _ hanswers
  exact ⟨hblock, reads_faithfully.2.1 _ _ hblock⟩

end ChainRelay.Tendermint
