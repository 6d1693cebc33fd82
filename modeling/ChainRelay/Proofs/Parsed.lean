import ChainRelay.Asset
import ChainRelay.Proofs.Crypto.Points
import ChainRelay.Proofs.Text.Checksum
import ChainRelay.Proofs.Text.Numeral
import ChainRelay.Proofs.Text.Uppercase
import ChainRelay.PublicKey
import ChainRelay.TxId

/-!
# Texts of parsed ids, assets and keys

Parsers bring ids and assets into one form: digits and symbols in upper case, no marks.
In that form (`TxId.IsParsed`, `Asset.IsParsed`) their texts are parsed as what they
were written of (`TxId.parse_text`, `Asset.parse_text`). Keys have one form only, so
every key is parsed from its text (`PublicKey.parse_text`).
-/

namespace ChainRelay

/-! ## Ids -/

namespace TxId

/-- The id comes from a text. -/
def IsParsed (t : TxId) : Prop := ∃ s, parse s = .ok t

/-- A digit in upper case is a digit in upper case, and is no part of a mark. -/
theorem toUpper_digit : ∀ c, (Numeral.digit? 16 c).isSome = true →
    (Numeral.digit? 16 c.toUpper).isSome = true ∧ c.toUpper ≠ 'x' ∧
      c.toUpper.toUpper = c.toUpper :=
  Numeral.forall_digit? (by decide)

theorem dropMarks_of_forall_ne {cs : List Char} (h : ∀ c ∈ cs, c ≠ 'x') : dropMarks cs = cs := by
  rw [dropMarks]
  rintro rest rfl
  exact h 'x' (by simp) rfl

/-- An id is parsed from its text. -/
theorem parse_text {t : TxId} (h : t.IsParsed) : parse t.text = .ok t := by
  obtain ⟨s, hs⟩ := h
  simp only [parse] at hs
  split_ifs at hs with hempty hdigits
  cases hs
  have hupper : ∀ c ∈ dropMarks s.toList, _ := fun c hc =>
    toUpper_digit c (List.all_eq_true.1 hdigits c hc)
  -- No mark is left to be dropped, and upper-casing the digits again changes nothing.
  have hmarks : dropMarks ((dropMarks s.toList).map Char.toUpper)
      = (dropMarks s.toList).map Char.toUpper :=
    dropMarks_of_forall_ne (List.forall_mem_map.2 fun c hc => (hupper c hc).2.1)
  have hall : ((dropMarks s.toList).map Char.toUpper).all
      (fun c => (Numeral.digit? 16 c).isSome) = true :=
    List.all_eq_true.2 (List.forall_mem_map.2 fun c hc => (hupper c hc).1)
  have hagain : ((dropMarks s.toList).map Char.toUpper).map Char.toUpper
      = (dropMarks s.toList).map Char.toUpper := by
    rw [List.map_map]
    exact List.map_congr_left fun c hc => (hupper c hc).2.2
  rw [parse]
  simp only [String.toList_ofList, hmarks]
  rw [if_neg (by simpa using hempty), if_pos hall, hagain]

end TxId

/-! ## Assets -/

theorem Chain.ofName?_symbol (chain : Chain) : Chain.ofName? chain.symbol = some chain := by
  cases chain <;> decide +kernel

theorem Chain.ne_point_of_mem_symbol (chain : Chain) : ∀ c ∈ chain.symbol.toList, c ≠ '.' := by
  cases chain <;> simp [symbol]

namespace Asset

/-- The asset comes from a text. -/
def IsParsed (a : Asset) : Prop := ∃ s, parse s = .ok a

/-- The symbol of an asset that was parsed is some text in upper case. -/
theorem IsParsed.exists_symbol {a : Asset} (h : a.IsParsed) :
    ∃ s, s ≠ "" ∧ a.symbol = Uppercase.ofText s := by
  obtain ⟨s, hs⟩ := h
  rw [parse] at hs
  dsimp only at hs
  split at hs
  · cases hs
  · cases hs
  · next c symbol hne _ =>
    split at hs
    · cases hs
    · cases hs
      exact ⟨String.ofList symbol, fun hempty => hne (String.ofList_eq_empty_iff.1 hempty), rfl⟩

/-- A symbol after a chain and a point is parsed as such. -/
theorem parse_append (chain : Chain) {symbol : String} (h : symbol ≠ "") :
    parse (chain.symbol ++ "." ++ symbol) = .ok (ofSymbol chain symbol) := by
  have hpoint : ∀ c ∈ chain.symbol.toList, decide (c ≠ '.') = true := fun c hc =>
    decide_eq_true (chain.ne_point_of_mem_symbol c hc)
  obtain ⟨c, cs, hcs⟩ := List.exists_cons_of_ne_nil fun hs => h (String.toList_eq_nil_iff.1 hs)
  have htext : (chain.symbol ++ "." ++ symbol).toList
      = chain.symbol.toList ++ '.' :: c :: cs := by
    rw [String.toList_append, String.toList_append, hcs, List.append_assoc]
    rfl
  have hsymbol : String.ofList (c :: cs) = symbol := by rw [← hcs, String.ofList_toList]
  rw [parse, htext]
  simp only [List.dropWhile_append_of_pos hpoint, List.takeWhile_append_of_pos hpoint]
  simp [String.ofList_toList, Chain.ofName?_symbol, hsymbol]

/-- An asset is parsed from its text. -/
theorem parse_text {a : Asset} (h : a.IsParsed) : parse a.text = .ok a := by
  obtain ⟨chain, symbol⟩ := a
  obtain ⟨s, hs, rfl⟩ := h.exists_symbol
  rw [text, parse_append chain (Uppercase.ofText_ne_empty hs), ofSymbol, Uppercase.ofText_ofText]

end Asset

/-! ## Keys -/

namespace PublicKey

/-- A key is read from its bytes. -/
theorem ofBytes_bytes (k : PublicKey) : ofBytes k.bytes = .ok k := by
  rw [ofBytes, bytes, Secp256k1.Point.ofBytes?_compressed]

theorem length_bytes (k : PublicKey) : k.bytes.length = 33 := by
  simp [bytes, Secp256k1.Point.compressed, Sha256.bigEndian]

theorem length_text (k : PublicKey) : k.text.toList.length = 67 := by
  rw [text, Bech32.length_encode, length_bytes]
  rfl

/-- A key is parsed from its text. -/
theorem parse_text (k : PublicKey) : parse k.text = .ok k := by
  have hdecode : Bech32.decode (Bech32.encode label k.bytes) = .ok (label, k.bytes) :=
    Bech32.decode_encode (by decide) (by decide) (k.length_text.trans_le (by decide))
  rw [parse, text, hdecode]
  exact (if_pos rfl).trans k.ofBytes_bytes

end PublicKey

end ChainRelay
