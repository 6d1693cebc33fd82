import ChainRelay.Proofs.Parsed
import Mathlib.Data.List.TakeWhile

/-!
# How assets are written

A text is divided at its first point into a name and a symbol (`Asset.Divided`). It is an
asset exactly if the name is one of a chain, in any case, and the symbol is not empty
(`Asset.parse_eq_ok_iff`). Points and dashes in the symbol stay there. As upper-casing
twice is the same as upper-casing once, all texts of an asset have one normal form, which
is the text that is written of it (`Asset.normal_form`).
-/

namespace ChainRelay

/-! ## Names of chains -/

namespace Chain

/-- The names of a chain in upper case: its symbol, and the long name of one chain. -/
def names : Chain → List String
  | bnb => ["BNB"]
  | thor => ["THOR", "THORCHAIN"]
  | eth => ["ETH"]
  | btc => ["BTC"]

theorem ofUpper?_eq_some_iff {s : String} {chain : Chain} :
    ofUpper? s = some chain ↔ s ∈ chain.names := by
  constructor
  · intro h
    rw [ofUpper?] at h
    split_ifs at h with hlong
    · cases h
      simp [names, hlong]
    · unfold ofSymbol? at h
      split at h <;> cases h <;> simp [names]
  · intro h
    cases chain with
    | thor =>
      rcases List.mem_pair.1 h with rfl | rfl
      · rfl
      · rfl
    | bnb | eth | btc =>
      cases List.mem_singleton.1 h
      rfl

/-- A chain is the one that a text names in upper case. -/
theorem ofName?_eq_some_iff {s : String} {chain : Chain} :
    ofName? s = some chain ↔ Uppercase.ofText s ∈ chain.names := ofUpper?_eq_some_iff

/-- No two chains share a name. -/
theorem eq_of_mem_names {s : String} {chain chain' : Chain} (h : s ∈ chain.names)
    (h' : s ∈ chain'.names) : chain = chain' :=
  Option.some.inj ((ofUpper?_eq_some_iff.2 h).symm.trans (ofUpper?_eq_some_iff.2 h'))

/-- All names of chains. -/
theorem exists_mem_names_iff {s : String} :
    (∃ chain : Chain, s ∈ chain.names) ↔ s ∈ ["BNB", "THOR", "THORCHAIN", "ETH", "BTC"] := by
  constructor
  · rintro ⟨chain, h⟩
    cases chain <;> simp only [names, List.mem_cons, List.not_mem_nil, or_false] at h ⊢ <;> tauto
  · simp only [List.mem_cons, List.not_mem_nil, or_false]
    rintro (rfl | rfl | rfl | rfl | rfl)
    · exact ⟨bnb, by decide⟩
    · exact ⟨thor, by decide⟩
    · exact ⟨thor, by decide⟩
    · exact ⟨eth, by decide⟩
    · exact ⟨btc, by decide⟩

end Chain

namespace Asset

variable {s s' name name' symbol symbol' : String} {a a' : Asset}

/-! ## Texts divided at a point -/

/-- A text is divided at its first point. -/
structure Divided (s name symbol : String) : Prop where
  /-- The parts of the text. -/
  text : s = name ++ "." ++ symbol
  /-- There is no point before that. -/
  first : '.' ∉ name.toList

namespace Divided

theorem toList (h : Divided s name symbol) : s.toList = name.toList ++ '.' :: symbol.toList := by
  rw [h.text, String.toList_append, String.toList_append, List.append_assoc]
  rfl

theorem takeWhile (h : Divided s name symbol) :
    s.toList.takeWhile (· ≠ '.') = name.toList := by
  rw [h.toList, List.takeWhile_append_of_pos fun c hc =>
    decide_eq_true (ne_of_mem_of_not_mem hc h.first)]
  simp

theorem dropWhile (h : Divided s name symbol) :
    s.toList.dropWhile (· ≠ '.') = '.' :: symbol.toList := by
  rw [h.toList, List.dropWhile_append_of_pos fun c hc =>
    decide_eq_true (ne_of_mem_of_not_mem hc h.first)]
  simp

/-- What follows the characters before the first point starts with the point. -/
theorem of_dropWhile {c : Char} {cs : List Char}
    (h : s.toList.dropWhile (· ≠ '.') = c :: cs) :
    Divided s (String.ofList (s.toList.takeWhile (· ≠ '.'))) (String.ofList cs) := by
  have hpoint : c = '.' := by
    have hnot := List.head_dropWhile_not (fun c => decide (c ≠ '.')) (h ▸ List.cons_ne_nil c cs)
    simp only [h, List.head_cons] at hnot
    simpa using hnot
  refine ⟨String.toList_injective ?_, ?_⟩
  · have hall := List.takeWhile_append_dropWhile (p := fun c => decide (c ≠ '.')) (l := s.toList)
    rw [h, hpoint] at hall
    simp only [String.toList_append, String.toList_ofList, List.append_assoc]
    exact hall.symm
  · intro hmem
    rw [String.toList_ofList] at hmem
    have hne := List.mem_takeWhile_imp hmem
    exact of_decide_eq_true hne rfl

/-- A text is divided in one way. -/
theorem unique (h : Divided s name symbol) (h' : Divided s name' symbol') :
    name = name' ∧ symbol = symbol' :=
  ⟨String.toList_injective (h.takeWhile.symm.trans h'.takeWhile),
    String.toList_injective (List.cons.inj (h.dropWhile.symm.trans h'.dropWhile)).2⟩

end Divided

/-! ## Parsing -/

/-- A text that is divided is parsed by its parts. -/
theorem parse_of_divided (h : Divided s name symbol) (hsymbol : symbol ≠ "") :
    parse s =
      match Chain.ofName? name with
      | none => .error (.unknownChain name)
      | some chain => .ok (ofSymbol chain symbol) := by
  obtain ⟨c, cs, hcs⟩ := List.exists_cons_of_ne_nil fun hnil =>
    hsymbol (String.toList_eq_nil_iff.1 hnil)
  have hback : String.ofList (c :: cs) = symbol := by rw [← hcs, String.ofList_toList]
  have hdrop := h.dropWhile
  rw [hcs] at hdrop
  rw [parse]
  cases hname : Chain.ofName? name with
  | none => simp only [hdrop, h.takeWhile, String.ofList_toList, hname]
  | some chain => simp only [hdrop, h.takeWhile, String.ofList_toList, hname, hback]

/-- A text is an asset exactly if it is divided into the name of the asset's chain and a
    symbol of it. -/
theorem parse_eq_ok_iff :
    parse s = .ok a ↔ ∃ name symbol, Divided s name symbol ∧
      Uppercase.ofText name ∈ a.chain.names ∧ symbol ≠ "" ∧
        a.symbol = Uppercase.ofText symbol := by
  constructor
  · intro h
    have hparse := h
    rw [parse] at hparse
    dsimp only at hparse
    split at hparse
    · cases hparse
    · cases hparse
    · next c cs hne hdrop =>
      -- The parts are those before and behind the first point.
      have hdivided := Divided.of_dropWhile hdrop
      have hsymbol : String.ofList cs ≠ "" := fun hempty =>
        hne (String.ofList_eq_empty_iff.1 hempty)
      rw [parse_of_divided hdivided hsymbol] at h
      split at h
      · cases h
      · next chain hchain =>
        cases h
        exact ⟨_, _, hdivided, Chain.ofName?_eq_some_iff.1 hchain, hsymbol, rfl⟩
  · rintro ⟨name, symbol, hdivided, hname, hsymbol, hupper⟩
    rw [parse_of_divided hdivided hsymbol, Chain.ofName?_eq_some_iff.2 hname]
    change Except.ok (ofSymbol a.chain symbol) = _
    rw [ofSymbol, ← hupper]

/-- The parts of a text of an asset. -/
theorem parts_of_parse (h : parse s = .ok a) (hdivided : Divided s name symbol) :
    Uppercase.ofText name ∈ a.chain.names ∧ a.symbol = Uppercase.ofText symbol := by
  obtain ⟨name', symbol', hdivided', hname, -, hupper⟩ := parse_eq_ok_iff.1 h
  obtain ⟨rfl, rfl⟩ := hdivided.unique hdivided'
  exact ⟨hname, hupper⟩

/-- Assets are the same exactly if their texts name one chain, and symbols that are the same
    in upper case. -/
theorem eq_iff_of_parse (h : parse s = .ok a) (h' : parse s' = .ok a')
    (hdivided : Divided s name symbol) (hdivided' : Divided s' name' symbol') :
    a = a' ↔
      (∃ chain : Chain, Uppercase.ofText name ∈ chain.names ∧
        Uppercase.ofText name' ∈ chain.names) ∧
      Uppercase.ofText symbol = Uppercase.ofText symbol' := by
  obtain ⟨hname, hupper⟩ := parts_of_parse h hdivided
  obtain ⟨hname', hupper'⟩ := parts_of_parse h' hdivided'
  constructor
  · rintro rfl
    exact ⟨⟨a.chain, hname, hname'⟩, hupper.symm.trans hupper'⟩
  · rintro ⟨⟨chain, hchain, hchain'⟩, hsame⟩
    obtain ⟨chain₁, symbol₁⟩ := a
    obtain ⟨chain₂, symbol₂⟩ := a'
    rw [Asset.mk.injEq]
    exact ⟨(Chain.eq_of_mem_names hname hchain).trans (Chain.eq_of_mem_names hchain' hname'),
      hupper.trans (hsame.trans hupper'.symm)⟩

/-! ## Tickers -/

/-- The ticker is the longest part at the start of the symbol that has no dash. -/
theorem ticker_longest (a : Asset) :
    a.ticker.toList <+: a.symbol.toList ∧ '-' ∉ a.ticker.toList ∧
      ∀ cs, cs <+: a.symbol.toList → '-' ∉ cs → cs <+: a.ticker.toList := by
  rw [ticker, String.toList_ofList]
  refine ⟨List.takeWhile_prefix _, fun hmem => ?_, ?_⟩
  · have hne := List.mem_takeWhile_imp hmem
    exact of_decide_eq_true hne rfl
  · rintro cs ⟨rest, hrest⟩ hcs
    rw [← hrest, List.takeWhile_append_of_pos fun c hc =>
      decide_eq_true (ne_of_mem_of_not_mem hc hcs)]
    exact List.prefix_append _ _

/-! ## All together -/

/-- A text is an asset exactly if the part before its first point is the name of a chain
    in upper case and the part behind it is not empty. The text of an asset is the symbol of
    its chain, a point and its symbol in upper case; it is parsed as the same asset, so it
    is its own normal form. Texts are of one asset exactly if they agree on the chain and on
    the symbol in upper case. The ticker is the longest part without a dash at the start
    of the symbol. -/
theorem normal_form :
    (∀ s : String, (∃ a, parse s = .ok a) ↔ ∃ name symbol, Divided s name symbol ∧
      Uppercase.ofText name ∈ ["BNB", "THOR", "THORCHAIN", "ETH", "BTC"] ∧ symbol ≠ "") ∧
    (∀ (s name symbol : String) (a : Asset), parse s = .ok a → Divided s name symbol →
      Uppercase.ofText name ∈ a.chain.names ∧
      a.text = a.chain.symbol ++ "." ++ Uppercase.ofText symbol ∧
      parse a.text = .ok a ∧ (parse a.text).map text = .ok a.text) ∧
    (∀ (s s' name name' symbol symbol' : String) (a a' : Asset), parse s = .ok a →
      parse s' = .ok a' → Divided s name symbol → Divided s' name' symbol' →
        (a = a' ↔
          (∃ chain : Chain, Uppercase.ofText name ∈ chain.names ∧
            Uppercase.ofText name' ∈ chain.names) ∧
          Uppercase.ofText symbol = Uppercase.ofText symbol')) ∧
    ∀ a : Asset, a.ticker.toList <+: a.symbol.toList ∧ '-' ∉ a.ticker.toList ∧
      ∀ cs, cs <+: a.symbol.toList → '-' ∉ cs → cs <+: a.ticker.toList := by
  refine ⟨fun s => ⟨?_, ?_⟩, fun s name symbol a h hdivided => ?_,
    fun _ _ _ _ _ _ _ _ => eq_iff_of_parse, ticker_longest⟩
  · rintro ⟨a, h⟩
    obtain ⟨name, symbol, hdivided, hname, hsymbol, -⟩ := parse_eq_ok_iff.1 h
    exact ⟨name, symbol, hdivided, Chain.exists_mem_names_iff.1 ⟨_, hname⟩, hsymbol⟩
  · rintro ⟨name, symbol, hdivided, hname, hsymbol⟩
    obtain ⟨chain, hchain⟩ := Chain.exists_mem_names_iff.2 hname
    exact ⟨ofSymbol chain symbol,
      parse_eq_ok_iff.2 ⟨name, symbol, hdivided, hchain, hsymbol, rfl⟩⟩
  · obtain ⟨hname, hupper⟩ := parts_of_parse h hdivided
    have hback := parse_text ⟨s, h⟩
    exact ⟨hname, by rw [text, hupper], hback, by rw [hback]; rfl⟩

/-- Two texts of one asset, in letters of which some become several in upper case. -/
theorem normal_form_of_long_name :
    parse "thorchaın.straße.x-1" = .ok ⟨.thor, "STRASSE.X-1"⟩ ∧
      parse "Thor.STRASSE.X-1" = .ok ⟨.thor, "STRASSE.X-1"⟩ ∧
      parse "THOR.STRASSE.X-1" = .ok ⟨.thor, "STRASSE.X-1"⟩ := by
  have hlong : parse "thorchaın.straße.x-1" = .ok ⟨.thor, "STRASSE.X-1"⟩ := by decide +kernel
  have hshort : parse "Thor.STRASSE.X-1" = .ok ⟨.thor, "STRASSE.X-1"⟩ := by decide +kernel
  obtain ⟨-, -, hback, -⟩ := normal_form.2.1 _ "thorchaın" "straße.x-1" _ hlong
    ⟨by decide, by decide⟩
  exact ⟨hlong, hshort, hback⟩

end Asset

end ChainRelay
