import ChainRelay.Proofs.Json.Spacing
import ChainRelay.Proofs.Text.Utf8

/-!
# Reading values that were written

A value is read from any text that differs from the one without white space in nothing
else (`Doc.read_of_hasText`), and so from that one (`Doc.read_render`). Quoted texts come
first: each character is read from what was written for it, be it itself, a letter
behind a backslash or four digits (`Quoting.run_escape`). Values, items and members
are read by three functions that call each other with less fuel, so what is read
with enough fuel is shown for all three at once, by induction on how the text is made
up of its parts (`Doc.scan_spaced`). The text of a number does not tell where it ends, so
a value is read only if nothing follows that could go on with it (`Units.EndNumber`);
what is written behind a value never does. Of numbers only integers of sixty-four bits
are read as they were; most values have no number at all (`Json.HasNoNumber`).
-/

namespace ChainRelay

/-! ## Quoted texts -/

namespace Quoting

variable (seen : List Char) (input : Units)

theorem digit?_digit : ∀ n < 16, Numeral.digit? 16 (Hex.digit 'a' n) = some n := by decide

/-- A character that is written as it is. -/
theorem run_plain {c : Char} (hq : c ≠ '"') (hb : c ≠ '\\') (hc : ¬ c.toNat < 32) :
    run .plain .none seen (some c :: input) = run .plain .none (c :: seen) input := by
  simp [run, step, stepPlain, hq, hb, hc]

/-- A character behind a backslash. -/
theorem run_letter {c d : Char} (hd : letter? d = some c) (hu : d ≠ 'u') :
    run .plain .none seen (some '\\' :: some d :: input) = run .plain .none (c :: seen) input := by
  simp [run, step, stepPlain, stepEscape, hu, hd]

/-- A character in four digits, none of them beyond those of control characters. -/
theorem run_digits {n : Nat} (h : n < 32) :
    run .plain .none seen
        (some '\\' :: some 'u' :: some '0' :: some '0' :: some (Hex.digit 'a' (n / 16))
          :: some (Hex.digit 'a' (n % 16)) :: input)
      = run .plain .none (Char.ofNat n :: seen) input := by
  have hz : Numeral.digit? 16 '0' = some 0 := by decide
  have hn : n / 16 * 16 + n % 16 = n := by omega
  simp [run, step, stepPlain, stepEscape, stepDigit, complete, hz, digit?_digit (n / 16) (by omega),
    digit?_digit (n % 16) (by omega), hn, show ¬ 0xDC00 ≤ n by omega, show ¬ 0xD800 ≤ n by omega]

/-- A character that was written is read. -/
theorem run_escape (c : Char) :
    run .plain .none seen ((Json.escape c).map some ++ input)
      = run .plain .none (c :: seen) input := by
  rw [Json.escape]
  split_ifs with hq hb h8 ht hn h12 hr hc
  · subst hq
    exact run_letter seen input (by decide) (by decide)
  · subst hb
    exact run_letter seen input (by decide) (by decide)
  · rw [show c = '\x08' from Char.toNat_inj.1 h8]
    exact run_letter seen input (by decide) (by decide)
  · subst ht
    exact run_letter seen input (by decide) (by decide)
  · subst hn
    exact run_letter seen input (by decide) (by decide)
  · rw [show c = '\x0c' from Char.toNat_inj.1 h12]
    exact run_letter seen input (by decide) (by decide)
  · subst hr
    exact run_letter seen input (by decide) (by decide)
  · have h := run_digits seen input hc
    rwa [Char.ofNat_toNat] at h
  · exact run_plain seen input hq hb hc

/-- Characters that were written are read. -/
theorem run_flatMap_escape (cs : List Char) :
    run .plain .none seen ((cs.flatMap Json.escape).map some ++ input)
      = run .plain .none (cs.reverse ++ seen) input := by
  induction cs generalizing seen with
  | nil => rfl
  | cons c cs ih =>
    rw [List.flatMap_cons, List.map_append, List.append_assoc, run_escape, ih, List.reverse_cons,
      List.append_assoc, List.singleton_append]

end Quoting

/-- A text that was written in quotes is read from behind the first of them. -/
theorem Quote.scan_quote (s : String) (input : Units) :
    ∃ tail, (Json.quote s).map some ++ input = some '"' :: tail ∧
      Quote.scan tail = (.whole s, input) := by
  refine ⟨_, by rw [Json.quote, List.cons_append, List.map_cons, List.cons_append], ?_⟩
  rw [List.map_append, List.append_assoc, Quote.scan, Quoting.run_flatMap_escape]
  simp [Quoting.run, Quoting.step, Quoting.stepPlain, String.ofList_toList]

/-! ## Values -/

namespace Json

mutual
/-- There is no number in a value. -/
def HasNoNumber : Json → Prop
  | .number _ => False
  | .array items => HaveNoNumber items
  | .object members => MembersHaveNoNumber members
  | .null | .bool _ | .text _ => True

/-- There is no number in values. -/
def HaveNoNumber : List Json → Prop
  | [] => True
  | x :: rest => x.HasNoNumber ∧ HaveNoNumber rest

/-- There is no number in the values of members. -/
def MembersHaveNoNumber : List (String × Json) → Prop
  | [] => True
  | (_, x) :: rest => x.HasNoNumber ∧ MembersHaveNoNumber rest
end

mutual
/-- A value without numbers has numbers of any kind only. -/
theorem HasNoNumber.allNumbers {p : Number → Prop} : ∀ {j : Json}, j.HasNoNumber → j.AllNumbers p
  | .null, _ | .bool _, _ | .text _, _ => trivial
  | .array _, h => HaveNoNumber.allNumbers h
  | .object _, h => MembersHaveNoNumber.allNumbers h

theorem HaveNoNumber.allNumbers {p : Number → Prop} :
    ∀ {items : List Json}, HaveNoNumber items → ItemsAllNumbers p items
  | [], _ => trivial
  | _ :: _, h => ⟨HasNoNumber.allNumbers h.1, HaveNoNumber.allNumbers h.2⟩

theorem MembersHaveNoNumber.allNumbers {p : Number → Prop} :
    ∀ {members : List (String × Json)}, MembersHaveNoNumber members → MembersAllNumbers p members
  | [], _ => trivial
  | _ :: _, h => ⟨HasNoNumber.allNumbers h.1, MembersHaveNoNumber.allNumbers h.2⟩
end

mutual
/-- If no number is of a kind that numbers must be of, there is none. -/
theorem AllNumbers.hasNoNumber :
    ∀ {j : Json}, j.AllNumbers (fun _ => False) → j.HasNoNumber
  | .null, _ | .bool _, _ | .text _, _ => trivial
  | .number _, h => h
  | .array _, h => ItemsAllNumbers.haveNoNumber h
  | .object _, h => MembersAllNumbers.haveNoNumber h

theorem ItemsAllNumbers.haveNoNumber :
    ∀ {items : List Json}, ItemsAllNumbers (fun _ => False) items → HaveNoNumber items
  | [], _ => trivial
  | _ :: _, h => ⟨AllNumbers.hasNoNumber h.1, ItemsAllNumbers.haveNoNumber h.2⟩

theorem MembersAllNumbers.haveNoNumber : ∀ {members : List (String × Json)},
    MembersAllNumbers (fun _ => False) members → MembersHaveNoNumber members
  | [], _ => trivial
  | _ :: _, h => ⟨AllNumbers.hasNoNumber h.1, MembersAllNumbers.haveNoNumber h.2⟩
end

end Json

namespace Doc

open Json (AllNumbers ItemsAllNumbers MembersAllNumbers Spaced SpacedItems SpacedMembers)

variable {fuel : Nat} {c : Char} {input input' after rest tail : Units}

/-! ### White space at the front does not count -/

theorem scan_congr (h : Units.skipBlank input = Units.skipBlank input') :
    scan fuel input = scan fuel input' := by
  cases fuel with
  | zero => rfl
  | succ fuel => simp only [scan, h]

theorem scanItems_congr (h : Units.skipBlank input = Units.skipBlank input') :
    scanItems fuel input = scanItems fuel input' := by
  cases fuel with
  | zero => rfl
  | succ fuel => rw [scanItems, scanItems, scan_congr h]

theorem scanMembers_congr (h : Units.skipBlank input = Units.skipBlank input') :
    scanMembers fuel input = scanMembers fuel input' := by
  cases fuel with
  | zero => rfl
  | succ fuel => simp only [scanMembers, h]

/-! ### The first character of a value -/

theorem scan_null : scan (fuel + 1) (Json.null.write.map some ++ rest) = (.null, rest) := rfl

theorem scan_bool (b : Bool) :
    scan (fuel + 1) ((Json.bool b).write.map some ++ rest) = (.bool b, rest) := by
  cases b <;> rfl

theorem scan_text (s : String) :
    scan (fuel + 1) ((Json.text s).write.map some ++ rest) = (.text (.whole s), rest) := by
  obtain ⟨tail, htail, hscan⟩ := Quote.scan_quote s rest
  rw [Json.write, htail, scan, Units.skipBlank_cons (by decide)]
  simp [hscan]

theorem scan_array_nil (h : Units.skipBlank input = some ']' :: rest) :
    scan (fuel + 1) (some '[' :: input) = (.array .closed, rest) := by
  rw [scan, Units.skipBlank_cons (by decide)]
  simp [h]

/-- An array with something in it is read item by item. -/
theorem scan_array (h : Units.skipBlank input = some c :: tail)
    (hb : c ∉ [' ', '\t', '\n', '\r']) (he : c ≠ ']') :
    scan (fuel + 1) (some '[' :: input)
      = (.array (scanItems fuel input).1, (scanItems fuel input).2) := by
  rw [scan, Units.skipBlank_cons (by decide),
    scanItems_congr (h.trans (Units.skipBlank_cons hb tail).symm)]
  simp [h, he]

theorem scan_object_nil (h : Units.skipBlank input = some '\x7d' :: rest) :
    scan (fuel + 1) (some '\x7b' :: input) = (.object .closed, rest) := by
  rw [scan, Units.skipBlank_cons (by decide)]
  simp [h]

/-- An object with something in it is read member by member. -/
theorem scan_object (h : Units.skipBlank input = some '"' :: tail) :
    scan (fuel + 1) (some '\x7b' :: input)
      = (.object (scanMembers fuel input).1, (scanMembers fuel input).2) := by
  rw [scan, Units.skipBlank_cons (by decide),
    scanMembers_congr (h.trans (Units.skipBlank_cons (by decide) tail).symm)]
  simp [h]

/-! ### Items and members one by one -/

/-- The last item is followed by the end of the array. -/
theorem scanItems_last {d : Doc} (h : scan fuel input = (d, after))
    (hafter : Units.skipBlank after = some ']' :: rest) :
    scanItems (fuel + 1) input = (.cons d .closed, rest) := by
  rw [scanItems, h]
  simp only [hafter]

/-- Any other item is followed by a comma. -/
theorem scanItems_comma {d : Doc} (h : scan fuel input = (d, after))
    (hafter : Units.skipBlank after = some ',' :: rest) :
    scanItems (fuel + 1) input
      = (.cons d (scanItems fuel rest).1, (scanItems fuel rest).2) := by
  rw [scanItems, h]
  simp only [hafter]

/-- A key and a colon with white space before them. -/
def keyed (before : List Char) (key : String) (colon : List Char) (input : Units) : Units :=
  before.map some ++ ((Json.quote key).map some ++ (colon.map some ++ some ':' :: input))

variable {before colon : List Char} {key : String} {d : Doc}

/-- A key is read up to the colon behind it. -/
theorem exists_keyed (hbefore : IsBlank before) (hcolon : IsBlank colon) (key : String)
    (input : Units) :
    ∃ tail behind, Units.skipBlank (keyed before key colon input) = some '"' :: tail ∧
      Quote.scan tail = (.whole key, behind) ∧
      Units.skipBlank behind = some ':' :: input := by
  obtain ⟨tail, htail, hscan⟩ := Quote.scan_quote key (colon.map some ++ some ':' :: input)
  refine ⟨tail, _, ?_, hscan, Units.skipBlank_append_cons hcolon (by decide) input⟩
  rw [keyed, htail, Units.skipBlank_append_cons hbefore (by decide)]

/-- The last member is followed by the end of the object. -/
theorem scanMembers_last (hbefore : IsBlank before) (hcolon : IsBlank colon)
    (h : scan fuel input = (d, after)) (hafter : Units.skipBlank after = some '\x7d' :: rest) :
    scanMembers (fuel + 1) (keyed before key colon input)
      = (.cons (.whole key) d .closed, rest) := by
  obtain ⟨tail, behind, hquote, hkey, hvalue⟩ := exists_keyed hbefore hcolon key input
  rw [scanMembers]
  simp only [hquote, hkey, hvalue, h, hafter]

/-- Any other member is followed by a comma. -/
theorem scanMembers_comma (hbefore : IsBlank before) (hcolon : IsBlank colon)
    (h : scan fuel input = (d, after)) (hafter : Units.skipBlank after = some ',' :: rest) :
    scanMembers (fuel + 1) (keyed before key colon input)
      = (.cons (.whole key) d (scanMembers fuel rest).1, (scanMembers fuel rest).2) := by
  obtain ⟨tail, behind, hquote, hkey, hvalue⟩ := exists_keyed hbefore hcolon key input
  rw [scanMembers]
  simp only [hquote, hkey, hvalue, h, hafter]

/-! ### Whole values -/

/-- What is enough fuel for the text of a value is some. -/
theorem exists_succ_of_write {j : Json} (hj : j.AllNumbers Number.IsWord)
    (h : 2 * j.write.length ≤ fuel) : ∃ n, fuel = n + 1 := by
  obtain ⟨c, cs, hcs, -⟩ := Json.exists_cons_write hj
  rw [hcs, List.length_cons] at h
  exact ⟨fuel - 1, by omega⟩

mutual
/-- With enough fuel, a text of a value is read as that value, up to what follows it. -/
theorem scan_spaced : ∀ {j : Json} {cs : List Char}, j.Spaced cs → j.AllNumbers Number.IsWord →
    ∀ {fuel : Nat}, 2 * cs.length ≤ fuel → ∀ {rest : Units}, rest.EndNumber →
      scan fuel (cs.map some ++ rest) = (ofJson j, rest)
  | _, _, .null, hn, _, hfuel, _, _ => by
    obtain ⟨_, rfl⟩ := exists_succ_of_write hn hfuel
    exact scan_null
  | _, _, .bool b, hn, _, hfuel, _, _ => by
    obtain ⟨_, rfl⟩ := exists_succ_of_write hn hfuel
    exact scan_bool b
  | _, _, .number n, hn, _, hfuel, _, hrest => by
    obtain ⟨_, rfl⟩ := exists_succ_of_write hn hfuel
    exact scan_number hn hrest
  | _, _, .text s, hn, _, hfuel, _, _ => by
    obtain ⟨_, rfl⟩ := exists_succ_of_write hn hfuel
    exact scan_text s
  | _, _, .lead hblank h, hn, fuel, hfuel, rest, hrest => by
    rw [List.length_append] at hfuel
    rw [List.map_append, List.append_assoc, scan_congr (Units.skipBlank_append hblank _)]
    exact scan_spaced h hn (by omega) hrest
  | .array items, _, .array h, hn, fuel, hfuel, rest, _ => by
    simp only [List.length_append, List.length_cons] at hfuel
    obtain ⟨fuel, rfl⟩ : ∃ n, fuel = n + 1 := ⟨fuel - 1, by omega⟩
    rw [List.map_append, List.append_assoc, List.map_cons, List.cons_append]
    have hread (hne : items ≠ []) := scanItems_spaced h hne hn (show _ ≤ fuel by omega) rest
    cases items with
    | nil => exact scan_array_nil (h.skipBlank_nil _)
    | cons x items =>
      -- What stands behind the bracket and its white space tells that there are items.
      obtain ⟨c, tail, htail, hb, he⟩ := h.exists_skipBlank hn (some ']' :: rest)
      rw [List.map_singleton, List.singleton_append, scan_array htail hb he,
        hread (List.cons_ne_nil x items)]
      rfl
  | .object members, _, .object h, hn, fuel, hfuel, rest, _ => by
    simp only [List.length_append, List.length_cons] at hfuel
    obtain ⟨fuel, rfl⟩ : ∃ n, fuel = n + 1 := ⟨fuel - 1, by omega⟩
    rw [List.map_append, List.append_assoc, List.map_cons, List.cons_append]
    have hread (hne : members ≠ []) := scanMembers_spaced h hne hn (show _ ≤ fuel by omega) rest
    cases members with
    | nil => exact scan_object_nil (h.skipBlank_nil _)
    | cons member members =>
      obtain ⟨tail, htail⟩ := h.exists_skipBlank (some '\x7d' :: rest)
      rw [List.map_singleton, List.singleton_append, scan_object htail,
        hread (List.cons_ne_nil member members)]
      rfl

theorem scanItems_spaced : ∀ {items : List Json} {cs : List Char}, SpacedItems items cs →
    items ≠ [] → ItemsAllNumbers Number.IsWord items →
    ∀ {fuel : Nat}, 2 * cs.length + 1 ≤ fuel → ∀ rest : Units,
      scanItems fuel (cs.map some ++ some ']' :: rest) = (Items.ofJson items, rest)
  | _, _, .nil _, hne, _, _, _, _ => absurd rfl hne
  | _, _, .last h hblank, _, hn, fuel, hfuel, rest => by
    rw [List.length_append] at hfuel
    obtain ⟨fuel, rfl⟩ : ∃ n, fuel = n + 1 := ⟨fuel - 1, by omega⟩
    rw [List.map_append, List.append_assoc]
    exact scanItems_last
      (scan_spaced h hn.1 (by omega) (Units.endNumber_append_cons hblank (by decide) rest))
      (Units.skipBlank_append_cons hblank (by decide) rest)
  | _, _, .cons h hblank hitems, _, hn, fuel, hfuel, rest => by
    simp only [List.length_append, List.length_cons] at hfuel
    obtain ⟨fuel, rfl⟩ : ∃ n, fuel = n + 1 := ⟨fuel - 1, by omega⟩
    simp only [List.map_append, List.append_assoc, List.map_cons, List.cons_append]
    -- An item is read up to its comma, which ends a number as well.
    rw [scanItems_comma
        (scan_spaced h hn.1 (by omega) (Units.endNumber_append_cons hblank (by decide) _))
        (Units.skipBlank_append_cons hblank (by decide) _),
      scanItems_spaced hitems (List.cons_ne_nil _ _) hn.2 (by omega) rest]
    rfl

theorem scanMembers_spaced : ∀ {members : List (String × Json)} {cs : List Char},
    SpacedMembers members cs → members ≠ [] → MembersAllNumbers Number.IsWord members →
    ∀ {fuel : Nat}, 2 * cs.length + 1 ≤ fuel → ∀ rest : Units,
      scanMembers fuel (cs.map some ++ some '\x7d' :: rest) = (Members.ofJson members, rest)
  | _, _, .nil _, hne, _, _, _, _ => absurd rfl hne
  | _, _, .last hbefore hcolon h hblank, _, hn, fuel, hfuel, rest => by
    simp only [List.length_append, List.length_cons] at hfuel
    obtain ⟨fuel, rfl⟩ : ∃ n, fuel = n + 1 := ⟨fuel - 1, by omega⟩
    simp only [List.map_append, List.append_assoc, List.map_cons, List.cons_append]
    exact scanMembers_last hbefore hcolon
      (scan_spaced h hn.1 (by omega) (Units.endNumber_append_cons hblank (by decide) rest))
      (Units.skipBlank_append_cons hblank (by decide) rest)
  | _, _, .cons hbefore hcolon h hblank hmembers, _, hn, fuel, hfuel, rest => by
    simp only [List.length_append, List.length_cons] at hfuel
    obtain ⟨fuel, rfl⟩ : ∃ n, fuel = n + 1 := ⟨fuel - 1, by omega⟩
    simp only [List.map_append, List.append_assoc, List.map_cons, List.cons_append]
    refine (scanMembers_comma hbefore hcolon
      (scan_spaced h hn.1 (by omega) (Units.endNumber_append_cons hblank (by decide) _))
      (Units.skipBlank_append_cons hblank (by decide) _)).trans ?_
    rw [scanMembers_spaced hmembers (List.cons_ne_nil _ _) hn.2 (by omega) rest]
    rfl
end

/-- A value without numbers but integers of sixty-four bits is read as it was from any
    of its texts. -/
theorem read_of_hasText {j : Json} {text : String} (h : j.HasText text)
    (hj : j.AllNumbers Number.IsWord) : read (Utf8.encode text) = (ofJson j, true) := by
  obtain ⟨cs, blank, hcs, hblank, rfl⟩ := h
  -- Nothing but white space follows the value, and it ends a number.
  have hend : Units.EndNumber (blank.map some) := by
    have hnil : Units.EndNumber (blank.map some ++ []) := Units.endNumber_append hblank trivial
    rwa [List.append_nil] at hnil
  have hskip : Units.skipBlank (blank.map some) = [] := by
    have hnil := Units.skipBlank_append hblank []
    rwa [List.append_nil] at hnil
  have hfuel : 2 * cs.length ≤ 2 * ((cs ++ blank).map some).length + 2 := by
    rw [List.length_map, List.length_append]
    omega
  rw [read, Utf8.scan_encode, String.toList_ofList, ofUnits]
  rw [List.map_append] at hfuel ⊢
  rw [scan_spaced hcs hj hfuel hend]
  simp only [hskip, List.isEmpty_nil]

/-- A value is read as it was from its text without white space. -/
theorem read_render {j : Json} (hj : j.AllNumbers Number.IsWord) :
    read (Utf8.encode j.render) = (ofJson j, true) :=
  read_of_hasText j.hasText_render hj

end Doc

end ChainRelay
