import ChainRelay.Proofs.Text.Hex
import ChainRelay.Proofs.Wire

/-!
# One form of each id

A text is an id exactly if it is made of any number of marks `0x` and then of hexadecimal
digits (`TxId.parse_eq_ok_iff`). A mark starts with a digit, but its second character is
none, so it is clear where the digits start, and in which way a text is made
(`TxId.Marked.unique`). The id is these digits in upper case, whatever marks and cases it
was given with (`TxId.one_spelling`); an id that was computed from a hash has the same form.
-/

namespace ChainRelay.TxId

variable {s s' : String} {marks marks' : Nat} {digits digits' : List Char} {t t' : TxId}

/-! ## Digits -/

/-- The hexadecimal digits, in both cases. -/
def hexDigits : List Char :=
  ['0', '1', '2', '3', '4', '5', '6', '7', '8', '9', 'a', 'b', 'c', 'd', 'e', 'f',
    'A', 'B', 'C', 'D', 'E', 'F']

theorem mem_hexDigits_of_digit? : ∀ c, (Numeral.digit? 16 c).isSome = true → c ∈ hexDigits :=
  Numeral.forall_digit? (by decide)

theorem isSome_digit?_iff {c : Char} :
    (Numeral.digit? 16 c).isSome = true ↔ c ∈ hexDigits := by
  constructor
  · exact mem_hexDigits_of_digit? c
  · have hall : hexDigits.all (fun c => (Numeral.digit? 16 c).isSome) = true := by decide
    exact List.all_eq_true.1 hall c

theorem ne_x_of_mem_hexDigits : ∀ c ∈ hexDigits, c ≠ 'x' := by simp [hexDigits]

theorem toUpper_inj_iff {c d : Char} (hc : c ∈ hexDigits) (hd : d ∈ hexDigits) :
    c.toUpper = d.toUpper ↔ c.toLower = d.toLower := by
  have hall : (hexDigits.all fun c => hexDigits.all fun d =>
      decide (c.toUpper = d.toUpper ↔ c.toLower = d.toLower)) = true := by decide
  exact of_decide_eq_true (List.all_eq_true.1 (List.all_eq_true.1 hall c hc) d hd)

/-- Digits agree in upper case exactly if they agree in lower case. -/
theorem map_toUpper_eq_iff (h : ∀ c ∈ digits, c ∈ hexDigits) (h' : ∀ c ∈ digits', c ∈ hexDigits) :
    digits.map Char.toUpper = digits'.map Char.toUpper ↔
      digits.map Char.toLower = digits'.map Char.toLower := by
  induction digits generalizing digits' with
  | nil => simp
  | cons c digits ih =>
    cases digits' with
    | nil => simp
    | cons d digits' =>
      rw [List.forall_mem_cons] at h h'
      simp only [List.map_cons, List.cons.injEq, toUpper_inj_iff h.1 h'.1, ih h.2 h'.2]

/-! ## Marks -/

/-- Characters behind marks. -/
def mark (marks : Nat) (cs : List Char) : List Char :=
  (List.replicate marks ['0', 'x']).flatten ++ cs

theorem dropMarks_mark (marks : Nat) (cs : List Char) :
    dropMarks (mark marks cs) = dropMarks cs := by
  induction marks with
  | zero => rfl
  | succ marks ih => exact ih

theorem exists_eq_mark (cs : List Char) : ∃ marks, cs = mark marks (dropMarks cs) := by
  fun_induction dropMarks cs with
  | case1 rest ih =>
    obtain ⟨marks, hrest⟩ := ih
    exact ⟨marks + 1, congrArg (fun cs => '0' :: 'x' :: cs) hrest⟩
  | case2 cs => exact ⟨0, rfl⟩

/-- A text is made of marks, and of digits behind them. -/
structure Marked (s : String) (marks : Nat) (digits : List Char) : Prop where
  /-- The characters of the text. -/
  text : s.toList = mark marks digits
  /-- What follows the marks are hexadecimal digits. -/
  isHex : ∀ c ∈ digits, c ∈ hexDigits
  /-- There is at least one. -/
  ne_nil : digits ≠ []

theorem Marked.dropMarks_eq (h : Marked s marks digits) : dropMarks s.toList = digits := by
  rw [h.text, dropMarks_mark, dropMarks_of_forall_ne fun c hc =>
    ne_x_of_mem_hexDigits c (h.isHex c hc)]

/-- The digits of a text are behind all of its marks. -/
theorem Marked.unique (h : Marked s marks digits) (h' : Marked s marks' digits') :
    marks = marks' ∧ digits = digits' := by
  obtain rfl := h.dropMarks_eq.symm.trans h'.dropMarks_eq
  have hlength := congrArg List.length (h.text.symm.trans h'.text)
  refine ⟨?_, rfl⟩
  simpa [mark] using hlength

/-! ## Parsing -/

theorem Marked.parse (h : Marked s marks digits) :
    parse s = .ok ⟨String.ofList (digits.map Char.toUpper)⟩ := by
  have hdigits : digits.all (fun c => (Numeral.digit? 16 c).isSome) = true :=
    List.all_eq_true.2 fun c hc => isSome_digit?_iff.2 (h.isHex c hc)
  rw [TxId.parse]
  simp only [h.dropMarks_eq]
  rw [if_neg (by simpa using h.ne_nil), if_pos hdigits]

/-- A text is an id exactly if it is made of marks and the digits of the id. -/
theorem parse_eq_ok_iff :
    parse s = .ok t ↔
      ∃ marks digits, Marked s marks digits ∧ t.text = String.ofList (digits.map Char.toUpper) := by
  constructor
  · intro h
    have hparse := h
    simp only [parse] at hparse
    split_ifs at hparse with hempty hdigits
    obtain ⟨marks, hmarks⟩ := exists_eq_mark s.toList
    have hmarked : Marked s marks (dropMarks s.toList) :=
      ⟨hmarks, fun c hc => isSome_digit?_iff.1 (List.all_eq_true.1 hdigits c hc),
        by simpa using hempty⟩
    exact ⟨marks, _, hmarked, congrArg TxId.text (Except.ok.inj (h.symm.trans hmarked.parse))⟩
  · rintro ⟨marks, digits, hmarked, htext⟩
    rw [hmarked.parse, ← htext]

/-- Texts are of one id exactly if their digits agree but for the case. -/
theorem Marked.parse_eq_iff (h : Marked s marks digits) (h' : Marked s' marks' digits') :
    TxId.parse s = TxId.parse s' ↔ digits.map Char.toLower = digits'.map Char.toLower := by
  rw [h.parse, h'.parse, Except.ok.injEq, TxId.mk.injEq, String.ofList_inj,
    map_toUpper_eq_iff h.isHex h'.isHex]

/-! ## The form of an id -/

/-- No mark is left in front of an id. -/
theorem not_mark_prefix_text (h : parse s = .ok t) : ¬ ['0', 'x'] <+: t.text.toList := by
  obtain ⟨marks, digits, hmarked, htext⟩ := parse_eq_ok_iff.1 h
  rw [htext, String.toList_ofList]
  intro hfront
  obtain ⟨c, hc, hx⟩ := List.mem_map.1 (hfront.subset (show 'x' ∈ ['0', 'x'] by simp))
  exact (toUpper_digit c (isSome_digit?_iff.2 (hmarked.isHex c hc))).2.1 hx

/-- An id is read from the JSON text that is written of it. -/
theorem ofBytes_bytes (h : t.IsParsed) : codec.ofBytes (codec.bytes t) Doc.read = .ok t :=
  admits.ofBytes_render (Nat.zero_le _) h (Codec.WritesNoNumber.written t).allNumbers

/-! ## Hashes -/

theorem digit_mem_hexDigits {ten : Char} (hten : ten = 'a' ∨ ten = 'A') :
    ∀ n < 16, Hex.digit ten n ∈ hexDigits ∧ (Hex.digit ten n).toUpper = Hex.digit 'A' n := by
  rcases hten with rfl | rfl
  · decide
  · decide

/-- The digits of a hash in either case are those of its id. -/
theorem parse_mark_digits {ten : Char} (hten : ten = 'a' ∨ ten = 'A') {digest : Bytes}
    (hdigest : digest ≠ []) (marks : Nat) :
    parse (String.ofList (mark marks (Hex.digits ten digest))) = .ok (ofDigest digest) := by
  have hdigits (b : UInt8) := And.intro
    (digit_mem_hexDigits hten (b.toNat / 16) (by have := b.toNat_lt; omega))
    (digit_mem_hexDigits hten (b.toNat % 16) (by omega))
  have hmarked : Marked (String.ofList (mark marks (Hex.digits ten digest))) marks
      (Hex.digits ten digest) := by
    refine ⟨String.toList_ofList, fun c hc => ?_, ?_⟩
    · obtain ⟨b, -, hc⟩ := List.mem_flatMap.1 hc
      rcases List.mem_pair.1 hc with rfl | rfl
      · exact (hdigits b).1.1
      · exact (hdigits b).2.1
    · obtain ⟨b, rest, rfl⟩ := List.exists_cons_of_ne_nil hdigest
      exact List.cons_ne_nil _ _
  have hupper : (Hex.digits ten digest).map Char.toUpper = Hex.digits 'A' digest := by
    rw [Hex.digits, Hex.digits, List.map_flatMap]
    refine List.flatMap_congr fun b _ => ?_
    rw [List.map_cons, List.map_singleton, (hdigits b).1.2, (hdigits b).2.2]
  rw [hmarked.parse, hupper, ofDigest, Hex.upper]

/-! ## All together -/

/-- A text is an id exactly if it is made of marks and of at least one hexadecimal digit
    behind them. The id is these digits in upper case, with no mark in front, and is read
    again from its own text and from its JSON text. Texts are of one id exactly if their
    digits agree but for the case. The id of a hash is the one that is read from the digits
    of the hash in either case, behind any number of marks. -/
theorem one_spelling :
    (∀ s : String, (∃ t, parse s = .ok t) ↔ ∃ marks digits, Marked s marks digits) ∧
    (∀ (s : String) (marks : Nat) (digits : List Char) (t : TxId), parse s = .ok t →
      Marked s marks digits →
        t.text = String.ofList (digits.map Char.toUpper) ∧ ¬ ['0', 'x'] <+: t.text.toList ∧
        parse t.text = .ok t ∧ codec.ofBytes (codec.bytes t) Doc.read = .ok t) ∧
    (∀ (s s' : String) (marks marks' : Nat) (digits digits' : List Char), Marked s marks digits →
      Marked s' marks' digits' →
        (parse s = parse s' ↔ digits.map Char.toLower = digits'.map Char.toLower)) ∧
    ∀ (digest : Bytes) (marks : Nat), digest ≠ [] →
      parse (String.ofList (mark marks (Hex.lower digest).toList)) = .ok (ofDigest digest) ∧
      parse (String.ofList (mark marks (Hex.upper digest).toList)) = .ok (ofDigest digest) := by
  refine ⟨fun s => ⟨?_, ?_⟩, fun s marks digits t h hmarked => ?_,
    fun _ _ _ _ _ _ h h' => h.parse_eq_iff h', fun digest marks hdigest => ?_⟩
  · rintro ⟨t, h⟩
    obtain ⟨marks, digits, hmarked, -⟩ := parse_eq_ok_iff.1 h
    exact ⟨marks, digits, hmarked⟩
  · rintro ⟨marks, digits, hmarked⟩
    exact ⟨_, hmarked.parse⟩
  · have htext := congrArg TxId.text (Except.ok.inj (h.symm.trans hmarked.parse))
    exact ⟨htext, not_mark_prefix_text h, parse_text ⟨s, h⟩, ofBytes_bytes ⟨s, h⟩⟩
  · rw [Hex.lower, Hex.upper, String.toList_ofList, String.toList_ofList]
    exact ⟨parse_mark_digits (.inl rfl) hdigest marks, parse_mark_digits (.inr rfl) hdigest marks⟩

/-- Two marks and a digit `0` in front of other digits, and no mark. -/
theorem one_spelling_behind_marks :
    parse "0x0x0aBc" = parse "0AbC" ∧ parse "0x0x0aBc" = .ok ⟨"0ABC"⟩ ∧
      parse "0ABC" = .ok ⟨"0ABC"⟩ := by
  have hmarked : Marked "0x0x0aBc" 2 ['0', 'a', 'B', 'c'] := ⟨rfl, by simp [hexDigits], by decide⟩
  have hbare : Marked "0AbC" 0 ['0', 'A', 'b', 'C'] := ⟨rfl, by simp [hexDigits], by decide⟩
  have hparse : parse "0x0x0aBc" = .ok ⟨"0ABC"⟩ := by decide
  obtain ⟨-, -, hback, -⟩ := one_spelling.2.1 _ _ _ _ hparse hmarked
  exact ⟨(one_spelling.2.2.1 _ _ _ _ _ _ hmarked hbare).2 (by decide), hparse, hback⟩

end ChainRelay.TxId
