import ChainRelay.Proofs.Json.Literals

/-!
# White space between the parts of a value

White space may stand before and behind every part of a value: before a value, a comma
or a colon, and before the end of an array or an object. The texts of a value are those
that differ from the one without white space in nothing else (`Json.HasText`,
`Json.hasText_render`). A reader that passes over white space finds the first character
of the value behind it (`Json.Spaced.exists_skipBlank`), and no number goes on behind
white space (`Units.endNumber_append`).
-/

namespace ChainRelay

/-- There is nothing but white space. -/
def IsBlank (cs : List Char) : Prop := ∀ c ∈ cs, c ∈ [' ', '\t', '\n', '\r']

theorem isBlank_nil : IsBlank [] := fun _ hc => absurd hc List.not_mem_nil

theorem isBlank_indent (depth : Nat) : IsBlank (Json.indent depth) := by
  intro c hc
  rcases List.mem_cons.1 hc with rfl | hc
  · decide
  · rw [List.eq_of_mem_replicate hc]
    decide

namespace Json

mutual
/-- The texts of a value with any white space between its parts. -/
inductive Spaced : Json → List Char → Prop
  | null : Spaced .null Json.null.write
  | bool (b : Bool) : Spaced (.bool b) (Json.bool b).write
  | number (n : Number) : Spaced (.number n) (Json.number n).write
  | text (s : String) : Spaced (.text s) (Json.text s).write
  | array {items : List Json} {cs : List Char} :
      SpacedItems items cs → Spaced (.array items) ('[' :: cs ++ [']'])
  | object {members : List (String × Json)} {cs : List Char} :
      SpacedMembers members cs → Spaced (.object members) ('\x7b' :: cs ++ ['\x7d'])
  | lead {j : Json} {blank cs : List Char} :
      IsBlank blank → Spaced j cs → Spaced j (blank ++ cs)

/-- The texts of items between commas, up to the end of their array. -/
inductive SpacedItems : List Json → List Char → Prop
  | nil {blank : List Char} : IsBlank blank → SpacedItems [] blank
  | last {x : Json} {cs blank : List Char} :
      Spaced x cs → IsBlank blank → SpacedItems [x] (cs ++ blank)
  | cons {x y : Json} {items : List Json} {cs blank ds : List Char} :
      Spaced x cs → IsBlank blank → SpacedItems (y :: items) ds →
        SpacedItems (x :: y :: items) (cs ++ (blank ++ ',' :: ds))

/-- The texts of members between commas, up to the end of their object. -/
inductive SpacedMembers : List (String × Json) → List Char → Prop
  | nil {blank : List Char} : IsBlank blank → SpacedMembers [] blank
  | last {key : String} {x : Json} {before colon cs blank : List Char} :
      IsBlank before → IsBlank colon → Spaced x cs → IsBlank blank →
        SpacedMembers [(key, x)] (before ++ (quote key ++ (colon ++ ':' :: (cs ++ blank))))
  | cons {key next : String} {x y : Json} {members : List (String × Json)}
      {before colon cs blank ds : List Char} :
      IsBlank before → IsBlank colon → Spaced x cs → IsBlank blank →
        SpacedMembers ((next, y) :: members) ds →
        SpacedMembers ((key, x) :: (next, y) :: members)
          (before ++ (quote key ++ (colon ++ ':' :: (cs ++ (blank ++ ',' :: ds)))))
end

mutual
/-- The text without white space is one of them. -/
theorem spaced_write : ∀ j : Json, j.Spaced j.write
  | .null => .null
  | .bool b => .bool b
  | .number n => .number n
  | .text s => .text s
  | .array items => .array (spacedItems_write items)
  | .object members => .object (spacedMembers_write members)

theorem spacedItems_write : ∀ items : List Json, SpacedItems items (writeItems items)
  | [] => .nil isBlank_nil
  | [x] => by
    have h := SpacedItems.last (spaced_write x) isBlank_nil
    rwa [List.append_nil] at h
  | x :: y :: items => .cons (spaced_write x) isBlank_nil (spacedItems_write (y :: items))

theorem spacedMembers_write :
    ∀ members : List (String × Json), SpacedMembers members (writeMembers members)
  | [] => .nil isBlank_nil
  | [(key, x)] => by
    have h : SpacedMembers [(key, x)] _ :=
      .last isBlank_nil isBlank_nil (spaced_write x) isBlank_nil
    rwa [List.append_nil] at h
  | (key, x) :: (next, y) :: members => by
    have h : SpacedMembers ((key, x) :: (next, y) :: members) _ :=
      .cons isBlank_nil isBlank_nil (spaced_write x) isBlank_nil
        (spacedMembers_write ((next, y) :: members))
    simpa only [writeMembers, List.nil_append, List.append_assoc, List.cons_append] using h
end

/-- A text is one of a value with any white space between and around its parts. -/
def HasText (j : Json) (text : String) : Prop :=
  ∃ cs blank, j.Spaced cs ∧ IsBlank blank ∧ text = String.ofList (cs ++ blank)

theorem hasText_render (j : Json) : j.HasText j.render :=
  ⟨j.write, [], j.spaced_write, isBlank_nil, by rw [List.append_nil, render]⟩

/-- A value starts neither with white space nor with the end of an array. -/
theorem exists_cons_write {j : Json} (hj : j.AllNumbers Number.IsWord) :
    ∃ c cs, j.write = c :: cs ∧ c ∉ [' ', '\t', '\n', '\r'] ∧ c ≠ ']' := by
  match j, hj with
  | .null, _ => exact ⟨_, _, rfl, by decide⟩
  | .bool true, _ | .bool false, _ => exact ⟨_, _, rfl, by decide⟩
  | .number (.integer n), _ =>
    obtain ⟨c, cs, hcs, hc⟩ := exists_cons_write_integer n
    refine ⟨c, cs, hcs, ?_⟩
    rcases hc with rfl | hc
    · decide
    · have hne {d : Char} (hd : ¬ ('0' ≤ d ∧ d ≤ '9')) : c ≠ d := fun h => hd (h ▸ hc)
      simp [hne (d := ' ') (by decide), hne (d := '\t') (by decide),
        hne (d := '\n') (by decide), hne (d := '\r') (by decide), hne (d := ']') (by decide)]
  | .text s, _ => exact ⟨_, _, rfl, by decide⟩
  | .array items, _ => exact ⟨_, _, rfl, by decide⟩
  | .object members, _ => exact ⟨_, _, rfl, by decide⟩

end Json

namespace Units

/-- White space is passed over. -/
theorem skipBlank_append {blank : List Char} (h : IsBlank blank) (input : Units) :
    skipBlank (blank.map some ++ input) = skipBlank input := by
  induction blank with
  | nil => rfl
  | cons c blank ih =>
    obtain ⟨hc, hblank⟩ := List.forall_mem_cons.1 h
    simp only [List.mem_cons, List.not_mem_nil, or_false] at hc
    rw [List.map_cons, List.cons_append, skipBlank, if_pos hc, ih hblank]

/-- A character that is no white space is where reading goes on. -/
theorem skipBlank_cons {c : Char} (hc : c ∉ [' ', '\t', '\n', '\r']) (input : Units) :
    skipBlank (some c :: input) = some c :: input := by
  simp only [List.mem_cons, List.not_mem_nil, or_false] at hc
  rw [skipBlank, if_neg hc]

/-- Behind white space, another character is where reading goes on. -/
theorem skipBlank_append_cons {blank : List Char} (h : IsBlank blank) {c : Char}
    (hc : c ∉ [' ', '\t', '\n', '\r']) (input : Units) :
    skipBlank (blank.map some ++ some c :: input) = some c :: input :=
  (skipBlank_append h _).trans (skipBlank_cons hc input)

/-- No number goes on behind a comma or the end of an array or an object. -/
theorem endNumber_cons {c : Char} (hc : c ∈ [',', ']', '\x7d']) (input : Units) :
    EndNumber (some c :: input) := by
  simp only [List.mem_cons, List.not_mem_nil, or_false] at hc
  rcases hc with rfl | rfl | rfl <;> exact ⟨by decide, by decide, by decide, by decide⟩

/-- No number goes on behind white space. -/
theorem endNumber_append {blank : List Char} (h : IsBlank blank) {input : Units}
    (hinput : input.EndNumber) : EndNumber (blank.map some ++ input) := by
  cases blank with
  | nil => exact hinput
  | cons c blank =>
    have hc := h c List.mem_cons_self
    simp only [List.mem_cons, List.not_mem_nil, or_false] at hc
    rcases hc with rfl | rfl | rfl | rfl <;> exact ⟨by decide, by decide, by decide, by decide⟩

theorem endNumber_append_cons {blank : List Char} (h : IsBlank blank) {c : Char}
    (hc : c ∈ [',', ']', '\x7d']) (input : Units) :
    EndNumber (blank.map some ++ some c :: input) :=
  endNumber_append h (endNumber_cons hc input)

end Units

namespace Json

/-- The first character of a value stands behind the white space that its text starts
    with. -/
theorem Spaced.exists_skipBlank : ∀ {j : Json} {cs : List Char}, j.Spaced cs →
    j.AllNumbers Number.IsWord → ∀ rest : Units, ∃ c tail,
      Units.skipBlank (cs.map some ++ rest) = some c :: tail ∧
        c ∉ [' ', '\t', '\n', '\r'] ∧ c ≠ ']'
  | _, _, .lead hblank h, hn, rest => by
    obtain ⟨c, tail, htail, hc⟩ := Spaced.exists_skipBlank h hn rest
    refine ⟨c, tail, ?_, hc⟩
    rw [List.map_append, List.append_assoc, Units.skipBlank_append hblank, htail]
  | _, _, .null, hn, rest | _, _, .bool _, hn, rest | _, _, .number _, hn, rest
  | _, _, .text _, hn, rest => by
    obtain ⟨c, cs, hcs, hc⟩ := exists_cons_write hn
    exact ⟨c, _, by rw [hcs, List.map_cons, List.cons_append, Units.skipBlank_cons hc.1], hc⟩
  | _, _, .array _, _, rest | _, _, .object _, _, rest =>
    ⟨_, _, Units.skipBlank_cons (by decide) _, by decide⟩

/-- Behind the white space before the end of an array without items there is its end. -/
theorem SpacedItems.skipBlank_nil {cs : List Char} : SpacedItems [] cs → ∀ rest : Units,
    Units.skipBlank (cs.map some ++ some ']' :: rest) = some ']' :: rest
  | .nil hblank, rest => Units.skipBlank_append_cons hblank (by decide) rest

/-- Behind the white space before the first item of an array there is that item. -/
theorem SpacedItems.exists_skipBlank {x : Json} {items : List Json} {cs : List Char} :
    SpacedItems (x :: items) cs → ItemsAllNumbers Number.IsWord (x :: items) →
    ∀ rest : Units, ∃ c tail, Units.skipBlank (cs.map some ++ rest) = some c :: tail ∧
      c ∉ [' ', '\t', '\n', '\r'] ∧ c ≠ ']'
  | .last h _, hn, rest | .cons h _ _, hn, rest => by
    rw [List.map_append, List.append_assoc]
    exact h.exists_skipBlank hn.1 _

/-- Behind the white space before the end of an object without members there is its end. -/
theorem SpacedMembers.skipBlank_nil {cs : List Char} : SpacedMembers [] cs → ∀ rest : Units,
    Units.skipBlank (cs.map some ++ some '\x7d' :: rest) = some '\x7d' :: rest
  | .nil hblank, rest => Units.skipBlank_append_cons hblank (by decide) rest

/-- Behind the white space before the first member of an object there is its key. -/
theorem SpacedMembers.exists_skipBlank {member : String × Json} {members : List (String × Json)}
    {cs : List Char} : SpacedMembers (member :: members) cs → ∀ rest : Units,
      ∃ tail, Units.skipBlank (cs.map some ++ rest) = some '"' :: tail
  | .last hbefore _ _ _, rest | .cons hbefore _ _ _ _, rest => by
    rw [List.map_append, List.append_assoc, Units.skipBlank_append hbefore, List.map_append,
      List.append_assoc, quote, List.cons_append, List.map_cons, List.cons_append,
      Units.skipBlank_cons (by decide)]
    exact ⟨_, rfl⟩

end Json

end ChainRelay
