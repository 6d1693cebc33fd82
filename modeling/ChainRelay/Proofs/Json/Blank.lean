import ChainRelay.Proofs.Json.Literals

/-!
# White space

A value is written without white space but in quoted texts (`Json.hasNoBlank_write`).
White space is looked for by a scanner that knows whether it stands in quotes
(`Spot.walk`); what is written for a character in quotes leaves it there, whatever the
character (`Spot.walk_escape`), so a quoted text ends with its last quote.
-/

namespace ChainRelay

/-- Where a scanner stands in a text. -/
inductive Spot
  /-- Between quoted texts. -/
  | outside
  /-- In a quoted text. -/
  | quoted
  /-- Behind a backslash in a quoted text. -/
  | escaped
deriving DecidableEq

namespace Spot

/-- One character; outside of quoted texts there must be no white space. -/
def step : Spot → Char → Option Spot
  | outside, c =>
    if c ∈ [' ', '\t', '\n', '\r'] then none else some (if c = '"' then quoted else outside)
  | quoted, c => some (if c = '"' then outside else if c = '\\' then escaped else quoted)
  | escaped, _ => some quoted

/-- Characters one by one. -/
def walk (spot : Spot) (cs : List Char) : Option Spot := cs.foldlM step spot

variable {cs ds : List Char} {spot next : Spot}

theorem walk_append (h : spot.walk cs = some next) (ds : List Char) :
    spot.walk (cs ++ ds) = next.walk ds := by
  rw [walk, List.foldlM_append, ← walk, h]
  rfl

theorem walk_cons {c : Char} (h : spot.step c = some next) (cs : List Char) :
    spot.walk (c :: cs) = next.walk cs := by
  rw [walk, List.foldlM_cons, h]
  rfl

theorem step_digit : ∀ n < 16, step quoted (Hex.digit 'a' n) = some quoted := by decide

/-- What is written for a character in quotes stays in quotes. -/
theorem walk_escape (c : Char) : quoted.walk (Json.escape c) = some quoted := by
  rw [Json.escape]
  split_ifs with hq hb h8 ht hn h12 hr hc
  · rfl
  · rfl
  · rfl
  · rfl
  · rfl
  · rfl
  · rfl
  · have hhigh := step_digit (c.toNat / 16) (by omega)
    have hlow := step_digit (c.toNat % 16) (by omega)
    have hbefore : quoted.walk ['\\', 'u', '0', '0'] = some quoted := rfl
    exact (walk_append hbefore _).trans ((walk_cons hhigh _).trans (walk_cons hlow []))
  · refine walk_cons ?_ []
    rw [step, if_neg hq, if_neg hb]

theorem walk_flatMap_escape (cs : List Char) :
    quoted.walk (cs.flatMap Json.escape) = some quoted := by
  induction cs with
  | nil => rfl
  | cons c cs ih => rw [List.flatMap_cons, walk_append (walk_escape c), ih]

end Spot

namespace Json

/-- There is no white space but in quoted texts, and each of these ends. -/
def HasNoBlank (cs : List Char) : Prop := Spot.outside.walk cs = some .outside

instance : DecidablePred HasNoBlank := fun _ => inferInstanceAs (Decidable (_ = _))

namespace HasNoBlank

variable {c : Char} {cs ds : List Char}

theorem append (h : HasNoBlank cs) (h' : HasNoBlank ds) : HasNoBlank (cs ++ ds) :=
  (Spot.walk_append h ds).trans h'

theorem cons (hc : Spot.outside.step c = some .outside) (h : HasNoBlank cs) :
    HasNoBlank (c :: cs) :=
  (Spot.walk_cons hc cs).trans h

theorem concat (h : HasNoBlank cs) (hc : Spot.outside.step c = some .outside) :
    HasNoBlank (cs ++ [c]) :=
  h.append (cons hc rfl)

theorem quote (s : String) : HasNoBlank (quote s) := by
  have hinside := Spot.walk_append (Spot.walk_flatMap_escape s.toList) ['"']
  exact hinside.trans rfl

theorem of_isDigit (h : ∀ c ∈ cs, c.isDigit = true) : HasNoBlank cs := by
  induction cs with
  | nil => rfl
  | cons c cs ih =>
    obtain ⟨hc, hcs⟩ := List.forall_mem_cons.1 h
    have hne {d : Char} (hd : d.isDigit = false) : c ≠ d := fun h => by simp [h, hd] at hc
    refine cons ?_ (ih hcs)
    simp [Spot.step, hne (d := ' ') (by decide), hne (d := '\t') (by decide),
      hne (d := '\n') (by decide), hne (d := '\r') (by decide), hne (d := '"') (by decide)]

theorem toDigits (n : Nat) : HasNoBlank (Nat.toDigits 10 n) :=
  of_isDigit fun _ hc => Nat.isDigit_of_mem_toDigits (by decide) (by decide) hc

end HasNoBlank

mutual
/-- No white space is written between quoted texts. -/
theorem hasNoBlank_write : ∀ {j : Json}, j.AllNumbers Number.IsWord → HasNoBlank j.write
  | .null, _ | .bool true, _ | .bool false, _ => rfl
  | .number (.integer (.ofNat n)), _ => (write_ofNat n).symm ▸ .toDigits n
  | .number (.integer (.negSucc n)), _ =>
    (write_negSucc n).symm ▸ .cons rfl (.toDigits (n + 1))
  | .text s, _ => .quote s
  | .array _, h => .cons rfl (.concat (hasNoBlank_writeItems h) rfl)
  | .object _, h => .cons rfl (.concat (hasNoBlank_writeMembers h) rfl)

theorem hasNoBlank_writeItems : ∀ {items : List Json}, ItemsAllNumbers Number.IsWord items →
    HasNoBlank (writeItems items)
  | [], _ => rfl
  | [_], h => hasNoBlank_write h.1
  | _ :: _ :: _, h => (hasNoBlank_write h.1).append (.cons rfl (hasNoBlank_writeItems h.2))

theorem hasNoBlank_writeMembers : ∀ {members : List (String × Json)},
    MembersAllNumbers Number.IsWord members → HasNoBlank (writeMembers members)
  | [], _ => rfl
  | [(key, _)], h => (HasNoBlank.quote key).append (.cons rfl (hasNoBlank_write h.1))
  | (key, _) :: _ :: _, h => .append (.append (.quote key) (.cons rfl (hasNoBlank_write h.1)))
    (.cons rfl (hasNoBlank_writeMembers h.2))
end

example : HasNoBlank "[\"a b\"]".toList ∧ ¬ HasNoBlank "[\"a\", \"b\"]".toList := by decide

end Json

end ChainRelay
