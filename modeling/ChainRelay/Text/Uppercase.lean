import ChainRelay.Text.UppercaseTable

/-!
# Upper-casing

Upper case by the full Unicode mapping, where one letter may become several:
`ß` gives `SS`. The mapping looks at single characters only, so the upper case of
a text is put together from those of its characters.
-/

namespace ChainRelay.Uppercase

/-- The upper case of a character that is not ASCII. -/
def wide (c : Char) : List Char :=
  match expansions.find? (·.1 == c.toNat) with
  | some (_, cs) => cs.map Char.ofNat
  | none =>
    match runs.find? fun (first, last, step, _) =>
        decide (first ≤ c.toNat ∧ c.toNat ≤ last ∧ (c.toNat - first) % step = 0) with
    | some (_, _, _, shift) => [Char.ofNat (c.toNat + shift).toNat]
    | none => [c]

/-- The upper case of a character. -/
def ofChar (c : Char) : List Char :=
  if c.toNat < 128 then [c.toUpper] else wide c

/-- The upper case of a text. -/
def ofText (s : String) : String :=
  String.ofList (s.toList.flatMap ofChar)

end ChainRelay.Uppercase
