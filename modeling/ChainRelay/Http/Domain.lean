import ChainRelay.Http.DirectionTable
import ChainRelay.Http.DomainTable
import ChainRelay.Text.Quoted

/-!
# Domain names

Names of hosts beyond ASCII are compared by a common form. `Domain.normalize?`
gives the form of a name as far as the relay depends on it: ASCII letters in
lower case, and characters that stand for ASCII ones replaced by them. It refuses
the names that stand for no host.
-/

namespace ChainRelay.Http.Domain

/-- Whether a character lies in one of some ranges. -/
def inRanges (ranges : Array (Nat × Nat)) (c : Char) : Bool :=
  ranges.any fun (first, last) => first ≤ c.toNat && c.toNat ≤ last

/-- The ASCII characters that no name may have, besides controls and spaces. -/
def forbidden : List Char := ['%', '#', '/', ':', '<', '>', '?', '@', '[', '\\', ']', '^', '|']

/-- Whether a name may have an ASCII character. -/
def isAllowed (c : Char) : Bool :=
  32 < c.toNat && c.toNat ≠ 127 && !forbidden.contains c

/-- What a character counts as; `none` if no name may have it. -/
def fold (c : Char) : Option (List Char) :=
  if c.toNat < 128 then if isAllowed c then some [c.toLower] else none
  else if inRanges refusedRanges c then none
  else if inRanges ignoredRanges c then some []
  else match expandedChars.find? (·.1 = c.toNat) with
    | some (_, s) => some s.toList
    | none =>
      match foldedRanges.find? fun (first, last, _) => first ≤ c.toNat && c.toNat ≤ last with
      | some (first, _, target) => some [Char.ofNat (target + (c.toNat - first))]
      | none => some [c]

/-- The characters that join others, which a name has only in few scripts. -/
def isJoiner (c : Char) : Bool := c.toNat = 0x200C || c.toNat = 0x200D

/-- Whether a part of a name starts and goes on well. -/
def isSoundLabel (label : List Char) : Bool :=
  (match label with
    | c :: _ => !(128 ≤ c.toNat && Unprintable.contains c)
    | [] => true)
    && !label.any isJoiner

/-! ## Directions -/

/-- How a character behaves in text of two directions. -/
inductive Direction
  /-- It is written from left to right. -/
  | left
  /-- It is written from right to left. -/
  | right
  /-- It is a digit of a number in text from right to left. -/
  | arabicDigit
  /-- It is a digit of a number in any text. -/
  | europeanDigit
  /-- It belongs to the character before it. -/
  | mark
  /-- It has no direction of its own. -/
  | neutral
deriving DecidableEq

/-- How a character behaves. -/
def directionOf (c : Char) : Direction :=
  if c.toNat < 128 then
    if c.isDigit then .europeanDigit else if c.isAlpha then .left else .neutral
  else if inRanges rightRanges c then .right
  else if inRanges arabicDigitRanges c then .arabicDigit
  else if inRanges europeanDigitRanges c then .europeanDigit
  else if inRanges markRanges c then .mark
  else if inRanges neutralRanges c then .neutral
  else .left

/-- Whether a name has text from right to left, so that its parts must not mix. -/
def hasRight (name : List Char) : Bool :=
  name.any fun c => directionOf c = .right || directionOf c = .arabicDigit

/-- Whether a part of a name in which some text goes from right to left has one
    direction: it begins and ends with it, but for marks, and has digits of one kind
    only. -/
def isOneWay (label : List Char) : Bool :=
  let ends := ((label.map directionOf).reverse.dropWhile (· = .mark)).reverse
  match label.head?.map directionOf with
  | none => true
  | some .left =>
    ends.all (fun d => d ≠ .right && d ≠ .arabicDigit)
      && (ends.getLast?.all fun d => d = .left || d = .europeanDigit)
  | some .right =>
    ends.all (· ≠ .left) && !(ends.contains .arabicDigit && ends.contains .europeanDigit)
      && (ends.getLast?.all fun d => d ≠ .neutral)
  | some _ => false

/-! ## Parts in ASCII that stand for others -/

/-- The digit of a part that stands for another. -/
def digit? (c : Char) : Option Nat :=
  if 'a' ≤ c ∧ c ≤ 'z' then some (c.toNat - 97)
  else if '0' ≤ c ∧ c ≤ '9' then some (c.toNat - 48 + 26)
  else none

/-- How the thresholds of digits move after a character. -/
def adapt (delta count : Nat) (isFirst : Bool) : Nat :=
  let delta := if isFirst then delta / 700 else delta / 2
  settle 64 (delta + delta / count) 0
where
  /-- Scales down until the rest is small. -/
  settle : Nat → Nat → Nat → Nat
    | 0, _, k => k
    | fuel + 1, delta, k =>
      if 455 < delta then settle fuel (delta / 35) (k + 36) else k + 36 * delta / (delta + 38)

/-- Reads one number of variable length, digit by digit. -/
def number? (bias : Nat) : Nat → Nat → Nat → List Char → Option (Nat × List Char)
  | _, _, _, [] => none
  | k, weight, n, c :: rest => do
    let d ← digit? c
    let n := n + d * weight
    let threshold := if k ≤ bias then 1 else if bias + 26 ≤ k then 26 else k - bias
    if d < threshold then some (n, rest)
    else number? bias (k + 36) (weight * (36 - threshold)) n rest

/-- Puts characters in among those that are there; `fuel` bounds their number. -/
def insertAll : Nat → Nat → Nat → Nat → Bool → List Char → List Char → Option (List Char)
  | 0, _, _, _, _, _, _ => none
  | _, _, _, _, _, out, [] => some out
  | fuel + 1, code, position, bias, isFirst, out, input => do
    let (n, rest) ← number? bias 36 1 position input
    let count := out.length + 1
    let code := code + n / count
    guard (code.isValidChar ∧ 128 ≤ code)
    let place := n % count
    insertAll fuel code (place + 1) (adapt (n - position) count isFirst) false
      (out.take place ++ Char.ofNat code :: out.drop place) rest

/-- The part that another in ASCII stands for, from behind its mark. -/
def unmarked? (label : List Char) : Option (List Char) :=
  let plain := (label.reverse.dropWhile (· ≠ '-')).reverse.dropLast
  let coded := (label.reverse.takeWhile (· ≠ '-')).reverse
  if coded.isEmpty then none else insertAll (coded.length + 1) 128 0 72 true plain coded

/-- The part that a part stands for; itself if that is in plain sight. -/
def meaning? (label : List Char) : Option (List Char) :=
  match label with
  | 'x' :: 'n' :: '-' :: '-' :: rest => do
    let cs ← unmarked? rest
    guard (cs.all fun c => fold c = some [c])
    return cs
  | label => some label

/-- The form of a name. -/
def normalize? (name : List Char) : Option (List Char) := do
  let cs := (← name.mapM fold).flatten
  let labels ← (cs.splitOn '.').mapM meaning?
  guard (labels.all isSoundLabel)
  guard (!labels.any hasRight || labels.all isOneWay)
  return cs

end ChainRelay.Http.Domain
