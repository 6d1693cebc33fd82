import ChainRelay.Json.Reader
import Mathlib.Algebra.Group.Int.Defs
import Mathlib.Algebra.Group.Nat.Defs
import Mathlib.Tactic.Common

/-!
# The numbers of a value

Whether all numbers in a value, or in a document, are of some kind (`AllNumbers`).
The kinds that matter are integers of sixty-four bits (`Number.IsWord`), whose text
is read as it was written, and numbers that are such integers unless they are
floating-point numbers (`Number.Fits`). A reader keeps no other numbers, since it
gathers digits only up to the bound of sixty-four bits; so all numbers of a document
that was read fit (`Doc.allNumbers_read`).
-/

namespace ChainRelay

section Results

variable {ε α β : Type}

/-- What follows a result that is there. -/
theorem ok_of_bind {x : Except ε α} {f : α → Except ε β} {b : β} (h : x >>= f = .ok b) :
    ∃ a, x = .ok a ∧ f a = .ok b := by
  cases x with
  | error e => cases h
  | ok a => exact ⟨a, rfl, h⟩

/-- What a result is made from. -/
theorem ok_of_map {x : Except ε α} {f : α → β} {b : β} (h : x.map f = .ok b) :
    ∃ a, x = .ok a ∧ f a = b := by
  cases x with
  | error e => cases h
  | ok a => exact ⟨a, rfl, Except.ok.inj h⟩

end Results

namespace Number

/-- An integer of sixty-four bits, signed or not. -/
def IsWord : Number → Prop
  | .integer n => -2 ^ 63 ≤ n ∧ n < 2 ^ 64
  | .float _ => False

/-- An integer. -/
def IsInteger : Number → Prop
  | .integer _ => True
  | .float _ => False

/-- An integer of sixty-four bits, or no integer. -/
def Fits : Number → Prop
  | .integer n => -2 ^ 63 ≤ n ∧ n < 2 ^ 64
  | .float _ => True

instance : DecidablePred IsWord := fun
  | .integer _ => inferInstanceAs (Decidable (_ ∧ _))
  | .float _ => inferInstanceAs (Decidable False)

instance : DecidablePred IsInteger := fun
  | .integer _ => inferInstanceAs (Decidable True)
  | .float _ => inferInstanceAs (Decidable False)

theorem Fits.isWord {n : Number} (h : n.Fits) (hn : n.IsInteger) : n.IsWord := by
  cases n with
  | integer n => exact h
  | float x => exact hn.elim

end Number

variable {p q : Number → Prop}

namespace Json

mutual
/-- Every number in a value is of a kind. -/
def AllNumbers (p : Number → Prop) : Json → Prop
  | .number n => p n
  | .array items => ItemsAllNumbers p items
  | .object members => MembersAllNumbers p members
  | .null | .bool _ | .text _ => True

/-- Every number in values is of a kind. -/
def ItemsAllNumbers (p : Number → Prop) : List Json → Prop
  | [] => True
  | x :: rest => x.AllNumbers p ∧ ItemsAllNumbers p rest

/-- Every number in the values of members is of a kind. -/
def MembersAllNumbers (p : Number → Prop) : List (String × Json) → Prop
  | [] => True
  | (_, x) :: rest => x.AllNumbers p ∧ MembersAllNumbers p rest
end

/-- There is no floating-point number in a value. -/
def HasNoFloat (j : Json) : Prop := j.AllNumbers Number.IsInteger

mutual
/-- Numbers of two kinds are of any kind that follows from both. -/
theorem AllNumbers.imp₂ {r : Number → Prop} (h : ∀ n, p n → q n → r n) :
    ∀ {j : Json}, j.AllNumbers p → j.AllNumbers q → j.AllNumbers r
  | .null, _, _ | .bool _, _, _ | .text _, _, _ => trivial
  | .number n, hp, hq => h n hp hq
  | .array _, hp, hq => ItemsAllNumbers.imp₂ h hp hq
  | .object _, hp, hq => MembersAllNumbers.imp₂ h hp hq

theorem ItemsAllNumbers.imp₂ {r : Number → Prop} (h : ∀ n, p n → q n → r n) :
    ∀ {items : List Json}, ItemsAllNumbers p items → ItemsAllNumbers q items →
      ItemsAllNumbers r items
  | [], _, _ => trivial
  | _ :: _, hp, hq => ⟨AllNumbers.imp₂ h hp.1 hq.1, ItemsAllNumbers.imp₂ h hp.2 hq.2⟩

theorem MembersAllNumbers.imp₂ {r : Number → Prop} (h : ∀ n, p n → q n → r n) :
    ∀ {members : List (String × Json)}, MembersAllNumbers p members →
      MembersAllNumbers q members → MembersAllNumbers r members
  | [], _, _ => trivial
  | _ :: _, hp, hq => ⟨AllNumbers.imp₂ h hp.1 hq.1, MembersAllNumbers.imp₂ h hp.2 hq.2⟩
end

end Json

mutual
/-- Every number in a document is of a kind. -/
def Doc.AllNumbers (p : Number → Prop) : Doc → Prop
  | .number (some n) => p n
  | .array items => items.AllNumbers p
  | .object members => members.AllNumbers p
  | .null | .bool _ | .number none | .text _ | .absent _ | .torn _ _ => True

/-- Every number in items is of a kind. -/
def Items.AllNumbers (p : Number → Prop) : Items → Prop
  | .closed | .cut _ => True
  | .cons item rest => item.AllNumbers p ∧ rest.AllNumbers p

/-- Every number in the values of members is of a kind. -/
def Members.AllNumbers (p : Number → Prop) : Members → Prop
  | .closed | .cut _ | .stray _ => True
  | .cons _ value rest => value.AllNumbers p ∧ rest.AllNumbers p
end

mutual
/-- The numbers of the value that a document is taken as are those of the document. -/
theorem Doc.AllNumbers.take : ∀ {d : Doc} {room : Nat} {j : Json}, d.AllNumbers p →
    d.take room = .ok j → j.AllNumbers p
  | .null, _, _, _, h | .bool _, _, _, _, h => by
    cases h
    trivial
  | .number (some _), _, _, hd, h => by
    cases h
    exact hd
  | .number none, _, _, _, h | .absent _, _, _, _, h | .torn _ _, _, _, _, h => by cases h
  | .text q, _, _, _, h => by
    cases q <;> cases h
    trivial
  | .array items, room, j, hd, h => by
    rw [Doc.take] at h
    split_ifs at h with hroom
    obtain ⟨xs, hxs, rfl⟩ := ok_of_map h
    exact Items.AllNumbers.take hd hxs
  | .object members, room, j, hd, h => by
    rw [Doc.take] at h
    split_ifs at h with hroom
    obtain ⟨xs, hxs, rfl⟩ := ok_of_map h
    exact Members.AllNumbers.take hd hxs

theorem Items.AllNumbers.take : ∀ {items : Items} {room : Nat} {xs : List Json},
    items.AllNumbers p → items.take room = .ok xs → Json.ItemsAllNumbers p xs
  | .closed, _, _, _, h => by
    cases h
    trivial
  | .cut _, _, _, _, h => by cases h
  | .cons item rest, room, _, hd, h => by
    rw [Items.take] at h
    obtain ⟨x, hx, h⟩ := ok_of_bind h
    obtain ⟨xs, hxs, h⟩ := ok_of_bind h
    cases h
    exact ⟨Doc.AllNumbers.take hd.1 hx, Items.AllNumbers.take hd.2 hxs⟩

theorem Members.AllNumbers.take : ∀ {members : Members} {room : Nat}
    {xs : List (String × Json)}, members.AllNumbers p → members.take room = .ok xs →
      Json.MembersAllNumbers p xs
  | .closed, _, _, _, h => by
    cases h
    trivial
  | .cut _, _, _, _, h | .stray _, _, _, _, h => by cases h
  | .cons key value rest, room, _, hd, h => by
    rw [Members.take] at h
    obtain ⟨k, -, h⟩ := ok_of_bind h
    obtain ⟨x, hx, h⟩ := ok_of_bind h
    obtain ⟨xs, hxs, h⟩ := ok_of_bind h
    cases h
    exact ⟨Doc.AllNumbers.take hd.1 hx, Members.AllNumbers.take hd.2 hxs⟩
end

/-! ## Numbers that are read -/

namespace Literal

theorem gather_lt {n : Nat} (hn : n < bound) (ds : List Nat) : (gather n ds).1 < bound := by
  induction ds generalizing n with
  | nil => exact hn
  | cons d ds ih =>
    rw [gather]
    split_ifs with h
    · exact ih h
    · exact hn

/-- A number that is kept fits. -/
theorem fits_of_number? {l : Literal} {n : Number} (h : l.number? = some n) : n.Fits := by
  have hlt : (gather 0 l.whole).1 < 2 ^ 64 := gather_lt (by decide) l.whole
  rw [number?] at h
  dsimp only at h
  split_ifs at h with hw hn
  · -- Behind a minus, no number beyond the least of sixty-four bits is kept.
    rw [Option.some.injEq] at h
    subst h
    simp only [hn, Bool.not_true, Bool.false_eq_true, false_or] at hw
    have hle : (gather 0 l.whole).1 ≤ 2 ^ 63 := hw.2.2.2.2
    rw [Number.Fits]
    omega
  · rw [Option.some.injEq] at h
    subst h
    rw [Number.Fits]
    omega
  all_goals
    obtain ⟨x, -, rfl⟩ := Option.map_eq_some_iff.1 h
    trivial

theorem allNumbers_number? (l : Literal) : (Doc.number l.number?).AllNumbers Number.Fits := by
  cases h : l.number? with
  | none => trivial
  | some n => exact fits_of_number? h

theorem allNumbers_missingDigit (input : Units) : (missingDigit input).AllNumbers p := by
  cases input <;> trivial

theorem allNumbers_withExponent (l : Literal) (input : Units) :
    (withExponent l input).1.AllNumbers Number.Fits := by
  fun_cases withExponent l input
  all_goals first
    | exact allNumbers_number? _
    | exact allNumbers_missingDigit _

theorem allNumbers_withFraction (l : Literal) (input : Units) :
    (withFraction l input).1.AllNumbers Number.Fits := by
  fun_cases withFraction l input
  all_goals first
    | exact allNumbers_withExponent _ _
    | exact allNumbers_missingDigit _

theorem allNumbers_scan (negative : Bool) (input : Units) :
    (scan negative input).1.AllNumbers Number.Fits := by
  fun_cases scan negative input
  · exact allNumbers_missingDigit _
  · trivial
  · exact allNumbers_withFraction _ _

end Literal

namespace Doc

theorem allNumbers_word {d : Doc} (hd : d.AllNumbers p) (cs : List Char) (input : Units) :
    (word d cs input).1.AllNumbers p := by
  induction cs generalizing input with
  | nil => exact hd
  | cons c cs ih =>
    cases input with
    | nil => trivial
    | cons u rest =>
      rw [word]
      split_ifs
      · exact ih rest
      · trivial

/-- All numbers fit in what is read with some fuel. -/
def KeepsNumbers (fuel : Nat) : Prop :=
  ∀ input, (scan fuel input).1.AllNumbers Number.Fits ∧
    (scanItems fuel input).1.AllNumbers Number.Fits ∧
    (scanMembers fuel input).1.AllNumbers Number.Fits

theorem keepsNumbers (fuel : Nat) : KeepsNumbers fuel := by
  induction fuel with
  | zero => exact fun _ => ⟨trivial, trivial, trivial⟩
  | succ fuel ih =>
    intro input
    -- Whatever is read, all that stands in it is read with less fuel.
    refine ⟨?_, ?_, ?_⟩
    · rw [scan]
      split
      · trivial
      · trivial
      · split_ifs
        · split
          · trivial
          · trivial
          · exact (ih _).2.2
        · split
          · trivial
          · trivial
          · exact (ih _).2.1
        · trivial
        · exact Literal.allNumbers_scan _ _
        · exact Literal.allNumbers_scan _ _
        · exact allNumbers_word (show Doc.null.AllNumbers _ from trivial) _ _
        · exact allNumbers_word (show (Doc.bool true).AllNumbers _ from trivial) _ _
        · exact allNumbers_word (show (Doc.bool false).AllNumbers _ from trivial) _ _
        · trivial
    · rw [scanItems]
      dsimp only
      split
      · exact ⟨(ih _).1, trivial⟩
      · exact ⟨(ih _).1, trivial⟩
      · exact ⟨(ih _).1, (ih _).2.1⟩
      · exact ⟨(ih _).1, trivial⟩
    · rw [scanMembers]
      split
      · dsimp only
        split
        · split
          · exact ⟨(ih _).1, trivial⟩
          · exact ⟨(ih _).1, trivial⟩
          · exact ⟨(ih _).1, (ih _).2.2⟩
          · exact ⟨(ih _).1, trivial⟩
        · exact ⟨trivial, trivial⟩
        · exact ⟨trivial, trivial⟩
      · trivial

/-- All numbers of a document that was read fit. -/
theorem allNumbers_read (bytes : Bytes) : (read bytes).1.AllNumbers Number.Fits :=
  (keepsNumbers (2 * (Utf8.scan bytes).length + 2) (Utf8.scan bytes)).1

end Doc

end ChainRelay
