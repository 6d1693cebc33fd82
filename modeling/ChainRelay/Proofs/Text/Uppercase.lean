import ChainRelay.Text.Uppercase
import Mathlib.Data.List.Basic

/-!
# Upper case stays

Upper-casing a text again changes nothing (`ofText_ofText`). A character is its own
upper case unless it is listed in one of the two tables (`ofChar_of_not_mem`), so it has
to be seen that nothing which the tables give is listed in them. To compare the two
lists at once, each is kept as the number that has the bits at its members (`mask`): no
bit is in both of them (`disjoint_images`).
-/

namespace ChainRelay.Uppercase

/-! ## Lists as numbers -/

/-- The number with the bits at some positions. -/
def mask (positions : List Nat) : Nat := positions.foldr (fun n bits => bits ||| 1 <<< n) 0

theorem testBit_mask {positions : List Nat} {n : Nat} (h : n ∈ positions) :
    (mask positions).testBit n = true := by
  induction positions with
  | nil => exact absurd h List.not_mem_nil
  | cons m rest ih =>
    rw [mask, List.foldr_cons, ← mask, Nat.testBit_or, Bool.or_eq_true]
    rcases List.mem_cons.1 h with rfl | h
    · exact .inr (by simp)
    · exact .inl (ih h)

theorem disjoint_of_mask {l m : List Nat} (h : mask l &&& mask m = 0) : l.Disjoint m := by
  intro n hl hm
  have hbit : (mask l &&& mask m).testBit n = true := by
    rw [Nat.testBit_and, testBit_mask hl, testBit_mask hm]
    rfl
  rw [h, Nat.zero_testBit] at hbit
  exact Bool.noConfusion hbit

/-! ## What the tables list and give -/

/-- The letters of a run, moved by some amount. -/
def moved (run : Nat × Nat × Nat × Int) (shift : Int) : List Nat :=
  (List.range ((run.2.1 - run.1) / run.2.2.1 + 1)).map fun k =>
    ((run.1 + k * run.2.2.1 : Nat) + shift).toNat

/-- The characters that have another upper case. -/
def listed : List Nat :=
  expansions.toList.map Prod.fst ++ runs.toList.flatMap fun run => moved run 0

/-- The characters that they have as upper case. -/
def images : List Nat :=
  expansions.toList.flatMap Prod.snd ++ runs.toList.flatMap fun run => moved run run.2.2.2

theorem disjoint_images : images.Disjoint listed :=
  disjoint_of_mask (by decide +kernel)

theorem isValidChar_images : ∀ n ∈ images, n.isValidChar := by
  have h : images.all (fun n => decide n.isValidChar) = true := by decide +kernel
  simpa using h

theorem mem_moved {first last step n : Nat} {shift : Int} (shift' : Int) (hfirst : first ≤ n)
    (hlast : n ≤ last) (hstep : (n - first) % step = 0) :
    (n + shift').toNat ∈ moved (first, last, step, shift) shift' := by
  have hdvd := Nat.div_mul_cancel (Nat.dvd_of_mod_eq_zero hstep)
  refine List.mem_map.2 ⟨(n - first) / step, ?_, ?_⟩
  · rw [List.mem_range]
    exact Nat.lt_succ_of_le (Nat.div_le_div_right (Nat.sub_le_sub_right hlast first))
  · rw [hdvd, Nat.add_sub_cancel' hfirst]

/-- A run lists the letters in its range. -/
theorem mem_listed_of_mem_runs {first last step n : Nat} {shift : Int}
    (hrun : (first, last, step, shift) ∈ runs.toList) (hfirst : first ≤ n) (hlast : n ≤ last)
    (hstep : (n - first) % step = 0) : n ∈ listed :=
  List.mem_append_right _ (List.mem_flatMap.2 ⟨_, hrun, mem_moved 0 hfirst hlast hstep⟩)

/-! ## Characters -/

theorem toUpper_of_not_mem {c : Char} (h : c.toNat ∉ listed) : c.toUpper = c := by
  have hrun : (0x61, 0x7A, 1, -32) ∈ runs.toList := by decide
  exact dif_neg fun hc => h (mem_listed_of_mem_runs hrun hc.1 hc.2 (Nat.mod_one _))

/-- A character that is not listed is its own upper case. -/
theorem ofChar_of_not_mem {c : Char} (h : c.toNat ∉ listed) : ofChar c = [c] := by
  have hexpansions : expansions.find? (·.1 == c.toNat) = none := by
    rw [Array.find?_eq_none]
    intro e he heq
    exact h (List.mem_append_left _ (List.mem_map.2 ⟨e, Array.mem_def.1 he, by simpa using heq⟩))
  rw [ofChar, toUpper_of_not_mem h, wide, hexpansions, Array.find?_eq_none.2]
  · exact ite_self _
  · rintro ⟨first, last, step, shift⟩ hrun hc
    obtain ⟨hfirst, hlast, hstep⟩ := of_decide_eq_true hc
    exact h (mem_listed_of_mem_runs (Array.mem_def.1 hrun) hfirst hlast hstep)

theorem toUpper_toUpper_ascii : ∀ n < 128, (Char.ofNat n).toUpper.toNat < 128 ∧
    (Char.ofNat n).toUpper.toUpper = (Char.ofNat n).toUpper := by decide

theorem ofChar_ofNat_of_mem_images {n : Nat} (h : n ∈ images) :
    ofChar (Char.ofNat n) = [Char.ofNat n] := by
  have hn : (Char.ofNat n).toNat = n := by
    rw [Char.ofNat, dif_pos (isValidChar_images n h)]
    rfl
  exact ofChar_of_not_mem (hn.symm ▸ fun hlisted => disjoint_images h hlisted)

/-- What a character has as upper case is its own upper case. -/
theorem ofChar_of_mem_ofChar {c d : Char} (h : d ∈ ofChar c) : ofChar d = [d] := by
  rw [ofChar] at h
  split_ifs at h with hc
  · obtain ⟨hlt, heq⟩ := toUpper_toUpper_ascii c.toNat hc
    rw [Char.ofNat_toNat] at hlt heq
    rw [List.mem_singleton.1 h, ofChar, if_pos hlt, heq]
  · rw [wide] at h
    split at h
    · next e cs he =>
      -- The character stands in an expansion.
      obtain ⟨n, hn, rfl⟩ := List.mem_map.1 h
      have hmem := Array.mem_def.1 (Array.mem_of_find?_eq_some he)
      exact ofChar_ofNat_of_mem_images
        (List.mem_append_left _ (List.mem_flatMap.2 ⟨_, hmem, hn⟩))
    · next hexpansions =>
      split at h
      · next first last step shift hrun =>
        have hrange := Array.find?_some hrun
        simp only [decide_eq_true_eq] at hrange
        obtain ⟨hfirst, hlast, hstep⟩ := hrange
        have hmem := Array.mem_def.1 (Array.mem_of_find?_eq_some hrun)
        rw [List.mem_singleton.1 h]
        exact ofChar_ofNat_of_mem_images (List.mem_append_right _
          (List.mem_flatMap.2 ⟨_, hmem, mem_moved shift hfirst hlast hstep⟩))
      · next hruns =>
        rw [List.mem_singleton.1 h, ofChar, if_neg hc, wide, hexpansions, hruns]

/-- Every character has an upper case. -/
theorem ofChar_ne_nil (c : Char) : ofChar c ≠ [] := by
  have hexpansions : expansions.toList.all (fun e => !e.2.isEmpty) = true := by decide +kernel
  rw [ofChar]
  split_ifs
  · exact List.cons_ne_nil _ _
  · rw [wide]
    split
    · next e cs he =>
      have hne := List.all_eq_true.1 hexpansions _ (Array.mem_def.1 (Array.mem_of_find?_eq_some he))
      simpa using hne
    · split <;> exact List.cons_ne_nil _ _

/-! ## Texts -/

/-- Upper-casing a text again changes nothing. -/
theorem ofText_ofText (s : String) : ofText (ofText s) = ofText s := by
  rw [ofText, ofText, String.toList_ofList, List.flatMap_assoc]
  congr 1
  refine List.flatMap_congr fun c _ => ?_
  rw [List.flatMap_congr fun d hd => ofChar_of_mem_ofChar hd, List.flatMap_singleton']

theorem ofText_ne_empty {s : String} (h : s ≠ "") : ofText s ≠ "" := by
  intro heq
  have hnil := congrArg String.toList heq
  rw [ofText, String.toList_ofList] at hnil
  obtain ⟨c, cs, hcs⟩ := List.exists_cons_of_ne_nil fun hs => h (String.toList_eq_nil_iff.1 hs)
  rw [hcs, List.flatMap_cons] at hnil
  exact ofChar_ne_nil c (List.append_eq_nil_iff.1 hnil).1

end ChainRelay.Uppercase
