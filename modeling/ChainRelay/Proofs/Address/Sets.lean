import ChainRelay.Proofs.Address
import Mathlib.Data.List.Basic
import Mathlib.Data.List.Forall2
import Mathlib.Data.List.Induction
import Mathlib.Data.List.Nodup

/-!
# Sets of addresses

A hash set finds an address by a digest of some bytes, and compares it with what it finds
there. That is sound only if addresses of one account have the same bytes, and complete
whatever the digest, as these bytes are what addresses are compared by
(`Address.same_iff_hashInput_eq`). The last of them is in no text, so no address ends
where another goes on (`Address.hashInput_eq_of_prefix`).

Hence a hash set of addresses holds what a list without repetitions holds, one address for
each account (`Address.hashed_perm_setOf`, `Address.hash_agrees`).
-/

namespace ChainRelay

/-! ## Bytes of texts -/

namespace Utf8

theorem ne_ff_of_mem_encodeChar {c : Char} {b : UInt8} (h : b ∈ String.utf8EncodeChar c) :
    b ≠ 0xff := by
  have hv : c.val.toNat < 0xD800 ∨ 0xDFFF < c.val.toNat ∧ c.val.toNat < 0x110000 := c.valid
  have hne {n : Nat} (hn : n < 255) : UInt8.ofNat n ≠ 0xff := fun heq => by
    have hnat := congrArg UInt8.toNat heq
    rw [toNat_ofNat (by omega)] at hnat
    exact absurd hnat (Nat.ne_of_lt hn)
  simp only [String.utf8EncodeChar] at h
  split_ifs at h
  all_goals simp only [List.mem_cons, List.not_mem_nil, or_false] at h
  · exact h ▸ hne (by omega)
  · rcases h with rfl | rfl <;> exact hne (by omega)
  · rcases h with rfl | rfl | rfl <;> exact hne (by omega)
  · rcases h with rfl | rfl | rfl | rfl <;> exact hne (by omega)

/-- The byte `0xff` is in no text. -/
theorem ff_not_mem_encode (s : String) : 0xff ∉ encode s := by
  intro h
  obtain ⟨c, -, hc⟩ := List.mem_flatMap.1 h
  exact ne_ff_of_mem_encodeChar hc rfl

end Utf8

namespace Address

variable {a b : Address} {l : List Address}

/-! ## Letters -/

/-- Two characters are one, or an ASCII letter in both cases. -/
def SameLetter (c d : Char) : Prop :=
  c = d ∨ (c.isUpper = true ∧ d.toNat = c.toNat + 32) ∨ (d.isUpper = true ∧ c.toNat = d.toNat + 32)

theorem isUpper_iff_val {c : Char} :
    c.isUpper = true ↔ c.val ≥ 'A'.val ∧ c.val ≤ 'Z'.val := decide_eq_true_iff

theorem isUpper_iff {c : Char} : c.isUpper = true ↔ 65 ≤ c.toNat ∧ c.toNat ≤ 90 :=
  isUpper_iff_val.trans (and_congr UInt32.le_iff_toNat_le UInt32.le_iff_toNat_le)

theorem toNat_toLower (c : Char) :
    c.toLower.toNat = if c.isUpper = true then c.toNat + 32 else c.toNat := by
  split_ifs with h
  · have hlower : c.toLower = ⟨c.val + 32, _⟩ := dif_pos (isUpper_iff_val.1 h)
    have hle := (isUpper_iff.1 h).2
    rw [hlower]
    -- The sum is no greater than `z`, so nothing is cut off.
    change (c.val + 32).toNat = _
    rw [UInt32.toNat_add]
    change (c.toNat + 32) % _ = _
    omega
  · have hlower : c.toLower = c := dif_neg (mt isUpper_iff_val.2 h)
    rw [hlower]

theorem toLower_eq_iff {c d : Char} : c.toLower = d.toLower ↔ SameLetter c d := by
  rw [← Char.toNat_inj, toNat_toLower, toNat_toLower, SameLetter, ← Char.toNat_inj]
  simp only [isUpper_iff]
  split_ifs <;> omega

/-- Addresses are the same account exactly if they have the same letters, but for the case
    of those that are ASCII. -/
theorem same_iff_forall₂ :
    a.same b = true ↔ List.Forall₂ SameLetter a.text.toList b.text.toList := by
  have htext (a : Address) : a.text.toLower.toList = a.text.toList.map Char.toLower :=
    String.toList_map
  rw [same_iff_alike, Alike, ← String.toList_inj, htext, htext, ← List.forall₂_eq_eq_eq,
    List.forall₂_map_left_iff, List.forall₂_map_right_iff]
  simp only [toLower_eq_iff]

/-! ## Bytes to be found by -/

theorem equivalence_same : Equivalence fun a b : Address => a.same b = true := by
  simp only [same, decide_eq_true_eq]
  exact ⟨fun _ => rfl, Eq.symm, Eq.trans⟩

theorem same_iff_hashInput_eq : a.same b = true ↔ a.hashInput = b.hashInput := by
  rw [same, decide_eq_true_eq, hashInput, hashInput, List.append_left_inj]

theorem ff_not_mem_folded (a : Address) : 0xff ∉ a.folded :=
  a.folded_eq_encode ▸ Utf8.ff_not_mem_encode _

/-- No address ends where another goes on. -/
theorem hashInput_eq_of_prefix (h : a.hashInput <+: b.hashInput) : a.hashInput = b.hashInput := by
  rcases List.prefix_concat_iff.1 h with heq | hfront
  · exact heq
  · -- The last byte of one would be inside of the other.
    have hmem : 0xff ∈ a.hashInput := by simp [hashInput]
    exact absurd (hfront.subset hmem) b.ff_not_mem_folded

/-! ## One address for each account -/

/-- Addresses by account. -/
def setoid : Setoid Address := ⟨fun a b => a.same b = true, equivalence_same⟩

/-- The account of an address. -/
def account (a : Address) : Quotient setoid := Quotient.mk setoid a

theorem account_eq_iff : a.account = b.account ↔ a.same b = true := Quotient.eq

theorem any_same_iff {set : List Address} :
    set.any a.same = true ↔ a.account ∈ set.map account := by
  simp only [List.any_eq_true, List.mem_map, ← account_eq_iff, eq_comm (a := a.account)]

theorem setOf_concat (l : List Address) (a : Address) : setOf (l ++ [a]) = insert (setOf l) a := by
  rw [setOf, List.foldl_append, ← setOf]
  rfl

/-- A set has the accounts of its addresses. -/
theorem mem_map_account_setOf {c : Quotient setoid} :
    c ∈ (setOf l).map account ↔ c ∈ l.map account := by
  induction l using List.reverseRecOn generalizing c with
  | nil => rfl
  | append_singleton l a ih =>
    rw [setOf_concat, insert, List.map_append, List.mem_append, ← ih, List.map_singleton,
      List.mem_singleton]
    split_ifs with ha
    · refine ⟨.inl, fun h => h.elim id ?_⟩
      rintro rfl
      exact any_same_iff.1 ha
    · rw [List.map_append, List.mem_append, List.map_singleton, List.mem_singleton]

/-- No two addresses of a set are of one account. -/
theorem nodup_map_account_setOf (l : List Address) : ((setOf l).map account).Nodup := by
  induction l using List.reverseRecOn with
  | nil => exact List.nodup_nil
  | append_singleton l a ih =>
    rw [setOf_concat, insert]
    split_ifs with ha
    · exact ih
    · rw [any_same_iff] at ha
      rw [List.map_append, List.map_singleton, ← List.concat_eq_append]
      exact ih.concat ha

/-- A set has no other addresses than it was made of. -/
theorem mem_of_mem_setOf (h : a ∈ setOf l) : a ∈ l := by
  induction l using List.reverseRecOn with
  | nil => exact h
  | append_singleton l b ih =>
    rw [setOf_concat, insert] at h
    split_ifs at h
    · exact List.mem_append_left _ (ih h)
    · rcases List.mem_append.1 h with h | h
      · exact List.mem_append_left _ (ih h)
      · exact List.mem_append_right _ h

/-! ## Hash sets -/

/-- An address in a hash set, where it is found by a digest of its bytes and compared by its
    account. -/
structure Member (digest : Bytes → UInt64) where
  /-- The address. -/
  address : Address

variable {digest : Bytes → UInt64}

instance : BEq (Member digest) := ⟨fun x y => x.address.same y.address⟩

instance : Hashable (Member digest) := ⟨fun x => digest x.address.hashInput⟩

instance : EquivBEq (Member digest) where
  rfl := equivalence_same.refl _
  symm := equivalence_same.symm
  trans := equivalence_same.trans

instance : LawfulHashable (Member digest) where
  hash_eq _ _ h := congrArg digest (same_iff_hashInput_eq.1 h)

/-- The hash set of some addresses. -/
def hashSet (digest : Bytes → UInt64) (l : List Address) : Std.HashSet (Member digest) :=
  (l.map Member.mk).foldl (fun set x => set.insert x) ∅

/-- The addresses in the hash set of some addresses. -/
def hashed (digest : Bytes → UInt64) (l : List Address) : List Address :=
  (hashSet digest l).toList.map Member.address

theorem hashSet_concat (l : List Address) (a : Address) :
    hashSet digest (l ++ [a]) = (hashSet digest l).insert ⟨a⟩ := by
  rw [hashSet, List.map_append, List.foldl_append, ← hashSet]
  rfl

/-- An address is found exactly if one of its account is there. -/
theorem mem_hashSet_iff : ⟨a⟩ ∈ hashSet digest l ↔ a.account ∈ (hashed digest l).map account := by
  have hfound : ⟨a⟩ ∈ hashSet digest l ↔
      ∃ x ∈ (hashSet digest l).toList, a.same x.address = true := by
    rw [Std.HashSet.mem_iff_contains, ← Std.HashSet.contains_toList,
      List.contains_iff_exists_mem_beq]
    rfl
  rw [hfound, hashed, ← any_same_iff, List.any_map, List.any_eq_true]
  rfl

/-- A hash set has the addresses that it would have if there were no hashes. -/
theorem hashed_perm_setOf (digest : Bytes → UInt64) (l : List Address) :
    (hashed digest l).Perm (setOf l) := by
  induction l using List.reverseRecOn with
  | nil => simp [hashed, hashSet, setOf]
  | append_singleton l a ih =>
    have hperm := (Std.HashSet.toList_insert_perm (m := hashSet digest l) (k := ⟨a⟩)).map
      Member.address
    rw [← hashSet_concat, ← hashed] at hperm
    refine hperm.trans ?_
    rw [setOf_concat, insert]
    have hiff : ⟨a⟩ ∈ hashSet digest l ↔ (setOf l).any a.same = true := by
      rw [mem_hashSet_iff, any_same_iff, (ih.map account).mem_iff]
    by_cases ha : (setOf l).any a.same = true
    · rw [if_pos (hiff.2 ha), if_pos ha]
      exact ih
    · rw [if_neg (mt hiff.1 ha), if_neg ha]
      exact (ih.cons a).trans (List.perm_append_singleton a _).symm

/-! ## All together -/

/-- Addresses are compared by account: by their letters, but for the case of those that are
    ASCII. Addresses of one account, and no others, have the same bytes to be found by, and
    no address ends where another goes on. So a hash set of addresses, whatever its digest,
    holds some of these addresses, one for each account of theirs and none for any other;
    which accounts these are does not depend on the order and the case of the addresses. -/
theorem hash_agrees :
    Equivalence (fun a b : Address => a.same b = true) ∧
    (∀ a b : Address,
      a.same b = true ↔ List.Forall₂ SameLetter a.text.toList b.text.toList) ∧
    (∀ a b : Address, a.same b = true ↔ a.hashInput = b.hashInput) ∧
    (∀ a b : Address, a.hashInput <+: b.hashInput → a.hashInput = b.hashInput) ∧
    (∀ (digest : Bytes → UInt64) (l : List Address), (hashed digest l).Perm (setOf l) ∧
      (∀ a ∈ hashed digest l, a ∈ l) ∧ ((hashed digest l).map account).Nodup ∧
        ∀ c, c ∈ (hashed digest l).map account ↔ c ∈ l.map account) ∧
    ∀ (digest digest' : Bytes → UInt64) (l l' : List Address),
      (l.map account).Perm (l'.map account) →
        ((hashed digest l).map account).Perm ((hashed digest' l').map account) := by
  have hheld (digest : Bytes → UInt64) (l : List Address) (c : Quotient setoid) :
      c ∈ (hashed digest l).map account ↔ c ∈ l.map account := by
    rw [((hashed_perm_setOf digest l).map account).mem_iff, mem_map_account_setOf]
  have hnodup (digest : Bytes → UInt64) (l : List Address) :
      ((hashed digest l).map account).Nodup :=
    ((hashed_perm_setOf digest l).map account).nodup_iff.2 (nodup_map_account_setOf l)
  refine ⟨equivalence_same, fun _ _ => same_iff_forall₂, fun _ _ => same_iff_hashInput_eq,
    fun _ _ => hashInput_eq_of_prefix, fun digest l => ⟨hashed_perm_setOf digest l,
      fun a ha => mem_of_mem_setOf ((hashed_perm_setOf digest l).mem_iff.1 ha), hnodup digest l,
      hheld digest l⟩, fun digest digest' l l' hperm => ?_⟩
  rw [List.perm_ext_iff_of_nodup (hnodup digest l) (hnodup digest' l')]
  intro c
  rw [hheld, hheld, hperm.mem_iff]

/-- Two cases of one account, and a letter beyond ASCII in another case. -/
theorem hash_agrees_on_cases :
    (⟨"0xABÄ"⟩ : Address).hashInput = (⟨"0xabÄ"⟩ : Address).hashInput ∧
      (hashed (fun _ => 0) [⟨"0xABÄ"⟩, ⟨"0xabä"⟩, ⟨"0xabÄ"⟩]).Perm [⟨"0xABÄ"⟩, ⟨"0xabä"⟩] := by
  obtain ⟨-, -, hsame, -, hset, -⟩ := hash_agrees
  exact ⟨(hsame _ _).1 (by decide), (hset _ _).1⟩

end Address

end ChainRelay
