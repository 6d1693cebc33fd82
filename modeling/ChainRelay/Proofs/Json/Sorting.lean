import ChainRelay.Proofs.Json.Reading
import Mathlib.Data.List.Induction
import Mathlib.Data.List.Nodup
import Mathlib.Data.String.Basic

/-!
# Ascending keys

What putting keys in order leaves as it was. If no key is repeated, each key stands
for the same value as before, that value in order itself (`get?_sorted`); and no
number of another kind comes in (`AllNumbers.sorted`). What is in order already stays
as it is (`sorted_sorted`).
-/

namespace ChainRelay.Json

/-! ## Looking up -/

section Lookup

variable {α : Type}

theorem lookup_cons_eq_ite (key : String) (x : α) (members : List (String × α)) (k : String) :
    ((key, x) :: members).lookup k = if k = key then some x else members.lookup k := by
  rw [List.lookup_cons]
  split_ifs with h
  · rw [h, beq_self_eq_true]
  · rw [beq_false_of_ne h]

theorem lookup_eq_none_of_not_mem {members : List (String × α)} {k : String}
    (h : k ∉ members.map Prod.fst) : members.lookup k = none := by
  rw [List.lookup_eq_none_iff]
  intro member hmem
  exact bne_iff_ne.2 fun heq => h (List.mem_map.2 ⟨member, hmem, heq.symm⟩)

theorem isSome_lookup_iff {members : List (String × α)} {k : String} :
    (members.lookup k).isSome ↔ k ∈ members.map Prod.fst := by
  rw [List.lookup_isSome_iff, List.mem_map]
  refine exists_congr fun member => and_congr_right fun _ => ?_
  rw [beq_iff_eq, eq_comm]

/-- A new member takes the place of one with its key, and nothing else changes. -/
theorem lookup_insertMember (key : String) (x : α) (members : List (String × α)) (k : String) :
    (insertMember key x members).lookup k = if k = key then some x else members.lookup k := by
  induction members with
  | nil => exact lookup_cons_eq_ite key x [] k
  | cons member rest ih =>
    obtain ⟨name, y⟩ := member
    rw [insertMember]
    by_cases hk : k = key
    · rw [if_pos hk]
      split_ifs with hlt heq
      · rw [lookup_cons_eq_ite, if_pos hk]
      · rw [lookup_cons_eq_ite, if_pos hk]
      · rw [lookup_cons_eq_ite, if_neg (hk ▸ heq), ih, if_pos hk]
    · rw [if_neg hk]
      split_ifs with hlt heq
      · rw [lookup_cons_eq_ite, if_neg hk]
      · rw [lookup_cons_eq_ite, if_neg hk, lookup_cons_eq_ite, if_neg (heq ▸ hk)]
      · rw [lookup_cons_eq_ite, ih, if_neg hk, lookup_cons_eq_ite]

theorem lookup_foldl_insertMember {members : List (String × α)}
    (h : (members.map Prod.fst).Nodup) (before : List (String × α)) (k : String) :
    (members.foldl (fun sorted (key, x) => insertMember key x sorted) before).lookup k
      = (members.lookup k).or (before.lookup k) := by
  induction members generalizing before with
  | nil => rfl
  | cons member rest ih =>
    obtain ⟨key, x⟩ := member
    rw [List.map_cons, List.nodup_cons] at h
    rw [List.foldl_cons, ih h.2, lookup_insertMember, lookup_cons_eq_ite]
    split_ifs with hk
    · rw [hk, lookup_eq_none_of_not_mem h.1]
      rfl
    · rfl

/-- Putting members in order changes nothing for who looks for a key. -/
theorem lookup_sortMembers {members : List (String × α)} (h : (members.map Prod.fst).Nodup)
    (k : String) : (sortMembers members).lookup k = members.lookup k := by
  rw [sortMembers, lookup_foldl_insertMember h, List.lookup_nil, Option.or_none]

end Lookup

theorem sortedItems_eq_map (items : List Json) : sortedItems items = items.map sorted := by
  induction items with
  | nil => rfl
  | cons x rest ih => rw [sortedItems, ih, List.map_cons]

theorem sortedMembers_eq_map (members : List (String × Json)) :
    sortedMembers members = members.map (Prod.map id sorted) := by
  induction members with
  | nil => rfl
  | cons member rest ih => rw [sortedMembers, ih, List.map_cons]; rfl

/-- The keys of members stay in place. -/
theorem map_fst_sortedMembers (members : List (String × Json)) :
    (sortedMembers members).map Prod.fst = members.map Prod.fst := by
  rw [sortedMembers_eq_map, List.map_map]
  rfl

theorem lookup_sortedMembers (members : List (String × Json)) (k : String) :
    (sortedMembers members).lookup k = (members.lookup k).map sorted := by
  induction members with
  | nil => rfl
  | cons member rest ih =>
    obtain ⟨key, x⟩ := member
    rw [sortedMembers, lookup_cons_eq_ite, lookup_cons_eq_ite, ih]
    split_ifs <;> rfl

/-- In order, each key stands for what it stood for. -/
theorem get?_sorted {members : List (String × Json)} (h : (members.map Prod.fst).Nodup)
    (k : String) : (object members).sorted.get? k = (members.lookup k).map sorted := by
  rw [← map_fst_sortedMembers] at h
  rw [sorted, get?, lookup_sortMembers h, lookup_sortedMembers]

/-! ## Numbers -/

section Numbers

variable {p : Number → Prop}

theorem MembersAllNumbers.insertMember {key : String} {x : Json} (hx : x.AllNumbers p)
    {members : List (String × Json)} (h : MembersAllNumbers p members) :
    MembersAllNumbers p (insertMember key x members) := by
  induction members with
  | nil => exact ⟨hx, trivial⟩
  | cons member rest ih =>
    obtain ⟨name, y⟩ := member
    rw [Json.insertMember]
    split_ifs
    · exact ⟨hx, h⟩
    · exact ⟨hx, h.2⟩
    · exact ⟨h.1, ih h.2⟩

theorem MembersAllNumbers.sortMembers {members : List (String × Json)}
    (h : MembersAllNumbers p members) : MembersAllNumbers p (sortMembers members) := by
  suffices hfold : ∀ before, MembersAllNumbers p before → MembersAllNumbers p (members.foldl
      (fun sorted member => Json.insertMember member.1 member.2 sorted) before) from
    hfold [] trivial
  induction members with
  | nil => exact fun _ hbefore => hbefore
  | cons member rest ih => exact fun _ hbefore => ih h.2 _ (hbefore.insertMember h.1)

mutual
/-- No number of another kind comes into a value. -/
theorem AllNumbers.sorted : ∀ {j : Json}, j.AllNumbers p → j.sorted.AllNumbers p
  | .null, _ | .bool _, _ | .text _, _ => trivial
  | .number _, h => h
  | .array _, h => ItemsAllNumbers.sortedItems h
  | .object _, h => (MembersAllNumbers.sortedMembers h).sortMembers

theorem ItemsAllNumbers.sortedItems :
    ∀ {items : List Json}, ItemsAllNumbers p items → ItemsAllNumbers p (sortedItems items)
  | [], _ => trivial
  | _ :: _, h => ⟨AllNumbers.sorted h.1, ItemsAllNumbers.sortedItems h.2⟩

theorem MembersAllNumbers.sortedMembers : ∀ {members : List (String × Json)},
    MembersAllNumbers p members → MembersAllNumbers p (sortedMembers members)
  | [], _ => trivial
  | _ :: _, h => ⟨AllNumbers.sorted h.1, MembersAllNumbers.sortedMembers h.2⟩
end

/-- No number comes into a value. -/
theorem HasNoNumber.sorted {j : Json} (h : j.HasNoNumber) : j.sorted.HasNoNumber :=
  (AllNumbers.sorted h.allNumbers).hasNoNumber

end Numbers

/-! ## Putting in order again -/

section Ascending

variable {α : Type}

/-- The keys of the members ascend. -/
def Ascending (members : List (String × α)) : Prop := members.Pairwise fun a b => a.1 < b.1

theorem mem_insertMember {key : String} {x : α} {members : List (String × α)}
    {member : String × α} (h : member ∈ insertMember key x members) :
    member = (key, x) ∨ member ∈ members := by
  induction members with
  | nil => exact .inl (List.mem_singleton.1 h)
  | cons first rest ih =>
    rw [insertMember] at h
    split_ifs at h with hlt heq
    · exact List.mem_cons.1 h
    · exact (List.mem_cons.1 h).imp_right (List.mem_cons_of_mem _)
    · rcases List.mem_cons.1 h with rfl | h
      · exact .inr List.mem_cons_self
      · exact (ih h).imp_right (List.mem_cons_of_mem _)

theorem Ascending.insertMember {key : String} {x : α} {members : List (String × α)}
    (h : Ascending members) : Ascending (insertMember key x members) := by
  induction members with
  | nil => exact List.pairwise_singleton _ _
  | cons first rest ih =>
    obtain ⟨hfirst, hrest⟩ := List.pairwise_cons.1 h
    rw [Json.insertMember]
    split_ifs with hlt heq
    · refine List.pairwise_cons.2 ⟨fun member hmem => ?_, h⟩
      rcases List.mem_cons.1 hmem with rfl | hmem
      · exact hlt
      · exact lt_trans hlt (hfirst member hmem)
    · exact List.pairwise_cons.2 ⟨heq ▸ hfirst, hrest⟩
    · refine List.pairwise_cons.2 ⟨fun member hmem => ?_, ih hrest⟩
      rcases mem_insertMember hmem with rfl | hmem
      · exact lt_of_le_of_ne (not_lt.1 hlt) (Ne.symm heq)
      · exact hfirst member hmem

theorem ascending_sortMembers (members : List (String × α)) : Ascending (sortMembers members) :=
  List.foldlRecOn members _ List.Pairwise.nil fun _ h _ _ => h.insertMember

/-- Members come from among those that are put in order. -/
theorem mem_sortMembers {members : List (String × α)} {member : String × α}
    (h : member ∈ sortMembers members) : member ∈ members := by
  have hsubset : sortMembers members ⊆ members := by
    refine List.foldlRecOn (motive := (· ⊆ members)) members _ (List.nil_subset _) ?_
    intro before hbefore m hm member hmem
    rcases mem_insertMember hmem with rfl | hmem
    · exact hm
    · exact hbefore hmem
  exact hsubset h

/-- A member with a key of its own is added to the others. -/
theorem insertMember_perm {key : String} (x : α) {members : List (String × α)}
    (h : key ∉ members.map Prod.fst) : (insertMember key x members).Perm ((key, x) :: members) := by
  induction members with
  | nil => exact .refl _
  | cons first rest ih =>
    rw [List.map_cons, List.mem_cons, not_or] at h
    rw [insertMember]
    split_ifs with hlt heq
    · exact .refl _
    · exact absurd heq h.1
    · exact ((ih h.2).cons first).trans (.swap (key, x) first rest)

/-- If no key is repeated, putting members in order neither adds nor drops any. -/
theorem sortMembers_perm {members : List (String × α)} (h : (members.map Prod.fst).Nodup) :
    (sortMembers members).Perm members := by
  induction members using List.reverseRecOn with
  | nil => exact .refl _
  | append_singleton members last ih =>
    rw [List.map_append, List.nodup_append_comm] at h
    obtain ⟨hlast, hmembers⟩ := List.nodup_cons.1 h
    have hsorted := ih hmembers
    have hinsert := insertMember_perm last.2 fun hmem =>
      hlast ((hsorted.map Prod.fst).mem_iff.1 hmem)
    rw [sortMembers, List.foldl_append, ← sortMembers]
    exact (hinsert.trans (hsorted.cons last)).trans (List.perm_append_singleton last members).symm

theorem Ascending.nodup {members : List (String × α)} (h : Ascending members) :
    (members.map Prod.fst).Nodup :=
  List.pairwise_map.2 (h.imp ne_of_lt)

/-- Members can be put in order in one way only. -/
theorem Ascending.eq_of_perm {xs ys : List (String × α)} (hxs : Ascending xs) (hys : Ascending ys)
    (h : xs.Perm ys) : xs = ys :=
  h.eq_of_pairwise (fun _ _ _ _ hab hba => absurd hba (lt_asymm hab)) hxs hys

/-- A member whose key is beyond all others goes to the end. -/
theorem insertMember_of_lt {key : String} (x : α) {members : List (String × α)}
    (h : ∀ member ∈ members, member.1 < key) :
    insertMember key x members = members ++ [(key, x)] := by
  induction members with
  | nil => rfl
  | cons first rest ih =>
    have hlt := h first List.mem_cons_self
    rw [insertMember, if_neg (lt_asymm hlt), if_neg hlt.ne',
      ih fun member hmem => h member (List.mem_cons_of_mem _ hmem), List.cons_append]

/-- Members in order stay as they are. -/
theorem Ascending.sortMembers_eq {members : List (String × α)} (h : Ascending members) :
    sortMembers members = members := by
  induction members using List.reverseRecOn with
  | nil => rfl
  | append_singleton members last ih =>
    obtain ⟨hbefore, -, hlast⟩ := List.pairwise_append.1 h
    rw [sortMembers, List.foldl_append, ← sortMembers, ih hbefore]
    exact insertMember_of_lt last.2 fun member hmem => hlast member hmem last List.mem_cons_self

end Ascending

mutual
/-- A value whose keys ascend is left as it is. -/
theorem sorted_sorted : ∀ j : Json, j.sorted.sorted = j.sorted
  | .null | .bool _ | .number _ | .text _ => rfl
  | .array items => congrArg array (sortedItems_sortedItems items)
  | .object members => by
    have hfixed : sortedMembers (sortMembers (sortedMembers members))
        = sortMembers (sortedMembers members) := by
      rw [sortedMembers_eq_map (sortMembers (sortedMembers members))]
      refine (List.map_congr_left fun member hmem => ?_).trans (List.map_id _)
      exact Prod.ext rfl (sorted_of_mem_sortedMembers members member (mem_sortMembers hmem))
    rw [sorted, sorted, hfixed, (ascending_sortMembers _).sortMembers_eq]

theorem sortedItems_sortedItems : ∀ items : List Json,
    sortedItems (sortedItems items) = sortedItems items
  | [] => rfl
  | x :: rest => by
    rw [sortedItems, sortedItems, sorted_sorted x, sortedItems_sortedItems rest]

theorem sorted_of_mem_sortedMembers : ∀ (members : List (String × Json)),
    ∀ member ∈ sortedMembers members, member.2.sorted = member.2
  | [], _, h => absurd h List.not_mem_nil
  | (_, x) :: rest, member, h => by
    rcases List.mem_cons.1 h with rfl | h
    · exact sorted_sorted x
    · exact sorted_of_mem_sortedMembers rest member h
end

end ChainRelay.Json
