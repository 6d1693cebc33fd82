import ChainRelay.Proofs.Json.Sorting

/-!
# How deep a value is

Reading opens only so many containers in each other. The document of a value is taken
as that value if there is room for its depth (`Doc.take_ofJson`), and what was taken is
no deeper than the room there was (`Doc.depth_le_of_take`). Putting keys in order makes
nothing deeper (`Json.depth_sorted_le`).
-/

namespace ChainRelay

namespace Json

mutual
/-- How deep containers stand in each other. -/
def depth : Json → Nat
  | .array items => itemsDepth items + 1
  | .object members => membersDepth members + 1
  | .null | .bool _ | .number _ | .text _ => 0

/-- The depth of the deepest item. -/
def itemsDepth : List Json → Nat
  | [] => 0
  | x :: rest => max x.depth (itemsDepth rest)

/-- The depth of the deepest member. -/
def membersDepth : List (String × Json) → Nat
  | [] => 0
  | (_, x) :: rest => max x.depth (membersDepth rest)
end

end Json

mutual
/-- A value is taken as it is from its document. -/
theorem Doc.take_ofJson : ∀ {j : Json} {room : Nat}, j.depth ≤ room →
    (Doc.ofJson j).take room = .ok j
  | .null, _, _ | .bool _, _, _ | .number _, _, _ | .text _, _, _ => rfl
  | .array items, room, h => by
    rw [Json.depth] at h
    rw [Doc.ofJson, Doc.take, if_neg (by omega), Items.take_ofJson (by omega)]
    rfl
  | .object members, room, h => by
    rw [Json.depth] at h
    rw [Doc.ofJson, Doc.take, if_neg (by omega), Members.take_ofJson (by omega)]
    rfl

theorem Items.take_ofJson : ∀ {items : List Json} {room : Nat}, Json.itemsDepth items ≤ room →
    (Items.ofJson items).take room = .ok items
  | [], _, _ => rfl
  | x :: rest, room, h => by
    rw [Json.itemsDepth, Nat.max_le] at h
    rw [Items.ofJson, Items.take, Doc.take_ofJson h.1, Items.take_ofJson h.2]
    rfl

theorem Members.take_ofJson : ∀ {members : List (String × Json)} {room : Nat},
    Json.membersDepth members ≤ room → (Members.ofJson members).take room = .ok members
  | [], _, _ => rfl
  | (key, x) :: rest, room, h => by
    rw [Json.membersDepth, Nat.max_le] at h
    rw [Members.ofJson, Members.take, Doc.take_ofJson h.1, Members.take_ofJson h.2]
    rfl
end

mutual
/-- A value is no deeper than the room in which it was taken. -/
theorem Doc.depth_le_of_take : ∀ {d : Doc} {room : Nat} {j : Json}, d.take room = .ok j →
    j.depth ≤ room
  | .null, _, _, h | .bool _, _, _, h | .number (some _), _, _, h => by
    cases h
    exact Nat.zero_le _
  | .number none, _, _, h | .absent _, _, _, h | .torn _ _, _, _, h => by cases h
  | .text q, _, _, h => by
    obtain ⟨s, -, rfl⟩ := ok_of_map h
    exact Nat.zero_le _
  | .array items, room, _, h => by
    rw [Doc.take] at h
    split_ifs at h with hroom
    obtain ⟨xs, hxs, rfl⟩ := ok_of_map h
    have := Items.depth_le_of_take hxs
    rw [Json.depth]
    omega
  | .object members, room, _, h => by
    rw [Doc.take] at h
    split_ifs at h with hroom
    obtain ⟨xs, hxs, rfl⟩ := ok_of_map h
    have := Members.depth_le_of_take hxs
    rw [Json.depth]
    omega

theorem Items.depth_le_of_take : ∀ {items : Items} {room : Nat} {xs : List Json},
    items.take room = .ok xs → Json.itemsDepth xs ≤ room
  | .closed, _, _, h => by
    cases h
    exact Nat.zero_le _
  | .cut _, _, _, h => by cases h
  | .cons item rest, _, _, h => by
    rw [Items.take] at h
    obtain ⟨x, hx, h⟩ := ok_of_bind h
    obtain ⟨xs, hxs, h⟩ := ok_of_bind h
    cases h
    exact Nat.max_le.2 ⟨Doc.depth_le_of_take hx, Items.depth_le_of_take hxs⟩

theorem Members.depth_le_of_take : ∀ {members : Members} {room : Nat}
    {xs : List (String × Json)}, members.take room = .ok xs → Json.membersDepth xs ≤ room
  | .closed, _, _, h => by
    cases h
    exact Nat.zero_le _
  | .cut _, _, _, h | .stray _, _, _, h => by cases h
  | .cons key value rest, _, _, h => by
    rw [Members.take] at h
    obtain ⟨k, -, h⟩ := ok_of_bind h
    obtain ⟨x, hx, h⟩ := ok_of_bind h
    obtain ⟨xs, hxs, h⟩ := ok_of_bind h
    cases h
    exact Nat.max_le.2 ⟨Doc.depth_le_of_take hx, Members.depth_le_of_take hxs⟩
end

namespace Json

theorem membersDepth_le_iff {members : List (String × Json)} {n : Nat} :
    membersDepth members ≤ n ↔ ∀ member ∈ members, member.2.depth ≤ n := by
  induction members with
  | nil => simp [membersDepth]
  | cons member rest ih =>
    obtain ⟨key, x⟩ := member
    rw [membersDepth, Nat.max_le, ih, List.forall_mem_cons]

/-- Putting members in order makes none deeper. -/
theorem membersDepth_sortMembers_le (members : List (String × Json)) :
    membersDepth (sortMembers members) ≤ membersDepth members :=
  membersDepth_le_iff.2 fun member hmem =>
    membersDepth_le_iff.1 (Nat.le_refl _) member (mem_sortMembers hmem)

mutual
/-- Putting keys in order makes a value no deeper. -/
theorem depth_sorted_le : ∀ j : Json, j.sorted.depth ≤ j.depth
  | .null | .bool _ | .number _ | .text _ => Nat.le_refl _
  | .array items => Nat.succ_le_succ (itemsDepth_sortedItems_le items)
  | .object members => Nat.succ_le_succ
    ((membersDepth_sortMembers_le _).trans (membersDepth_sortedMembers_le members))

theorem itemsDepth_sortedItems_le : ∀ items : List Json,
    itemsDepth (sortedItems items) ≤ itemsDepth items
  | [] => Nat.le_refl _
  | x :: rest => max_le_max (depth_sorted_le x) (itemsDepth_sortedItems_le rest)

theorem membersDepth_sortedMembers_le : ∀ members : List (String × Json),
    membersDepth (sortedMembers members) ≤ membersDepth members
  | [] => Nat.le_refl _
  | (_, x) :: rest => max_le_max (depth_sorted_le x) (membersDepth_sortedMembers_le rest)
end

end Json

end ChainRelay
