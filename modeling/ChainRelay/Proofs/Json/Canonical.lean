import ChainRelay.Proofs.Json.Blank
import ChainRelay.Proofs.Json.Restoring
import ChainRelay.Proofs.Json.Telling

/-!
# Canonical texts

A text is canonical if it has no white space between its quoted texts and the keys of
every object ascend in the order of their bytes (`Json.IsCanonical`). The text of a
value with its keys in order is canonical, and it is a text of the same value as before
(`Json.isCanonical_sorted`), provided that no key is repeated in any object and that
reading has room for the depth of the value (`Json.Neat`). What codecs write has both
(`Codec.Neat`), and every way to make a codec from others keeps this.

That values are the same is said of members in any order (`Json.Same`), and has nothing
to do with how keys are put in order; a value has at most one form in which all keys
ascend (`Json.Same.eq`), and values that are the same come to one such form
(`Json.Same.sorted_eq`).
-/

namespace ChainRelay

namespace Json

/-! ## Keys -/

mutual
/-- The keys of every object in a value, as they follow each other, are of a kind. -/
def AllKeys (p : List String → Prop) : Json → Prop
  | .array items => ItemsAllKeys p items
  | .object members => p (members.map Prod.fst) ∧ MembersAllKeys p members
  | .null | .bool _ | .number _ | .text _ => True

/-- The keys of every object in values are of a kind. -/
def ItemsAllKeys (p : List String → Prop) : List Json → Prop
  | [] => True
  | x :: rest => x.AllKeys p ∧ ItemsAllKeys p rest

/-- The keys of every object in the values of members are of a kind. -/
def MembersAllKeys (p : List String → Prop) : List (String × Json) → Prop
  | [] => True
  | (_, x) :: rest => x.AllKeys p ∧ MembersAllKeys p rest
end

/-- Before another text in the order of bytes. -/
def Precedes (s t : String) : Prop := Utf8.encode s < Utf8.encode t

theorem Precedes.asymm {s t : String} (h : Precedes s t) : ¬ Precedes t s := List.lt_asymm h

/-- In no object is a key repeated. -/
def KeysDiffer (j : Json) : Prop := j.AllKeys List.Nodup

/-- In every object the keys ascend in the order of their bytes. -/
def KeysAscend (j : Json) : Prop := j.AllKeys (List.Pairwise Precedes)

theorem membersAllKeys_iff {p : List String → Prop} {members : List (String × Json)} :
    MembersAllKeys p members ↔ ∀ member ∈ members, member.2.AllKeys p := by
  induction members with
  | nil => simp [MembersAllKeys]
  | cons member rest ih =>
    obtain ⟨key, x⟩ := member
    rw [MembersAllKeys, ih, List.forall_mem_cons]

theorem itemsAllKeys_iff {p : List String → Prop} {items : List Json} :
    ItemsAllKeys p items ↔ ∀ item ∈ items, item.AllKeys p := by
  induction items with
  | nil => simp [ItemsAllKeys]
  | cons item rest ih => rw [ItemsAllKeys, ih, List.forall_mem_cons]

theorem Ascending.precedes {α : Type} {members : List (String × α)} (h : Ascending members) :
    (members.map Prod.fst).Pairwise Precedes :=
  List.pairwise_map.2 (h.imp Utf8.encode_lt)

mutual
/-- With its keys in order, the keys of every object in a value ascend. -/
theorem keysAscend_sorted : ∀ j : Json, j.sorted.KeysAscend
  | .null | .bool _ | .number _ | .text _ => trivial
  | .array items => itemsKeysAscend_sortedItems items
  | .object members =>
    ⟨(ascending_sortMembers _).precedes, membersAllKeys_iff.2 fun member hmem =>
      membersAllKeys_iff.1 (membersKeysAscend_sortedMembers members) member (mem_sortMembers hmem)⟩

theorem itemsKeysAscend_sortedItems : ∀ items : List Json,
    ItemsAllKeys (List.Pairwise Precedes) (sortedItems items)
  | [] => trivial
  | x :: rest => ⟨keysAscend_sorted x, itemsKeysAscend_sortedItems rest⟩

theorem membersKeysAscend_sortedMembers : ∀ members : List (String × Json),
    MembersAllKeys (List.Pairwise Precedes) (sortedMembers members)
  | [] => trivial
  | (_, x) :: rest => ⟨keysAscend_sorted x, membersKeysAscend_sortedMembers rest⟩
end

/-! ## The same value -/

mutual
/-- The values are the same but for the order of the members of objects. -/
inductive Same : Json → Json → Prop
  | null : Same .null .null
  | bool (b : Bool) : Same (.bool b) (.bool b)
  | number (n : Number) : Same (.number n) (.number n)
  | text (s : String) : Same (.text s) (.text s)
  | array {xs ys : List Json} (h : SameItems xs ys) : Same (.array xs) (.array ys)
  /-- The members are the same one by one, and then put in any order. -/
  | object {xs ys zs : List (String × Json)} (h : SameMembers xs ys) (hperm : ys.Perm zs) :
      Same (.object xs) (.object zs)

/-- The items are the same one by one. -/
inductive SameItems : List Json → List Json → Prop
  | nil : SameItems [] []
  | cons {x y : Json} {xs ys : List Json} (first : Same x y) (others : SameItems xs ys) :
      SameItems (x :: xs) (y :: ys)

/-- The members have the same keys and the same values one by one. -/
inductive SameMembers : List (String × Json) → List (String × Json) → Prop
  | nil : SameMembers [] []
  | cons {key : String} {x y : Json} {xs ys : List (String × Json)} (first : Same x y)
      (others : SameMembers xs ys) : SameMembers ((key, x) :: xs) ((key, y) :: ys)
end

mutual
/-- A value without repeated keys is the same with its keys in order. -/
theorem same_sorted : ∀ {j : Json}, j.KeysDiffer → j.Same j.sorted
  | .null, _ => .null
  | .bool b, _ => .bool b
  | .number n, _ => .number n
  | .text s, _ => .text s
  | .array _, h => .array (sameItems_sortedItems h)
  | .object members, h => by
    have hkeys : ((sortedMembers members).map Prod.fst).Nodup :=
      (map_fst_sortedMembers members).symm ▸ h.1
    exact .object (sameMembers_sortedMembers h.2) (sortMembers_perm hkeys).symm

theorem sameItems_sortedItems : ∀ {items : List Json}, ItemsAllKeys List.Nodup items →
    SameItems items (sortedItems items)
  | [], _ => .nil
  | _ :: _, h => .cons (same_sorted h.1) (sameItems_sortedItems h.2)

theorem sameMembers_sortedMembers : ∀ {members : List (String × Json)},
    MembersAllKeys List.Nodup members → SameMembers members (sortedMembers members)
  | [], _ => .nil
  | _ :: _, h => .cons (same_sorted h.1) (sameMembers_sortedMembers h.2)
end

theorem SameMembers.map_fst {xs ys : List (String × Json)} (h : SameMembers xs ys) :
    ys.map Prod.fst = xs.map Prod.fst := by
  induction xs generalizing ys with
  | nil => cases h; rfl
  | cons member xs ih =>
    cases h with
    | cons first others => rw [List.map_cons, List.map_cons, ih others]

theorem eq_of_perm {xs ys : List (String × Json)} (h : xs.Perm ys)
    (hxs : (xs.map Prod.fst).Pairwise Precedes) (hys : (ys.map Prod.fst).Pairwise Precedes) :
    xs = ys := by
  rw [List.pairwise_map] at hxs hys
  exact h.eq_of_pairwise (fun _ _ _ _ hab hba => absurd hba hab.asymm) hxs hys

mutual
/-- A value has one form in which all keys ascend. -/
theorem Same.eq : ∀ {j k : Json}, j.Same k → j.KeysAscend → k.KeysAscend → j = k
  | _, _, .null, _, _ | _, _, .bool _, _, _ | _, _, .number _, _, _ | _, _, .text _, _, _ => rfl
  | _, _, .array h, hj, hk => congrArg Json.array (h.eq hj hk)
  | _, _, .object h hperm, hj, hk => by
    obtain rfl := eq_of_perm hperm (h.map_fst ▸ hj.1) hk.1
    exact congrArg Json.object (h.eq hj.2 hk.2)

theorem SameItems.eq : ∀ {xs ys : List Json}, SameItems xs ys →
    ItemsAllKeys (List.Pairwise Precedes) xs → ItemsAllKeys (List.Pairwise Precedes) ys → xs = ys
  | _, _, .nil, _, _ => rfl
  | _, _, .cons first others, hx, hy => by rw [first.eq hx.1 hy.1, others.eq hx.2 hy.2]

theorem SameMembers.eq : ∀ {xs ys : List (String × Json)}, SameMembers xs ys →
    MembersAllKeys (List.Pairwise Precedes) xs → MembersAllKeys (List.Pairwise Precedes) ys →
      xs = ys
  | _, _, .nil, _, _ => rfl
  | _, _, .cons first others, hx, hy => by rw [first.eq hx.1 hy.1, others.eq hx.2 hy.2]
end

mutual
/-- Values that are the same are equal with their keys in order. -/
theorem Same.sorted_eq : ∀ {j k : Json}, j.Same k → j.KeysDiffer → j.sorted = k.sorted
  | _, _, .null, _ | _, _, .bool _, _ | _, _, .number _, _ | _, _, .text _, _ => rfl
  | _, _, .array h, hj => congrArg Json.array (h.sorted_eq hj)
  | .object xs, .object zs, .object h hperm, hj => by
    have hmembers := h.sorted_eq hj.2
    have hxs : ((sortedMembers xs).map Prod.fst).Nodup := (map_fst_sortedMembers xs).symm ▸ hj.1
    have hsame : (sortedMembers xs).Perm (sortedMembers zs) := by
      rw [hmembers, sortedMembers_eq_map, sortedMembers_eq_map]
      exact hperm.map _
    have hzs := (hsame.map Prod.fst).nodup_iff.1 hxs
    have hordered : (sortMembers (sortedMembers xs)).Perm (sortMembers (sortedMembers zs)) :=
      (sortMembers_perm hxs).trans (hsame.trans (sortMembers_perm hzs).symm)
    rw [sorted, sorted, eq_of_perm hordered (ascending_sortMembers _).precedes
      (ascending_sortMembers _).precedes]

theorem SameItems.sorted_eq : ∀ {xs ys : List Json}, SameItems xs ys →
    ItemsAllKeys List.Nodup xs → sortedItems xs = sortedItems ys
  | _, _, .nil, _ => rfl
  | _, _, .cons first others, h => by
    rw [sortedItems, sortedItems, first.sorted_eq h.1, others.sorted_eq h.2]

theorem SameMembers.sorted_eq : ∀ {xs ys : List (String × Json)}, SameMembers xs ys →
    MembersAllKeys List.Nodup xs → sortedMembers xs = sortedMembers ys
  | _, _, .nil, _ => rfl
  | _, _, .cons first others, h => by
    rw [sortedMembers, sortedMembers, first.sorted_eq h.1, others.sorted_eq h.2]
end

/-! ## Texts -/

/-- The bytes are the text of a value and nothing else, with the members of objects in the
    order in which they stand there. -/
def IsTextOf (bytes : Bytes) (j : Json) : Prop :=
  ∃ d, Doc.read bytes = (d, true) ∧ d.take Reading.maxDepth = .ok j

/-- The bytes are a canonical text of a value. -/
structure IsCanonical (bytes : Bytes) (j : Json) : Prop where
  /-- There is no white space but in quoted texts. -/
  hasNoBlank : ∃ s, bytes = Utf8.encode s ∧ HasNoBlank s.toList
  /-- The same value stands there with ascending keys. -/
  ascends : ∃ k, IsTextOf bytes k ∧ k.KeysAscend ∧ j.Same k

/-- A value repeats no key, and opens up to `room` containers in each other. -/
structure Neat (j : Json) (room : Nat) : Prop where
  /-- In no object is a key repeated. -/
  keysDiffer : j.KeysDiffer
  /-- The value is not too deep. -/
  depth_le : j.depth ≤ room

variable {j : Json}

/-- What is written of a value is the text of that value. -/
theorem isTextOf_render (hn : j.AllNumbers Number.IsWord) (hdepth : j.depth ≤ Reading.maxDepth) :
    IsTextOf (Utf8.encode j.render) j :=
  ⟨_, Doc.read_render hn, Doc.take_ofJson hdepth⟩

/-- With its keys in order, the text of a value is canonical. -/
theorem isCanonical_sorted (hn : j.AllNumbers Number.IsWord) (h : j.Neat Reading.maxDepth) :
    IsCanonical (Utf8.encode j.sorted.render) j where
  hasNoBlank := by
    refine ⟨_, rfl, ?_⟩
    rw [render, String.toList_ofList]
    exact hasNoBlank_write hn.sorted
  ascends := ⟨j.sorted, isTextOf_render hn.sorted (j.depth_sorted_le.trans h.depth_le),
    j.keysAscend_sorted, same_sorted h.keysDiffer⟩

end Json

/-- A value that is written is read with its keys in order. -/
theorem Codec.ofBytes_value_render {j : Json} (hn : j.AllNumbers Number.IsWord)
    (hdepth : j.depth ≤ Reading.maxDepth) :
    value.ofBytes (Utf8.encode j.render) Doc.read = .ok j.sorted := by
  rw [ofBytes, Doc.read_render hn]
  change (liftFault ((Doc.ofJson j).take Reading.maxDepth)).map Json.sorted >>= pure = _
  rw [Doc.take_ofJson hdepth, bind_pure]
  rfl

/-! ## Codecs -/

/-- What a codec writes is neat. -/
def Codec.Neat {α : Type} (c : Codec α) (room : Nat) : Prop := ∀ x, (c.encode x).Neat room

namespace Fields

/-- What every field writes is neat. -/
def Neat (room : Nat) : {ts : List Type} → Fields ts → Prop
  | _, .nil => True
  | _, .cons field rest => field.codec.Neat room ∧ rest.Neat room

theorem Neat.encode {ts : List Type} {fields : Fields ts} {room : Nat} (h : fields.Neat room)
    (row : Row ts) : Json.MembersAllKeys List.Nodup (fields.encode row) ∧
      Json.membersDepth (fields.encode row) ≤ room := by
  induction fields with
  | nil => exact ⟨trivial, Nat.zero_le room⟩
  | cons field rest ih =>
    obtain ⟨x, xs⟩ := row
    obtain ⟨hkeys, hdepth⟩ := ih h.2 xs
    rw [Fields.encode]
    split_ifs with hx
    · exact ⟨hkeys, hdepth⟩
    · exact ⟨⟨(h.1 x).keysDiffer, hkeys⟩, Nat.max_le.2 ⟨(h.1 x).depth_le, hdepth⟩⟩

end Fields

namespace Codec.Neat

variable {α β : Type} {c : Codec α} {room : Nat}

theorem text : text.Neat room := fun _ => ⟨trivial, Nat.zero_le room⟩

theorem written {write : α → String} {read : String → Except String α} :
    (written write read).Neat room := fun _ => ⟨trivial, Nat.zero_le room⟩

theorem names {name : α → String} {known : String → Option α} : (names name known).Neat room :=
  fun _ => ⟨trivial, Nat.zero_le room⟩

theorem decimal : decimal.Neat room := .written

theorem iso {of : α → β} {view : β → α} (h : c.Neat room) : (iso c of view).Neat room :=
  fun y => h (view y)

theorem list (h : c.Neat room) : (list c).Neat (room + 1) := by
  intro xs
  refine ⟨?_, Nat.succ_le_succ (Admits.itemsDepth_map_le fun x _ => (h x).depth_le)⟩
  change Json.ItemsAllKeys List.Nodup (xs.map c.encode)
  induction xs with
  | nil => trivial
  | cons x xs ih => exact ⟨(h x).keysDiffer, ih⟩

/-- A record is neat if its fields are, under different names. -/
theorem record {ts : List Type} {fields : Fields ts} {of : Row ts → α} {view : α → Row ts}
    {strict : Bool} (h : fields.Neat room) (hnames : fields.names.Nodup) :
    (record fields of view strict).Neat (room + 1) := by
  intro x
  obtain ⟨hkeys, hdepth⟩ := h.encode (view x)
  exact ⟨⟨(fields.sublist_names (view x)).nodup hnames, hkeys⟩, Nat.succ_le_succ hdepth⟩

/-- A union is neat if its payloads are. -/
theorem tagged {cases : List (Case α)} {encode : α → String × Json}
    (h : ∀ x, (encode x).2.Neat room) : (tagged cases encode).Neat (room + 1) := by
  intro x
  have hdepth : Json.membersDepth (unionMembers (encode x)) ≤ room :=
    Nat.max_le.2 ⟨Nat.zero_le room, Nat.max_le.2 ⟨(h x).depth_le, Nat.zero_le room⟩⟩
  exact ⟨⟨nodup_unionMembers (encode x), trivial, (h x).keysDiffer, trivial⟩,
    Nat.succ_le_succ hdepth⟩

end Codec.Neat

end ChainRelay
