import ChainRelay.Proofs.Json.Telling

/-!
# Reading records

What is read from any container as a record holds in each field a value that was read
from one of the container's parts, or the default of the field
(`Codec.get_of_decode_record`).

A record that was written is read again field by field: each member that was written
fills its field of the draft (`Fields.Restore.put`), so behind some members exactly the
fields with their names are filled (`Fields.filled`), and in the end a field is missing
only if it was left out, which it may be only for its default
(`Fields.Restore.finish`). Hence the record is what it was (`Codec.decode_record`).
-/

namespace ChainRelay

/-! ## Parts of containers -/

/-- The items that are there. -/
def Items.toList : Items → List Doc
  | .cons item rest => item :: rest.toList
  | _ => []

/-- The values of the members that are there. -/
def Members.values : Members → List Doc
  | .cons _ value rest => value :: rest.values
  | _ => []

/-- The documents that stand directly in a document. -/
def Doc.parts : Doc → List Doc
  | .array items => items.toList
  | .object members => members.values
  | _ => []

section Parts

variable {p : Number → Prop}

theorem Items.AllNumbers.of_mem : ∀ {items : Items}, items.AllNumbers p →
    ∀ part ∈ items.toList, part.AllNumbers p
  | .cons _ _, h => List.forall_mem_cons.2 ⟨h.1, Items.AllNumbers.of_mem h.2⟩
  | .closed, _ | .cut _, _ => fun _ hpart => absurd hpart List.not_mem_nil

theorem Members.AllNumbers.of_mem : ∀ {members : Members}, members.AllNumbers p →
    ∀ part ∈ members.values, part.AllNumbers p
  | .cons _ _ _, h => List.forall_mem_cons.2 ⟨h.1, Members.AllNumbers.of_mem h.2⟩
  | .closed, _ | .cut _, _ | .stray _, _ => fun _ hpart => absurd hpart List.not_mem_nil

/-- The numbers of a part are among those of the whole. -/
theorem Doc.AllNumbers.of_mem_parts {d part : Doc} (h : d.AllNumbers p) (hpart : part ∈ d.parts) :
    part.AllNumbers p := by
  cases d with
  | array items => exact Items.AllNumbers.of_mem h part hpart
  | object members => exact Members.AllNumbers.of_mem h part hpart
  | _ => exact absurd hpart List.not_mem_nil

end Parts

/-! ## What a record gets -/

/-- A value that a field may get from parts. -/
def Field.Gets {β : Type} (field : Field β) (r : Reading) (parts : List Doc) (x : β) : Prop :=
  field.absent = some x ∨ ∃ d ∈ parts, field.codec.decode r d = .ok x

namespace Fields

/-- Values that fields may get from parts. -/
def Get : {ts : List Type} → Fields ts → Reading → List Doc → Row ts → Prop
  | _, .nil, _, _, _ => True
  | _, .cons field rest, r, parts, (x, xs) => field.Gets r parts x ∧ rest.Get r parts xs

/-- What fields have got from parts so far. -/
def Got : {ts : List Type} → Fields ts → Reading → List Doc → Draft ts → Prop
  | _, .nil, _, _, _ => True
  | _, .cons field rest, r, parts, (x, xs) =>
    (∀ y, x = some y → ∃ d ∈ parts, field.codec.decode r d = .ok y) ∧ rest.Got r parts xs

variable {ts : List Type} {fields : Fields ts} {r : Reading} {parts : List Doc}

theorem got_empty (fields : Fields ts) (r : Reading) (parts : List Doc) :
    fields.Got r parts (Draft.empty ts) := by
  induction fields with
  | nil => trivial
  | cons field rest ih => exact And.intro (fun _ h => nomatch h) ih

theorem Got.put {key : String} {d : Doc} {draft draft' : Draft ts}
    (h : fields.Got r parts draft) (hd : d ∈ parts)
    (hput : fields.put r key d draft = some (.ok draft')) : fields.Got r parts draft' := by
  induction fields with
  | nil => cases hput
  | cons field rest ih =>
    obtain ⟨x, xs⟩ := draft
    simp only [Fields.put] at hput
    split_ifs at hput with hkey
    · cases x with
      | some x => cases hput
      | none =>
        obtain ⟨y, hy, rfl⟩ := ok_of_map (Option.some.inj hput)
        exact ⟨fun z hz => ⟨d, hd, hy.trans (congrArg Except.ok (Option.some.inj hz))⟩, h.2⟩
    · obtain ⟨result, hrest, hresult⟩ := Option.map_eq_some_iff.1 hput
      obtain ⟨ys, rfl, rfl⟩ := ok_of_map hresult
      exact ⟨h.1, ih h.2 hrest⟩

theorem Got.readMembers {strict : Bool} {members : Members} {draft draft' : Draft ts}
    (h : fields.Got r parts draft) (hparts : members.values ⊆ parts)
    (hread : fields.readMembers strict r members draft = .ok draft') :
    fields.Got r parts draft' := by
  fun_induction Fields.readMembers fields strict r members draft with
  | case1 draft =>
    cases hread
    exact h
  | case2 fault draft => cases hread
  | case3 d draft => cases hread
  | case4 key value rest draft ih ih' =>
    have hrest : rest.values ⊆ parts := fun d hd => hparts (List.mem_cons_of_mem _ hd)
    obtain ⟨name, -, hread⟩ := ok_of_bind hread
    split at hread
    · next result hput =>
      obtain ⟨next, hnext, hread⟩ := ok_of_bind hread
      exact ih next (h.put (hparts List.mem_cons_self) (hput.trans (congrArg some hnext))) hrest
        hread
    · split_ifs at hread
      obtain ⟨_, -, hread⟩ := ok_of_bind hread
      exact ih' h hrest hread

theorem Got.finish {draft : Draft ts} {row : Row ts} (h : fields.Got r parts draft)
    (hrow : fields.finish draft = .ok row) : fields.Get r parts row := by
  induction fields with
  | nil => trivial
  | cons field rest ih =>
    obtain ⟨x, xs⟩ := draft
    simp only [Fields.finish] at hrow
    -- The value is one that was met, or the default.
    split at hrow
    · change rest.finish xs >>= _ = _ at hrow
      obtain ⟨ys, hys, hrow⟩ := ok_of_bind hrow
      cases hrow
      exact And.intro (.inr (h.1 _ rfl)) (ih h.2 hys)
    · next habsent =>
      change rest.finish xs >>= _ = _ at hrow
      obtain ⟨ys, hys, hrow⟩ := ok_of_bind hrow
      cases hrow
      exact And.intro (.inl habsent) (ih h.2 hys)
    · cases hrow

theorem get_of_defaults {position : Nat} {row : Row ts}
    (hrow : fields.defaults position = .ok row) : fields.Get r parts row := by
  induction fields generalizing position with
  | nil => trivial
  | cons field rest ih =>
    rw [Fields.defaults] at hrow
    split at hrow
    · next habsent =>
      obtain ⟨xs, hxs, rfl⟩ := ok_of_map hrow
      exact And.intro (.inl habsent) (ih hxs)
    · cases hrow

theorem get_of_readItems {position : Nat} {items : Items} {row : Row ts}
    (hparts : items.toList ⊆ parts) (hrow : fields.readItems r position items = .ok row) :
    fields.Get r parts row := by
  induction fields generalizing position items with
  | nil => trivial
  | cons field rest ih =>
    cases items with
    | closed => exact get_of_defaults hrow
    | cut fault => cases hrow
    | cons item items =>
      obtain ⟨x, hx, hrow⟩ := ok_of_bind hrow
      obtain ⟨xs, hxs, hrow⟩ := ok_of_bind hrow
      cases hrow
      exact And.intro (.inr ⟨item, hparts List.mem_cons_self, hx⟩)
        (ih (fun d hd => hparts (List.mem_cons_of_mem _ hd)) hxs)

end Fields

/-- What is read as a record holds values that its fields may get. -/
theorem Codec.get_of_decode_record {α : Type} {ts : List Type} {fields : Fields ts}
    {of : Row ts → α} {view : α → Row ts} {strict : Bool} {r : Reading} {d : Doc} {x : α}
    (h : (record fields of view strict).decode r d = .ok x) :
    ∃ r' row, r.enter = .ok r' ∧ fields.Get r' d.parts row ∧ of row = x := by
  cases d with
  | object members =>
    obtain ⟨r', hr, h⟩ := ok_of_bind h
    obtain ⟨draft, hdraft, h⟩ := ok_of_bind h
    obtain ⟨row, hrow, h⟩ := ok_of_bind h
    have hgot := (fields.got_empty r' members.values).readMembers (List.Subset.refl _) hdraft
    exact ⟨r', row, hr, hgot.finish hrow, Except.ok.inj h⟩
  | array items =>
    obtain ⟨r', hr, h⟩ := ok_of_bind h
    obtain ⟨row, hrow, h⟩ := ok_of_bind h
    exact ⟨r', row, hr, Fields.get_of_readItems (List.Subset.refl _) hrow, Except.ok.inj h⟩
  | _ => cases h

/-! ## What a record restores -/

/-- A value that a field gets back from what is written of it, or from its default if it
    is left out. -/
def Field.Restores {β : Type} (field : Field β) (r : Reading) (x : β) : Prop :=
  if field.omits x then field.absent = some x
  else field.codec.decode r (Doc.ofJson (field.codec.encode x)) = .ok x

namespace Fields

/-- Values that fields get back. -/
def Restore : {ts : List Type} → Fields ts → Reading → Row ts → Prop
  | _, .nil, _, _ => True
  | _, .cons field rest, r, (x, xs) => field.Restores r x ∧ rest.Restore r xs

/-- The draft in which the fields with some names are filled. -/
def filled : {ts : List Type} → Fields ts → List String → Row ts → Draft ts
  | _, .nil, _, _ => ()
  | _, .cons field rest, seen, (x, xs) =>
    (if field.name ∈ seen then some x else none, rest.filled seen xs)

variable {ts : List Type} {fields : Fields ts} {r : Reading}

theorem filled_nil (fields : Fields ts) (row : Row ts) :
    fields.filled [] row = Draft.empty ts := by
  induction fields with
  | nil => rfl
  | cons field rest ih => exact congrArg (Prod.mk none) (ih row.2)

/-- A name that is no field's fills nothing. -/
theorem filled_cons_of_not_mem {name : String} (h : name ∉ fields.names) (seen : List String)
    (row : Row ts) : fields.filled (name :: seen) row = fields.filled seen row := by
  induction fields with
  | nil => rfl
  | cons field rest ih =>
    obtain ⟨x, xs⟩ := row
    rw [names, List.mem_cons, not_or] at h
    simp only [filled, ih h.2, List.mem_cons, Ne.symm h.1, false_or]
    rfl

/-- A member that was written fills its field. -/
theorem Restore.put {seen : List String} {row : Row ts} {key : String} {j : Json}
    (h : fields.Restore r row) (hnames : fields.names.Nodup)
    (hmem : (key, j) ∈ fields.encode row) (hkey : key ∉ seen) :
    fields.put r key (Doc.ofJson j) (fields.filled seen row)
      = some (.ok (fields.filled (key :: seen) row)) := by
  induction fields with
  | nil => exact absurd hmem List.not_mem_nil
  | cons field rest ih =>
    obtain ⟨x, xs⟩ := row
    rw [names, List.nodup_cons] at hnames
    have hrest (hmem : (key, j) ∈ rest.encode xs) :
        (Fields.cons field rest).put r key (Doc.ofJson j)
            ((Fields.cons field rest).filled seen (x, xs))
          = some (.ok ((Fields.cons field rest).filled (key :: seen) (x, xs))) := by
      have hne : key ≠ field.name := by
        rintro rfl
        exact hnames.1 ((rest.sublist_names xs).subset (List.mem_map_of_mem hmem))
      simp only [Fields.put, filled, if_neg hne, ih h.2 hnames.2 hmem, List.mem_cons,
        Ne.symm hne, false_or]
      rfl
    have hfirst := h.1
    rw [Field.Restores] at hfirst
    simp only [Fields.encode] at hmem
    split_ifs at hmem hfirst with homits
    · exact hrest hmem
    · rcases List.mem_cons.1 hmem with heq | hmem
      · obtain ⟨rfl, rfl⟩ := Prod.mk.inj heq
        simp only [Fields.put, filled, if_neg hkey, ↓reduceIte, hfirst, Except.map,
          List.mem_cons_self, filled_cons_of_not_mem hnames.1]
      · exact hrest hmem

/-- Members that were written fill their fields. -/
theorem Restore.readMembers {row : Row ts} (h : fields.Restore r row) (strict : Bool)
    (hnames : fields.names.Nodup) {members : List (String × Json)}
    (hmembers : members ⊆ fields.encode row) (seen : List String)
    (hseen : (members.map Prod.fst ++ seen).Nodup) :
    fields.readMembers strict r (Members.ofJson members) (fields.filled seen row)
      = .ok (fields.filled ((members.map Prod.fst).reverse ++ seen) row) := by
  induction members generalizing seen with
  | nil => rfl
  | cons member members ih =>
    obtain ⟨key, j⟩ := member
    rw [List.map_cons, List.cons_append, ← List.perm_middle.nodup_iff] at hseen
    have hkey : key ∉ seen := (List.nodup_cons.1 (List.nodup_append.1 hseen).2.1).1
    rw [Members.ofJson, Fields.readMembers]
    simp only [Quote.read, liftFault, bind, Except.bind,
      h.put hnames (hmembers List.mem_cons_self) hkey]
    rw [ih (fun m hm => hmembers (List.mem_cons_of_mem _ hm)) (key :: seen) hseen,
      List.map_cons, List.reverse_cons, List.append_assoc, List.singleton_append]

/-- A draft in which nothing is missing but what was left out is the row. -/
theorem Restore.finish {row : Row ts} (h : fields.Restore r row) {seen : List String}
    (hseen : (fields.encode row).map Prod.fst ⊆ seen) :
    fields.finish (fields.filled seen row) = .ok row := by
  induction fields with
  | nil => rfl
  | cons field rest ih =>
    obtain ⟨x, xs⟩ := row
    have hfirst := h.1
    rw [Field.Restores] at hfirst
    simp only [Fields.encode] at hseen
    simp only [filled, Fields.finish]
    split_ifs at hseen hfirst with homits
    · rw [ih h.2 hseen, hfirst]
      split_ifs
      · rfl
      · rfl
    · rw [List.map_cons, List.cons_subset] at hseen
      rw [ih h.2 hseen.2, if_pos hseen.1]
      rfl

end Fields

/-- A record is read as it was written. -/
theorem Codec.decode_record {α : Type} {ts : List Type} {fields : Fields ts}
    {of : Row ts → α} {view : α → Row ts} {strict : Bool} {r r' : Reading} {row : Row ts}
    (hr : r.enter = .ok r') (h : fields.Restore r' row) (hnames : fields.names.Nodup) :
    (record fields of view strict).decode r (Doc.ofJson (.object (fields.encode row)))
      = .ok (of row) := by
  have hkeys := (fields.sublist_names row).nodup hnames
  have hread := h.readMembers strict hnames (List.Subset.refl _) []
    (by rwa [List.append_nil])
  rw [Fields.filled_nil, List.append_nil] at hread
  have hrow := h.finish (List.reverse_perm ((fields.encode row).map Prod.fst)).symm.subset
  rw [Doc.ofJson]
  simp only [record, hr, bind, Except.bind, hread, hrow]
  rfl

end ChainRelay
