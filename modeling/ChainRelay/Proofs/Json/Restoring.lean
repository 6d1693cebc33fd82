import ChainRelay.Proofs.Json.Records

/-!
# Codecs that read back what they write

A codec yields only some of the elements of its type: those that a parser lets
through, or that are put in order. `Codec.Admits` says which ones, how deep the values
are that it writes of them, and that it reads these values from a text as the elements
that they were written of. Every way to make a codec from others keeps this, so each
codec of the program has it by one line for each of its fields. What is written of such
an element is then read from its bytes as that element
(`Codec.Admits.ofBytes_render`).
-/

namespace ChainRelay

namespace Codec

variable {α β : Type} {c : Codec α} {n m : Nat} {p : α → Prop}

/-- A codec yields elements of some kind only, and each of them again from the value that
    it writes of it, which opens up to `room` containers in each other. -/
structure Admits (c : Codec α) (room : Nat) (p : α → Prop) : Prop where
  /-- What is read is of the kind. -/
  yields {r : Reading} {d : Doc} {x : α} : c.decode r d = .ok x → p x
  /-- What is written is not too deep. -/
  depth_le {x : α} : p x → (c.encode x).depth ≤ room
  /-- What is written is read as it was. -/
  restores {r : Reading} {x : α} : r.origin = .text → room ≤ r.room → p x →
    c.decode r (Doc.ofJson (c.encode x)) = .ok x

/-- Every element of a type. -/
def Every (_ : α) : Prop := True

namespace Admits

/-- There may be more room. -/
theorem mono (h : c.Admits n p) (hn : n ≤ m) : c.Admits m p where
  yields := h.yields
  depth_le hx := (h.depth_le hx).trans hn
  restores hr hroom := h.restores hr (hn.trans hroom)

theorem written {write : α → String} {read : String → Except String α}
    (hread : ∀ s x, read s = .ok x → p x) (hwrite : ∀ x, p x → read (write x) = .ok x) :
    (written write read).Admits 0 p where
  yields {r d x} h := by
    obtain ⟨s, -, h⟩ := ok_of_bind h
    split at h
    · next hx =>
      cases h
      exact hread _ _ hx
    · cases h
  depth_le _ := Nat.le_refl 0
  restores {r x} _ _ hx := by
    simp only [Codec.written, Doc.ofJson, Codec.text, Quote.read, liftFault, bind, Except.bind,
      hwrite x hx]

theorem text : text.Admits 0 Every where
  yields _ := trivial
  depth_le _ := Nat.le_refl 0
  restores _ _ _ := rfl

theorem decimal : decimal.Admits 0 Every :=
  .written (fun _ _ _ => trivial) fun n _ => by rw [Numeral.readDecimal_ofWord]

theorem word64 : word64.Admits 0 Every where
  yields _ := trivial
  depth_le _ := Nat.le_refl 0
  restores {r x} _ _ _ := by
    have hlt := x.toNat_lt
    simp only [Codec.word64, word, Json.ofNat, Doc.ofJson]
    rw [if_pos ⟨by omega, by exact_mod_cast hlt⟩]
    simp

theorem names {name : α → String} {known : String → Option α} (h : ∀ x, known (name x) = some x) :
    (names name known).Admits 0 Every where
  yields _ := trivial
  depth_le _ := Nat.le_refl 0
  restores {r x} _ _ _ := by
    simp only [Codec.names, decodeName, Doc.ofJson, Quote.read, liftFault, bind, Except.bind,
      named, h]

theorem iso {of : α → β} {view : β → α} (h : c.Admits n Every) (hview : ∀ y, of (view y) = y) :
    (iso c of view).Admits n Every where
  yields _ := trivial
  depth_le _ := h.depth_le trivial
  restores {r y} hr hroom _ := by
    have hread := h.restores hr hroom (show Every (view y) from trivial)
    simp only [Codec.iso, hread, Except.map, hview]

/-- An element must not be written as nothing. -/
theorem option (h : c.Admits n p) (hnull : ∀ x, c.encode x ≠ .null) :
    (option c).Admits n fun x => ∀ y ∈ x, p y where
  yields {r d x} hread := by
    rintro y rfl
    cases d with
    | null => cases hread
    | _ =>
      obtain ⟨z, hz, heq⟩ := ok_of_map hread
      cases heq
      exact h.yields hz
  depth_le {x} hx := by
    cases x with
    | none => exact Nat.zero_le n
    | some x => exact h.depth_le (hx x rfl)
  restores {r x} hr hroom hx := by
    cases x with
    | none => rfl
    | some x =>
      -- What is written is not null, so it is read by the codec of the element.
      have hread := h.restores hr hroom (hx x rfl)
      have hne := hnull x
      change (Codec.option c).decode r (Doc.ofJson (c.encode x)) = _
      revert hread hne
      cases hj : c.encode x with
      | null => exact fun _ hne => absurd rfl hne
      | _ => exact fun hread _ => congrArg (Except.map some) hread

theorem enter {r : Reading} (hr : r.origin = .text) (hroom : n + 1 ≤ r.room) :
    ∃ r', r.enter = .ok r' ∧ r'.origin = .text ∧ n ≤ r'.room := by
  refine ⟨{ r with room := r.room - 1 }, ?_, hr, by simp only; omega⟩
  rw [Reading.enter, if_pos hr, if_neg (by omega)]

theorem itemsDepth_map_le {write : α → Json} {xs : List α} (h : ∀ x ∈ xs, (write x).depth ≤ n) :
    Json.itemsDepth (xs.map write) ≤ n := by
  induction xs with
  | nil => exact Nat.zero_le n
  | cons x xs ih =>
    rw [List.forall_mem_cons] at h
    exact Nat.max_le.2 ⟨h.1, ih h.2⟩

theorem forall_of_decodeItems {decode : Doc → Except DecodeError α}
    (h : ∀ d x, decode d = .ok x → p x) : ∀ {items : Items} {xs : List α},
      decodeItems decode items = .ok xs → ∀ x ∈ xs, p x
  | .closed, _, hread => by
    cases hread
    simp
  | .cut _, _, hread => by cases hread
  | .cons item rest, _, hread => by
    rw [decodeItems] at hread
    obtain ⟨x, hx, hread⟩ := ok_of_bind hread
    obtain ⟨xs, hxs, hread⟩ := ok_of_bind hread
    cases hread
    exact List.forall_mem_cons.2 ⟨h item x hx, forall_of_decodeItems h hxs⟩

theorem list (h : c.Admits n p) : (list c).Admits (n + 1) fun xs => ∀ x ∈ xs, p x where
  yields {r d xs} hread := by
    cases d with
    | array items =>
      obtain ⟨r', -, hread⟩ := ok_of_bind hread
      exact forall_of_decodeItems (fun _ _ => h.yields) hread
    | _ => cases hread
  depth_le {xs} hxs := Nat.succ_le_succ (itemsDepth_map_le fun x hx => h.depth_le (hxs x hx))
  restores {r xs} hr hroom hxs := by
    obtain ⟨r', hr', htext, hroom'⟩ := enter hr hroom
    have hread : (Codec.list c).decode r (Doc.ofJson (.array (xs.map c.encode)))
        = .ok (xs.map id) :=
      decode_list hr' fun x hx => h.restores htext hroom' (hxs x hx)
    rwa [List.map_id] at hread

end Admits

/-- A value is read with ascending keys, and no deeper than there is room for. -/
theorem of_decode_value {q : Number → Prop} {room : Nat} {d : Doc} {j : Json}
    (h : value.decode ⟨.text, room⟩ d = .ok j) (hd : d.AllNumbers q) :
    j.sorted = j ∧ j.AllNumbers q ∧ j.depth ≤ room := by
  obtain ⟨k, hk, rfl⟩ := ok_of_map h
  have htake : d.take room = .ok k := by
    cases hd : d.take room with
    | error f => simp [hd, liftFault] at hk
    | ok x =>
      rw [hd] at hk
      cases hk
      rfl
  exact ⟨k.sorted_sorted, (hd.take htake).sorted,
    k.depth_sorted_le.trans (Doc.depth_le_of_take htake)⟩

/-- A value with ascending keys is read as it is. -/
theorem decode_value {room : Nat} {j : Json} (hj : j.sorted = j) (hroom : j.depth ≤ room) :
    value.decode ⟨.text, room⟩ (Doc.ofJson j) = .ok j := by
  change (liftFault ((Doc.ofJson j).take room)).map Json.sorted = _
  rw [Doc.take_ofJson hroom, liftFault, Except.map, hj]

end Codec

/-! ## Records -/

/-- A field has values of some kind only, also where it is missing, and is left out only
    for its default. -/
structure Field.Admits {β : Type} (field : Field β) (room : Nat) (p : β → Prop) : Prop where
  /-- Its values are of the kind. -/
  codec : field.codec.Admits room p
  /-- So is its default. -/
  absent (x : β) : field.absent = some x → p x
  /-- It is left out only for its default. -/
  omits (x : β) : field.omits x = true → field.absent = some x

namespace Field.Admits

variable {β : Type} {c : Codec β} {room : Nat} {p : β → Prop} {name : String} {absent : β}

theorem required (h : c.Admits room p) : (required name c).Admits room p where
  codec := h
  absent _ heq := nomatch heq
  omits _ heq := nomatch heq

theorem optional (h : c.Admits room p) (habsent : p absent) :
    (optional name c absent).Admits room p where
  codec := h
  absent _ heq := Option.some.inj heq ▸ habsent
  omits _ heq := nomatch heq

theorem sparse {omits : β → Bool} (h : c.Admits room p) (habsent : p absent)
    (homits : ∀ x, omits x = true → x = absent) :
    (sparse name c absent omits).Admits room p where
  codec := h
  absent _ heq := Option.some.inj heq ▸ habsent
  omits x heq := congrArg some (homits x heq).symm

theorem restores {field : Field β} {r : Reading} {x : β} (h : field.Admits room p)
    (hr : r.origin = .text) (hroom : room ≤ r.room) (hx : p x) : field.Restores r x := by
  rw [Field.Restores]
  split_ifs with homits
  · exact h.omits x homits
  · exact h.codec.restores hr hroom hx

end Field.Admits

namespace Fields

/-- The rows whose values are of the kinds that the fields have, with room for the deepest. -/
inductive Admit : {ts : List Type} → Fields ts → Nat → (Row ts → Prop) → Prop
  | nil : Admit .nil 0 fun _ => True
  | cons {β : Type} {ts : List Type} {field : Field β} {rest : Fields ts} {n m : Nat}
      {p : β → Prop} {q : Row ts → Prop} (first : field.Admits n p) (others : Admit rest m q) :
      Admit (.cons field rest) (max n m) fun row => p row.1 ∧ q row.2

namespace Admit

variable {ts : List Type} {fields : Fields ts} {room : Nat} {q : Row ts → Prop}

theorem yields {r : Reading} {parts : List Doc} {row : Row ts} (h : fields.Admit room q)
    (hrow : fields.Get r parts row) : q row := by
  induction h with
  | nil => trivial
  | cons first others ih =>
    refine ⟨?_, ih hrow.2⟩
    rcases hrow.1 with habsent | ⟨d, -, hd⟩
    · exact first.absent _ habsent
    · exact first.codec.yields hd

theorem depth_le {row : Row ts} (h : fields.Admit room q) (hrow : q row) :
    Json.membersDepth (fields.encode row) ≤ room := by
  induction h with
  | nil => exact Nat.le_refl 0
  | cons first others ih =>
    obtain ⟨x, xs⟩ := row
    rw [Fields.encode]
    split_ifs with homits
    · exact (ih hrow.2).trans (Nat.le_max_right _ _)
    · exact max_le_max (first.codec.depth_le hrow.1) (ih hrow.2)

theorem restore {r : Reading} {row : Row ts} (h : fields.Admit room q)
    (hr : r.origin = .text) (hroom : room ≤ r.room) (hrow : q row) : fields.Restore r row := by
  induction h with
  | nil => trivial
  | cons first others ih =>
    obtain ⟨hfirst, hothers⟩ := Nat.max_le.1 hroom
    exact And.intro (first.restores hr hfirst hrow.1) (ih hothers hrow.2)

end Admit

end Fields

namespace Codec

variable {α : Type} {c : Codec α} {n room : Nat} {p : α → Prop}

theorem Admits.record {ts : List Type} {fields : Fields ts} {of : Row ts → α}
    {view : α → Row ts} {strict : Bool} {q : Row ts → Prop} (h : fields.Admit n q)
    (hroom : n < room) (hnames : fields.names.Nodup) (hof : ∀ row, q row → p (of row))
    (hview : ∀ x, p x → q (view x) ∧ of (view x) = x) :
    (record fields of view strict).Admits room p where
  yields hread := by
    obtain ⟨r', row, -, hrow, rfl⟩ := get_of_decode_record hread
    exact hof row (h.yields hrow)
  depth_le hx := (Nat.succ_le_succ (h.depth_le (hview _ hx).1)).trans hroom
  restores {r x} hr hwide hx := by
    obtain ⟨r', hr', htext, hroom'⟩ := Admits.enter hr (hroom.trans_le hwide)
    obtain ⟨hrow, hid⟩ := hview x hx
    have hread : (Codec.record fields of view strict).decode r
        (Doc.ofJson (.object (fields.encode (view x)))) = .ok (of (view x)) :=
      decode_record hr' (h.restore htext hroom' hrow) hnames
    rwa [hid] at hread

/-! ## Unions -/

theorem exists_of_named {known : String → Option α} {name : String} {x : α}
    (h : named known name = .ok x) : known name = some x := by
  rw [named] at h
  split at h
  · next hx =>
    cases h
    exact hx
  · cases h

/-- What is read as a name is the element of some name. -/
theorem exists_of_decodeName {known : String → Option α} {r : Reading} {d : Doc} {x : α}
    (h : decodeName known r d = .ok x) : ∃ name, known name = some x := by
  obtain ⟨origin, room⟩ := r
  cases d with
  | text q =>
    obtain ⟨name, -, h⟩ := ok_of_bind h
    exact ⟨name, exists_of_named h⟩
  | object members =>
    cases origin with
    | text =>
      obtain ⟨r', -, h⟩ := ok_of_bind h
      cases members with
      | cons key payload rest =>
        obtain ⟨name, -, h⟩ := ok_of_bind h
        obtain ⟨y, hy, h⟩ := ok_of_bind h
        dsimp only at h
        split_ifs at h
        · obtain ⟨_, -, h⟩ := ok_of_bind h
          cases h
          exact ⟨name, exists_of_named hy⟩
        · cases h
      | _ => cases h
    | settings =>
      match members, h with
      | .cons key payload .closed, h =>
        obtain ⟨name, -, h⟩ := ok_of_bind h
        obtain ⟨y, hy, h⟩ := ok_of_bind h
        obtain ⟨_, -, h⟩ := ok_of_bind h
        cases h
        exact ⟨name, exists_of_named hy⟩
    | _ =>
      match members, h with
      | .cons key payload .closed, h =>
        obtain ⟨name, -, h⟩ := ok_of_bind h
        obtain ⟨y, hy, h⟩ := ok_of_bind h
        split_ifs at h
        cases h
        exact ⟨name, exists_of_named hy⟩
  | _ => cases origin <;> cases h

end Codec

namespace Case

variable {α : Type} {cases : List (Case α)} {p : α → Prop} {r : Reading} {x : α}

theorem mem_of_decodeName {tag : Doc} {case : Case α}
    (h : Codec.decodeName (find? cases) r tag = .ok case) : case ∈ cases := by
  obtain ⟨name, hname⟩ := Codec.exists_of_decodeName h
  exact List.mem_of_find?_eq_some hname

theorem next_tag (d : Doc) (rest : Members) :
    next (.cons (.whole Member.tag.name) d rest) = .ok (some (.tag, d, rest)) := by
  simp [next, Quote.read, liftFault, bind, Except.bind, pure, Except.pure]

theorem next_payload (d : Doc) (rest : Members) :
    next (.cons (.whole Member.payload.name) d rest) = .ok (some (.payload, d, rest)) := by
  simp [next, Quote.read, liftFault, bind, Except.bind, pure, Except.pure, Member.name]

/-- A tag with its payload behind it is read by the case of the tag. -/
theorem readMembers_of_find? {tag : String} {payload : Doc} {case : Case α}
    (hcase : find? cases tag = some case) (hread : case.decode r payload = .ok x) :
    readMembers cases r (.cons (.whole Member.tag.name) (.text (.whole tag))
      (.cons (.whole Member.payload.name) payload .closed)) = .ok x := by
  have htag : Codec.decodeName (find? cases) r (.text (.whole tag)) = .ok case := by
    simp only [Codec.decodeName, Quote.read, liftFault, bind, Except.bind, Codec.named, hcase]
  rw [readMembers, next_tag]
  simp only [bind, Except.bind, htag, next_payload, hread]
  rfl

theorem yields_finish {rest : Members} {y : α} (h : finish x rest = .ok y) : y = x := by
  obtain ⟨result, -, h⟩ := ok_of_bind h
  split at h
  · exact (Except.ok.inj h).symm
  · cases h

/-- What is read from members was read as the payload of a case. -/
theorem yields_readMembers (hcases : ∀ case ∈ cases, ∀ r d x, case.decode r d = .ok x → p x)
    {members : Members} (h : readMembers cases r members = .ok x) : p x := by
  obtain ⟨first, -, h⟩ := ok_of_bind h
  split at h
  · cases h
  · obtain ⟨case, hcase, h⟩ := ok_of_bind h
    obtain ⟨second, -, h⟩ := ok_of_bind h
    split at h
    · cases h
    · cases h
    · obtain ⟨y, hy, h⟩ := ok_of_bind h
      rw [yields_finish h]
      exact hcases case (mem_of_decodeName hcase) _ _ _ hy
  · obtain ⟨payload, -, h⟩ := ok_of_bind h
    obtain ⟨second, -, h⟩ := ok_of_bind h
    split at h
    · cases h
    · cases h
    · obtain ⟨case, hcase, h⟩ := ok_of_bind h
      obtain ⟨y, hy, h⟩ := ok_of_bind h
      rw [yields_finish h]
      exact hcases case (mem_of_decodeName hcase) _ _ _ hy

theorem yields_readItems (hcases : ∀ case ∈ cases, ∀ r d x, case.decode r d = .ok x → p x)
    {items : Items} (h : readItems cases r items = .ok x) : p x := by
  cases items with
  | closed => cases h
  | cut fault => cases h
  | cons tag rest =>
    obtain ⟨case, hcase, h⟩ := ok_of_bind h
    split at h
    · cases h
    · cases h
    · obtain ⟨y, hy, h⟩ := ok_of_bind h
      obtain ⟨_, -, h⟩ := ok_of_bind h
      cases h
      exact hcases case (mem_of_decodeName hcase) _ _ _ hy

end Case

namespace Codec

variable {α : Type} {c : Codec α} {room : Nat} {p : α → Prop}

theorem Admits.tagged {cases : List (Case α)} {encode : α → String × Json}
    (hyields : ∀ case ∈ cases, ∀ r d x, case.decode r d = .ok x → p x)
    (hdepth : ∀ x, p x → (encode x).2.depth ≤ room)
    (hrestores : ∀ r x, r.origin = .text → room ≤ r.room → p x →
      ∃ case, Case.find? cases (encode x).1 = some case ∧
        case.decode r (Doc.ofJson (encode x).2) = .ok x) :
    (tagged cases encode).Admits (room + 1) p where
  yields {r d x} h := by
    cases d with
    | object members =>
      obtain ⟨r', -, h⟩ := ok_of_bind h
      exact Case.yields_readMembers hyields h
    | array items =>
      obtain ⟨r', -, h⟩ := ok_of_bind h
      exact Case.yields_readItems hyields h
    | _ => cases h
  depth_le {x} hx := by
    have hpayload := hdepth x hx
    simp only [Codec.tagged, Json.depth, Json.membersDepth]
    omega
  restores {r x} hr hroom hx := by
    obtain ⟨r', hr', htext, hroom'⟩ := Admits.enter hr hroom
    obtain ⟨case, hcase, hread⟩ := hrestores r' x htext hroom' hx
    change (do
      let r ← r.enter
      Case.readMembers cases r _) = _
    rw [hr']
    exact Case.readMembers_of_find? hcase hread

/-! ## Bytes -/

/-- What is written of an element is read from its bytes as that element. -/
theorem Admits.ofBytes_render (h : c.Admits room p) (hroom : room ≤ Reading.maxDepth) {x : α}
    (hx : p x) (hnumbers : (c.encode x).AllNumbers Number.IsWord) :
    c.ofBytes (Utf8.encode (c.encode x).render) Doc.read = .ok x := by
  rw [ofBytes, Doc.read_render hnumbers]
  simp only [h.restores (r := .ofText) rfl hroom hx]
  rfl

/-- What is read from bytes is read from their document. -/
theorem decode_of_ofBytes {bytes : Bytes} {doc : Bytes → Doc × Bool} {x : α}
    (hx : c.ofBytes bytes doc = .ok x) : c.decode .ofText (doc bytes).1 = .ok x := by
  obtain ⟨y, hy, hx⟩ := ok_of_bind hx
  split_ifs at hx
  cases hx
  exact hy

/-- What is read from bytes is of the kind. -/
theorem Admits.of_ofBytes (h : c.Admits room p) {bytes : Bytes} {doc : Bytes → Doc × Bool} {x : α}
    (hx : c.ofBytes bytes doc = .ok x) : p x :=
  h.yields (decode_of_ofBytes hx)

end Codec

end ChainRelay
