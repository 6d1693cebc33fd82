import ChainRelay.Block.Basic
import ChainRelay.Proofs.Json.Telling

/-!
# Reading objects by the names of members

An object is read as a record exactly if its members are sound (`Members.Sound`) and each
field gets its value: from the member with its name, or from its default if there is no
such member (`Fields.Have`). In which order the members come plays no part, nor what
stands behind other names (`Codec.decode_object_eq_ok_iff`). So a reader that looks at one
member of an object that was written passes over all others (`Codec.decode_only`).
-/

namespace ChainRelay

section Results

variable {ε α β : Type} {x : Except ε α}

theorem bind_eq_ok_iff {f : α → Except ε β} {b : β} :
    x >>= f = .ok b ↔ ∃ a, x = .ok a ∧ f a = .ok b := by
  refine ⟨ok_of_bind, ?_⟩
  rintro ⟨a, rfl, h⟩
  exact h

theorem bind_eq_error_iff {f : α → Except ε β} {e : ε} :
    x >>= f = .error e ↔ x = .error e ∨ ∃ a, x = .ok a ∧ f a = .error e := by
  cases x with
  | error e' => simp [bind, Except.bind]
  | ok a => simp [bind, Except.bind]

theorem map_eq_ok_iff {f : α → β} {b : β} : x.map f = .ok b ↔ ∃ a, x = .ok a ∧ f a = b := by
  refine ⟨ok_of_map, ?_⟩
  rintro ⟨a, rfl, rfl⟩
  rfl

theorem map_eq_error_iff {f : α → β} {e : ε} : x.map f = .error e ↔ x = .error e := by
  cases x with
  | error e' =>
    exact ⟨fun h => congrArg _ (Except.error.inj h), fun h => congrArg _ (Except.error.inj h)⟩
  | ok a => exact ⟨nofun, nofun⟩

theorem mapError_eq_ok_iff {ε' : Type} {f : ε → ε'} {a : α} : x.mapError f = .ok a ↔ x = .ok a := by
  cases x with
  | error e => exact ⟨nofun, nofun⟩
  | ok b => exact ⟨fun h => congrArg _ (Except.ok.inj h), fun h => congrArg _ (Except.ok.inj h)⟩

end Results

/-- What stands behind the first member with a name. -/
def Members.get? (name : String) : Members → Option Doc
  | .cons (.whole key) value rest => if key = name then some value else rest.get? name
  | _ => none

/-- Members up to the end of their object. Those with some names come once at most; the
    others can be passed over, unless there may be none. -/
def Members.Sound (names : List String) (strict : Bool) : Members → Prop
  | .closed => True
  | .cons (.whole key) value rest =>
    (if key ∈ names then rest.get? key = none else strict = false ∧ value.skip = .ok ())
      ∧ rest.Sound names strict
  | _ => False

/-- A member with a name stands there. -/
def Members.Holds (name : String) (d : Doc) : Members → Prop
  | .cons key value rest => key = .whole name ∧ value = d ∨ rest.Holds name d
  | _ => False

/-- What a field of a draft becomes by a member with its name, if there is one. -/
def Field.Takes {β : Type} (field : Field β) (r : Reading) (found : Option Doc)
    (x y : Option β) : Prop :=
  match found with
  | some d => x = none ∧ ∃ v, field.codec.decode r d = .ok v ∧ y = some v
  | none => y = x

/-- The value of a field. -/
def Field.Has {β : Type} (field : Field β) (r : Reading) (found : Option Doc) (x : β) : Prop :=
  match found with
  | some d => field.codec.decode r d = .ok x
  | none => field.absent = some x

namespace Fields

/-- What a draft becomes by members. -/
def Take : {ts : List Type} → Fields ts → Reading → Members → Draft ts → Draft ts → Prop
  | _, .nil, _, _, _, _ => True
  | _, .cons field rest, r, members, (x, xs), (y, ys) =>
    field.Takes r (members.get? field.name) x y ∧ rest.Take r members xs ys

/-- The values of fields by members. -/
def Have : {ts : List Type} → Fields ts → Reading → Members → Row ts → Prop
  | _, .nil, _, _, _ => True
  | _, .cons field rest, r, members, (x, xs) =>
    field.Has r (members.get? field.name) x ∧ rest.Have r members xs

variable {ts : List Type} {fields : Fields ts} {r : Reading} {draft draft' : Draft ts}

theorem take_closed : fields.Take r .closed draft draft' ↔ draft' = draft := by
  induction fields with
  | nil => exact ⟨fun _ => rfl, fun _ => trivial⟩
  | cons field rest ih => exact (and_congr Iff.rfl ih).trans Prod.ext_iff.symm

/-- A member with another name changes nothing. -/
theorem take_cons_of_not_mem {key : String} (h : key ∉ fields.names) (value : Doc)
    (rest : Members) :
    fields.Take r (.cons (.whole key) value rest) draft draft' ↔
      fields.Take r rest draft draft' := by
  induction fields with
  | nil => rfl
  | cons field others ih =>
    rw [names, List.mem_cons, not_or] at h
    refine and_congr ?_ (ih h.2)
    rw [Members.get?, if_neg h.1]

/-- No field has another name. -/
theorem put_of_not_mem {key : String} (h : key ∉ fields.names) (d : Doc) (draft : Draft ts) :
    fields.put r key d draft = none := by
  induction fields with
  | nil => rfl
  | cons field rest ih =>
    obtain ⟨x, xs⟩ := draft
    rw [names, List.mem_cons, not_or] at h
    simp only [put, if_neg h.1, ih h.2, Option.map_none]

/-- A member fills the field with its name. -/
theorem put_of_mem {key : String} (hnames : fields.names.Nodup) (h : key ∈ fields.names) (d : Doc)
    (draft : Draft ts) :
    ∃ result, fields.put r key d draft = some result ∧
      ∀ draft', result = .ok draft' ↔
        fields.Take r (.cons (.whole key) d .closed) draft draft' := by
  induction fields with
  | nil => exact absurd h List.not_mem_nil
  | cons field rest ih =>
    obtain ⟨x, xs⟩ := draft
    rw [names, List.nodup_cons] at hnames
    by_cases hkey : key = field.name
    · subst hkey
      have hget : (Members.cons (.whole field.name) d .closed).get? field.name = some d :=
        if_pos rfl
      have hrest (ys : Draft _) :
          rest.Take r (.cons (.whole field.name) d .closed) xs ys ↔ ys = xs :=
        (take_cons_of_not_mem hnames.1 d .closed).trans take_closed
      cases x with
      | none =>
        refine ⟨_, if_pos rfl, fun draft' => map_eq_ok_iff.trans ⟨?_, ?_⟩⟩
        · rintro ⟨v, hv, rfl⟩
          refine And.intro ?_ ((hrest xs).2 rfl)
          rw [hget]
          exact ⟨rfl, v, hv, rfl⟩
        · rintro ⟨hfirst, hothers⟩
          rw [hget] at hfirst
          obtain ⟨-, v, hv, hy⟩ := hfirst
          exact ⟨v, hv, Prod.ext hy.symm ((hrest _).1 hothers).symm⟩
      | some x =>
        refine ⟨_, if_pos rfl, fun draft' => ⟨fun h => ?_, ?_⟩⟩
        · cases h
        · rintro ⟨hfirst, -⟩
          rw [hget] at hfirst
          cases hfirst.1
    · obtain ⟨result, hput, hresult⟩ := ih hnames.2 ((List.mem_cons.1 h).resolve_left hkey) xs
      have hget : (Members.cons (.whole key) d .closed).get? field.name = none := if_neg hkey
      refine ⟨result.map fun ys => (x, ys), ?_, fun draft' => map_eq_ok_iff.trans ⟨?_, ?_⟩⟩
      · rw [← Option.map_some, ← hput]
        exact if_neg hkey
      · rintro ⟨ys, hys, rfl⟩
        refine And.intro ?_ ((hresult ys).1 hys)
        rw [hget]
        rfl
      · rintro ⟨hfirst, hothers⟩
        rw [hget] at hfirst
        exact ⟨_, (hresult _).2 hothers, Prod.ext hfirst.symm rfl⟩

/-- Members are met one after the other, and none again that fills a field. -/
theorem take_cons_of_mem {key : String} (hnames : fields.names.Nodup) (h : key ∈ fields.names)
    (d : Doc) (rest : Members) :
    (rest.get? key = none ∧ fields.Take r (.cons (.whole key) d rest) draft draft') ↔
      ∃ mid, fields.Take r (.cons (.whole key) d .closed) draft mid ∧
        fields.Take r rest mid draft' := by
  induction fields with
  | nil => exact absurd h List.not_mem_nil
  | cons field others ih =>
    obtain ⟨x, xs⟩ := draft
    obtain ⟨y, ys⟩ := draft'
    rw [names, List.nodup_cons] at hnames
    by_cases hkey : key = field.name
    · subst hkey
      have hget (rest : Members) :
          (Members.cons (.whole field.name) d rest).get? field.name = some d := if_pos rfl
      have hrest (rest : Members) (ys : Draft _) :
          others.Take r (.cons (.whole field.name) d rest) xs ys ↔ others.Take r rest xs ys :=
        take_cons_of_not_mem hnames.1 d rest
      constructor
      · rintro ⟨hnone, hfirst, hothers⟩
        rw [hget] at hfirst
        refine ⟨(y, xs), And.intro ?_ ((hrest _ _).2 (take_closed.2 rfl)),
          And.intro ?_ ((hrest _ _).1 hothers)⟩
        · rw [hget]
          exact hfirst
        · rw [hnone]
          rfl
      · rintro ⟨⟨z, zs⟩, ⟨hz, hzs⟩, hfirst, hothers⟩
        obtain rfl := take_closed.1 ((hrest _ _).1 hzs)
        rw [hget] at hz
        obtain ⟨hx, v, hv, rfl⟩ := hz
        cases hnone : rest.get? field.name with
        | some d' =>
          rw [hnone] at hfirst
          cases hfirst.1
        | none =>
          rw [hnone] at hfirst
          obtain rfl := hfirst
          refine ⟨rfl, And.intro ?_ ((hrest _ _).2 hothers)⟩
          rw [hget]
          exact ⟨hx, v, hv, rfl⟩
    · have hget (rest : Members) : (Members.cons (.whole key) d rest).get? field.name
          = rest.get? field.name := if_neg hkey
      constructor
      · rintro ⟨hnone, hfirst, hothers⟩
        obtain ⟨mid, hmid, hrest⟩ :=
          (ih hnames.2 ((List.mem_cons.1 h).resolve_left hkey)).1 ⟨hnone, hothers⟩
        rw [hget] at hfirst
        exact ⟨(x, mid), And.intro (by rw [hget]; rfl) hmid, And.intro hfirst hrest⟩
      · rintro ⟨⟨z, mid⟩, ⟨hz, hmid⟩, hfirst, hrest⟩
        rw [hget] at hz
        cases hz
        obtain ⟨hnone, hothers⟩ :=
          (ih hnames.2 ((List.mem_cons.1 h).resolve_left hkey)).2 ⟨mid, hmid, hrest⟩
        exact ⟨hnone, And.intro (by rw [hget]; exact hfirst) hothers⟩

/-- Members are read if they are sound, each into the field with its name. -/
theorem readMembers_eq_ok_iff (hnames : fields.names.Nodup) {strict : Bool} {members : Members} :
    fields.readMembers strict r members draft = .ok draft' ↔
      members.Sound fields.names strict ∧ fields.Take r members draft draft' := by
  fun_induction fields.readMembers strict r members draft with
  | case1 draft =>
    rw [take_closed, Except.ok.injEq]
    exact (and_iff_right trivial).symm.trans (and_congr_right fun _ => eq_comm)
  | case2 fault draft => exact iff_of_false (by rintro ⟨⟩) fun h => h.1.elim
  | case3 d draft => exact iff_of_false (by rintro ⟨⟩) fun h => h.1.elim
  | case4 key value rest draft ih ih' =>
    cases key with
    | whole key =>
      by_cases hkey : key ∈ fields.names
      · obtain ⟨result, hput, hresult⟩ := put_of_mem (r := r) hnames hkey value draft
        simp only [Quote.read, liftFault, bind, Except.bind, hput]
        change result >>= _ = _ ↔ _
        simp only [bind_eq_ok_iff, hresult, ih, Members.Sound, if_pos hkey]
        rw [and_right_comm, take_cons_of_mem hnames hkey]
        constructor
        · rintro ⟨mid, hmid, hsound, hrest⟩
          exact ⟨⟨mid, hmid, hrest⟩, hsound⟩
        · rintro ⟨⟨mid, hmid, hrest⟩, hsound⟩
          exact ⟨mid, hmid, hsound, hrest⟩
      · simp only [Quote.read, liftFault, bind, Except.bind, put_of_not_mem hkey, Members.Sound,
          if_neg hkey, take_cons_of_not_mem hkey]
        cases strict with
        | true =>
          refine iff_of_false (by rintro ⟨⟩) fun h => ?_
          cases h.1.1.1
        | false =>
          cases hskip : value.skip with
          | error fault =>
            refine iff_of_false (by rintro ⟨⟩) fun h => ?_
            cases h.1.1.2
          | ok _ => exact ih'.trans (and_congr_left fun _ => (and_iff_right ⟨rfl, rfl⟩).symm)
    | spoiled => exact iff_of_false (by rintro ⟨⟩) fun h => h.1.elim
    | torn read skip => exact iff_of_false (by rintro ⟨⟩) fun h => h.1.elim

/-- A draft that has begun empty is a row with the values of the members. -/
theorem finish_of_take {members : Members} {row : Row ts}
    (h : fields.Take r members (Draft.empty ts) draft) :
    fields.finish draft = .ok row ↔ fields.Have r members row := by
  induction fields with
  | nil => exact ⟨fun _ => trivial, fun _ => rfl⟩
  | cons field rest ih =>
    obtain ⟨x, xs⟩ := draft
    obtain ⟨y, ys⟩ := row
    obtain ⟨hfirst, hothers⟩ := h
    simp only [Have, ← ih hothers, Fields.finish]
    have hpair (v : _) : (rest.finish xs >>= fun ys => pure (v, ys)) = .ok (y, ys) ↔
        v = y ∧ rest.finish xs = .ok ys := by
      cases rest.finish xs with
      | error e => exact ⟨nofun, fun h => nomatch h.2⟩
      | ok zs =>
        constructor
        · rintro ⟨⟩
          exact ⟨rfl, rfl⟩
        · rintro ⟨rfl, ⟨⟩⟩
          rfl
    cases hget : members.get? field.name with
    | some d =>
      rw [hget] at hfirst
      obtain ⟨-, v, hv, rfl⟩ := hfirst
      exact (hpair v).trans (and_congr_left fun _ => by rw [Field.Has, hv, Except.ok.injEq])
    | none =>
      rw [hget] at hfirst
      obtain rfl := hfirst
      rw [Field.Has]
      cases field.absent with
      | none => exact ⟨nofun, fun h => nomatch h.1⟩
      | some v => exact (hpair v).trans (and_congr_left fun _ => by rw [Option.some.injEq])

theorem Have.exists_take {members : Members} {row : Row ts} (h : fields.Have r members row) :
    ∃ draft, fields.Take r members (Draft.empty ts) draft := by
  induction fields with
  | nil => exact ⟨(), trivial⟩
  | cons field rest ih =>
    obtain ⟨y, ys⟩ := row
    obtain ⟨hfirst, hothers⟩ := h
    obtain ⟨draft, hdraft⟩ := ih hothers
    cases hget : members.get? field.name with
    | some d =>
      rw [hget] at hfirst
      refine ⟨(some y, draft), And.intro ?_ hdraft⟩
      rw [hget]
      exact ⟨rfl, y, hfirst, rfl⟩
    | none =>
      refine ⟨(none, draft), And.intro ?_ hdraft⟩
      rw [hget]
      rfl

end Fields

/-- An object is read as a record exactly if its members are sound and give the fields
    their values. -/
theorem Codec.decode_object_eq_ok_iff {α : Type} {ts : List Type} {fields : Fields ts}
    {of : Row ts → α} {view : α → Row ts} {strict : Bool} {r r' : Reading} {members : Members}
    {x : α} (hr : r.enter = .ok r') (hnames : fields.names.Nodup) :
    (record fields of view strict).decode r (.object members) = .ok x ↔
      members.Sound fields.names strict ∧ ∃ row, fields.Have r' members row ∧ of row = x := by
  change (r.enter >>= fun r' => fields.readMembers strict r' members (Draft.empty ts)
    >>= fun draft => fields.finish draft >>= fun row => .ok (of row)) = _ ↔ _
  rw [hr]
  simp only [bind_eq_ok_iff, Fields.readMembers_eq_ok_iff hnames, Except.ok.injEq,
    exists_eq_left']
  constructor
  · rintro ⟨draft, ⟨hsound, htake⟩, row, hrow, hx⟩
    exact ⟨hsound, row, (Fields.finish_of_take htake).1 hrow, hx⟩
  · rintro ⟨hsound, row, hrow, hx⟩
    obtain ⟨draft, htake⟩ := hrow.exists_take
    exact ⟨draft, ⟨hsound, htake⟩, row, (Fields.finish_of_take htake).2 hrow, hx⟩

/-- An object of which one member is looked at is read exactly if that member is there,
    once, and is read. -/
theorem Codec.decode_only_eq_ok_iff {α : Type} {name : String} {c : Codec α} {r r' : Reading}
    {members : Members} {x : α} (hr : r.enter = .ok r') :
    (only name c).decode r (.object members) = .ok x ↔
      members.Sound [name] false ∧ ∃ d, members.get? name = some d ∧ c.decode r' d = .ok x := by
  have hnames : (field name c).names.Nodup := List.nodup_singleton name
  refine (decode_object_eq_ok_iff hr hnames).trans (and_congr_right fun _ => ?_)
  constructor
  · rintro ⟨⟨y, _⟩, ⟨hy, -⟩, rfl⟩
    change (Field.required name c).Has r' (members.get? name) y at hy
    cases hget : members.get? name with
    | some d =>
      rw [hget] at hy
      exact ⟨d, rfl, hy⟩
    | none =>
      rw [hget] at hy
      exact nomatch hy
  · rintro ⟨d, hd, hx⟩
    refine ⟨(x, ()), And.intro ?_ trivial, rfl⟩
    change (Field.required name c).Has r' (members.get? name) x
    rw [hd]
    exact hx

/-- An answer is read if its whole text is. -/
theorem Codec.ofAnswer_eq_ok_iff {α : Type} {c : Codec α} {body : Bytes} {x : α} :
    c.ofAnswer body = .ok x ↔ ∃ d, Doc.read body = (d, true) ∧ c.decode .ofText d = .ok x := by
  rw [ofAnswer, ofBytes]
  obtain ⟨d, ended⟩ := Doc.read body
  simp only [bind_eq_ok_iff, Prod.mk.injEq]
  cases ended with
  | false => simp
  | true => simp

/-- A member with one of the names is the only one with it. -/
theorem Members.Sound.get?_of_holds {names : List String} {strict : Bool} {name : String}
    {d : Doc} (hname : name ∈ names) : ∀ {members : Members}, members.Sound names strict →
      members.Holds name d → members.get? name = some d
  | .cons (.whole key) value rest, hsound, h => by
    rcases h with ⟨hkey, rfl⟩ | h
    · exact if_pos (Quote.whole.inj hkey)
    · have hrest := hsound.2.get?_of_holds hname h
      have hkey : key ≠ name := by
        rintro rfl
        have hnone := hsound.1
        rw [if_pos hname, hrest] at hnone
        exact nomatch hnone
      exact (if_neg hkey).trans hrest
  | .cons .spoiled _ _, hsound, _ | .cons (.torn _ _) _ _, hsound, _ => hsound.elim
  | .closed, _, h | .cut _, _, h | .stray _, _, h => h.elim

/-! ## Written objects -/

namespace Members

theorem get?_ofJson (name : String) (members : List (String × Json)) :
    (ofJson members).get? name = (members.lookup name).map Doc.ofJson := by
  induction members with
  | nil => rfl
  | cons member members ih =>
    obtain ⟨key, j⟩ := member
    rw [ofJson, get?, ih, Json.lookup_cons_eq_ite]
    by_cases hkey : key = name
    · rw [if_pos hkey, if_pos hkey.symm, Option.map_some]
    · rw [if_neg hkey, if_neg (Ne.symm hkey)]

/-- Of what has been written, each member can be read. -/
theorem sound_ofJson {names : List String} {members : List (String × Json)}
    (h : ((members.map Prod.fst).filter (· ∈ names)).Nodup) :
    (ofJson members).Sound names false := by
  induction members with
  | nil => trivial
  | cons member members ih =>
    obtain ⟨key, j⟩ := member
    rw [List.map_cons, List.filter_cons] at h
    rw [ofJson, Sound]
    by_cases hkey : key ∈ names
    · rw [if_pos (decide_eq_true hkey), List.nodup_cons] at h
      have hnone : key ∉ members.map Prod.fst := fun hmem =>
        h.1 (List.mem_filter.2 ⟨hmem, decide_eq_true hkey⟩)
      rw [if_pos hkey, get?_ofJson, Json.lookup_eq_none_of_not_mem hnone]
      exact ⟨rfl, ih h.2⟩
    · rw [if_neg (by simpa using hkey)] at h
      rw [if_neg hkey]
      exact ⟨⟨rfl, Doc.skip_ofJson j⟩, ih h⟩

end Members

/-- The member that is looked at is read, whatever stands around it. -/
theorem Codec.decode_only {α : Type} {c : Codec α} {name : String} {j : Json}
    (before after : List (String × Json)) {x : α} {r r' : Reading} (hr : r.enter = .ok r')
    (hb : name ∉ before.map Prod.fst) (ha : name ∉ after.map Prod.fst)
    (hx : c.decode r' (Doc.ofJson j) = .ok x) :
    (only name c).decode r (Doc.ofJson (.object (before ++ (name, j) :: after))) = .ok x := by
  refine (decode_only_eq_ok_iff hr).2 ⟨Members.sound_ofJson ?_, Doc.ofJson j, ?_, hx⟩
  · have hothers {members : List (String × Json)} (h : name ∉ members.map Prod.fst) :
        (members.map Prod.fst).filter (· ∈ [name]) = [] := by
      refine List.filter_eq_nil_iff.2 fun key hkey hmem => h ?_
      rwa [← List.mem_singleton.1 (of_decide_eq_true hmem)]
    rw [List.map_append, List.map_cons, List.filter_append, List.filter_cons_of_pos (by simp),
      hothers hb, hothers ha]
    exact List.nodup_singleton name
  · rw [Members.get?_ofJson, List.lookup_append, Json.lookup_eq_none_of_not_mem hb, Option.none_or,
      Json.lookup_cons_eq_ite, if_pos rfl, Option.map_some]

end ChainRelay
