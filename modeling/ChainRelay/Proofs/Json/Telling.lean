import ChainRelay.Json.Record
import ChainRelay.Proofs.Json.Codec
import ChainRelay.Proofs.Json.Depth
import ChainRelay.Proofs.Text.Numeral
import Mathlib.Data.List.Basic

/-!
# Values that tell what they stand for

A text without numbers tells the value that was written (`Json.render_inj`), as the
document of a value is taken as that value if it may be deep enough
(`Doc.take_ofJson`).

What a codec writes, with its keys in order, tells the element it stands for
(`Codec.Tells`) if the parts do. In a record a field may be left out only for one
value (`Field.Tells`); the others are found by their names, which must be different,
wherever the order of keys has put them (`Codec.Tells.record`).
-/

namespace ChainRelay

open Function (Injective)

/-! ## Texts tell values -/

namespace Json

/-- Values with one document are the same. -/
theorem ofJson_injective : Injective Doc.ofJson := by
  intro j k h
  have hj := Doc.take_ofJson (Nat.le_max_left j.depth k.depth)
  rw [h, Doc.take_ofJson (Nat.le_max_right j.depth k.depth)] at hj
  exact (Except.ok.inj hj).symm

/-- Values without numbers that have one text are the same. -/
theorem render_inj {j k : Json} (hj : j.HasNoNumber) (hk : k.HasNoNumber)
    (h : j.render = k.render) : j = k := by
  have hread := Doc.read_render hj.allNumbers
  rw [h, Doc.read_render hk.allNumbers, Prod.mk.injEq] at hread
  exact (ofJson_injective hread.1).symm

end Json

/-! ## Codecs -/

namespace Codec

variable {α β : Type} {c : Codec α}

/-- The value that is written tells the element, in whatever order its keys were. -/
def Tells (c : Codec α) : Prop := Injective fun x => (c.encode x).sorted

namespace Tells

theorem written {write : α → String} {read : String → Except String α} (h : Injective write) :
    (written write read).Tells :=
  fun _ _ heq => h (Json.text.inj heq)

theorem text : text.Tells := fun _ _ heq => Json.text.inj heq

theorem names {name : α → String} {known : String → Option α} (h : Injective name) :
    (names name known).Tells :=
  fun _ _ heq => h (Json.text.inj heq)

theorem decimal : decimal.Tells := .written Numeral.ofWord_injective

theorem iso {of : α → β} {view : β → α} (h : c.Tells) (hview : ∀ y, of (view y) = y) :
    (iso c of view).Tells :=
  h.comp (Function.LeftInverse.injective hview)

theorem list (h : c.Tells) : (list c).Tells := by
  intro xs ys heq
  simp only [Codec.list, Json.sorted, Json.array.injEq, Json.sortedItems_eq_map,
    List.map_map] at heq
  exact List.map_injective_iff.2 h heq

end Tells

end Codec

/-! ## Records -/

namespace Field

variable {β : Type}

/-- What is written of a value, with keys in order: nothing if it is left out. -/
def sortedValue? (field : Field β) (x : β) : Option Json :=
  if field.omits x then none else some (field.codec.encode x).sorted

/-- What is written of a value tells it; so there is at most one that is left out. -/
def Tells (field : Field β) : Prop := Injective field.sortedValue?

namespace Tells

variable {name : String} {codec : Codec β} {absent : β}

theorem required (h : codec.Tells) : (required name codec).Tells :=
  fun _ _ heq => h (Option.some.inj heq)

theorem optional (h : codec.Tells) : (optional name codec absent).Tells :=
  fun _ _ heq => h (Option.some.inj heq)

theorem sparse {omits : β → Bool} (h : codec.Tells)
    (homits : ∀ x y, omits x = true → omits y = true → x = y) :
    (sparse name codec absent omits).Tells := by
  intro x y heq
  simp only [sortedValue?, Field.sparse] at heq
  by_cases hx : omits x = true <;> by_cases hy : omits y = true
  · exact homits x y hx hy
  · simp [hx, hy] at heq
  · simp [hx, hy] at heq
  · exact h (by simpa [hx, hy] using heq)

end Tells

end Field

namespace Fields

/-- The names of the fields. -/
def names : {ts : List Type} → Fields ts → List String
  | _, .nil => []
  | _, .cons field rest => field.name :: rest.names

/-- Every field tells its value. -/
def Tell : {ts : List Type} → Fields ts → Prop
  | _, .nil => True
  | _, .cons field rest => field.Tells ∧ rest.Tell

variable {ts : List Type} {fields : Fields ts}

/-- Fields are written under their names. -/
theorem sublist_names (fields : Fields ts) (row : Row ts) :
    List.Sublist ((fields.encode row).map Prod.fst) fields.names := by
  induction fields with
  | nil => exact .slnil
  | cons field rest ih =>
    obtain ⟨x, xs⟩ := row
    rw [encode]
    split_ifs with hx
    · exact (ih xs).cons _
    · exact (ih xs).cons_cons _

theorem lookup_encode_of_not_mem {name : String} (h : name ∉ fields.names) (row : Row ts) :
    (fields.encode row).lookup name = none :=
  Json.lookup_eq_none_of_not_mem fun hmem => h ((fields.sublist_names row).subset hmem)

/-- What stands under a name, with keys in order. -/
def sortedValue? (fields : Fields ts) (row : Row ts) (name : String) : Option Json :=
  ((fields.encode row).lookup name).map Json.sorted

/-- Under its name stands what is written of the first field, and nothing of it under
    other names. -/
theorem sortedValue?_cons {β : Type} {field : Field β} {rest : Fields ts}
    (h : field.name ∉ rest.names) (row : Row (β :: ts)) (name : String) :
    (Fields.cons field rest).sortedValue? row name
      = if name = field.name then field.sortedValue? row.1 else rest.sortedValue? row.2 name := by
  obtain ⟨x, xs⟩ := row
  change (((Fields.cons field rest).encode (x, xs)).lookup name).map Json.sorted = _
  rw [encode, Field.sortedValue?]
  by_cases hname : name = field.name
  · rw [if_pos hname]
    split_ifs with hx
    · rw [hname, lookup_encode_of_not_mem h]
      rfl
    · rw [Json.lookup_cons_eq_ite, if_pos hname]
      rfl
  · rw [if_neg hname]
    split_ifs with hx
    · rfl
    · rw [Json.lookup_cons_eq_ite, if_neg hname]
      rfl

/-- Rows of which the same stands under every name are the same. -/
theorem Tell.eq_of_sortedValue? (h : fields.Tell) (hnames : fields.names.Nodup) {xs ys : Row ts}
    (heq : ∀ name, fields.sortedValue? xs name = fields.sortedValue? ys name) : xs = ys := by
  induction fields with
  | nil => rfl
  | cons field rest ih =>
    rw [names, List.nodup_cons] at hnames
    simp only [sortedValue?_cons hnames.1] at heq
    have hfirst : xs.1 = ys.1 := h.1 (by simpa using heq field.name)
    have hrest : xs.2 = ys.2 := by
      refine ih h.2 hnames.2 fun name => ?_
      by_cases hname : name = field.name
      · rw [sortedValue?, sortedValue?, hname, lookup_encode_of_not_mem hnames.1,
          lookup_encode_of_not_mem hnames.1]
      · simpa only [if_neg hname] using heq name
    exact Prod.ext hfirst hrest

end Fields

namespace Codec

variable {α : Type}

/-- A record tells its element if its fields tell their values, under different
    names. -/
theorem Tells.record {ts : List Type} {fields : Fields ts} {of : Row ts → α}
    {view : α → Row ts} {strict : Bool} (h : fields.Tell) (hnames : fields.names.Nodup)
    (hview : ∀ x, of (view x) = x) : (record fields of view strict).Tells := by
  intro x y heq
  refine Function.LeftInverse.injective hview (h.eq_of_sortedValue? hnames fun name => ?_)
  have hkeys (row : Row ts) := (fields.sublist_names row).nodup hnames
  rw [Fields.sortedValue?, Fields.sortedValue?, ← Json.get?_sorted (hkeys _),
    ← Json.get?_sorted (hkeys _)]
  exact congrArg (Json.get? · name) heq

/-- The members of a union. -/
def unionMembers (union : String × Json) : List (String × Json) :=
  [(Case.Member.tag.name, .text union.1), (Case.Member.payload.name, union.2)]

theorem nodup_unionMembers (union : String × Json) : ((unionMembers union).map Prod.fst).Nodup :=
  show [Case.Member.tag.name, Case.Member.payload.name].Nodup by decide

/-- A union tells its element if its tag and its payload do so together. -/
theorem Tells.tagged {cases : List (Case α)} {encode : α → String × Json}
    (h : ∀ x y, (encode x).1 = (encode y).1 → (encode x).2.sorted = (encode y).2.sorted → x = y) :
    (tagged cases encode).Tells := by
  intro x y heq
  have hget (name : String) : ((unionMembers (encode x)).lookup name).map Json.sorted
      = ((unionMembers (encode y)).lookup name).map Json.sorted := by
    rw [← Json.get?_sorted (nodup_unionMembers _), ← Json.get?_sorted (nodup_unionMembers _)]
    exact congrArg (Json.get? · name) heq
  have htag := hget Case.Member.tag.name
  have hpayload := hget Case.Member.payload.name
  exact h x y (Json.text.inj (Option.some.inj htag)) (Option.some.inj hpayload)

end Codec

end ChainRelay
