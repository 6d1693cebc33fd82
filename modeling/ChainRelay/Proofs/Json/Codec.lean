import ChainRelay.Block.Basic
import ChainRelay.Json.Record
import ChainRelay.Proofs.Json.Reading
import ChainRelay.Proofs.Text.Numeral

/-!
# Codecs and the text of their values

Most codecs write no numbers but only texts, so what they write is read from its
text as it was (`Doc.read_render`). `Codec.WritesNoNumber` is kept by every way to
make a codec from others. A value that was written has no faults, so a reader can
pass over it (`Doc.skip_ofJson`), as one does that looks at one member of an object
(`Codec.only`).
-/

namespace ChainRelay

open Json (HasNoNumber HaveNoNumber MembersHaveNoNumber)

mutual
/-- A value is passed over. -/
theorem Doc.skip_ofJson : ∀ j : Json, (Doc.ofJson j).skip = .ok ()
  | .null | .bool _ | .number _ | .text _ => rfl
  | .array items => Items.skip_ofJson items
  | .object members => Members.skip_ofJson members

/-- Items are passed over. -/
theorem Items.skip_ofJson : ∀ items : List Json, (Items.ofJson items).skip = .ok ()
  | [] => rfl
  | x :: rest => by
    rw [Items.ofJson, Items.skip, Doc.skip_ofJson x]
    exact Items.skip_ofJson rest

/-- Members are passed over. -/
theorem Members.skip_ofJson :
    ∀ members : List (String × Json), (Members.ofJson members).skip = .ok ()
  | [] => rfl
  | (key, x) :: rest => by
    rw [Members.ofJson, Members.skip, Doc.skip_ofJson x]
    · exact Members.skip_ofJson rest
    · exact fun _ _ h => by cases h
end

/-! ## Values without numbers -/

namespace Codec

variable {α β : Type}

/-- No value that is written has a number in it. -/
def WritesNoNumber (c : Codec α) : Prop := ∀ x, (c.encode x).HasNoNumber

end Codec

namespace Fields

/-- No value of any of the fields has a number in it. -/
def WriteNoNumber : {ts : List Type} → Fields ts → Prop
  | _, .nil => True
  | _, .cons field rest => field.codec.WritesNoNumber ∧ rest.WriteNoNumber

theorem WriteNoNumber.encode {ts : List Type} {fields : Fields ts} (h : fields.WriteNoNumber)
    (row : Row ts) : MembersHaveNoNumber (fields.encode row) := by
  induction fields with
  | nil => trivial
  | cons field rest ih =>
    obtain ⟨x, xs⟩ := row
    rw [Fields.encode]
    split_ifs with hx
    · exact ih h.2 xs
    · exact ⟨h.1 x, ih h.2 xs⟩

end Fields

namespace Codec

variable {α β : Type} {c : Codec α}

theorem WritesNoNumber.text : text.WritesNoNumber := fun _ => trivial

theorem WritesNoNumber.written {write : α → String} {read : String → Except String α} :
    (written write read).WritesNoNumber := fun _ => trivial

theorem WritesNoNumber.names {name : α → String} {known : String → Option α} :
    (names name known).WritesNoNumber := fun _ => trivial

theorem WritesNoNumber.decimal : decimal.WritesNoNumber := fun _ => trivial

theorem WritesNoNumber.iso {of : α → β} {view : β → α} (h : c.WritesNoNumber) :
    (iso c of view).WritesNoNumber := fun y => h (view y)

theorem WritesNoNumber.list (h : c.WritesNoNumber) : (list c).WritesNoNumber := by
  intro xs
  change HaveNoNumber (xs.map c.encode)
  induction xs with
  | nil => trivial
  | cons x xs ih => exact ⟨h x, ih⟩

theorem WritesNoNumber.record {ts : List Type} {fields : Fields ts} {of : Row ts → α}
    {view : α → Row ts} {strict : Bool} (h : fields.WriteNoNumber) :
    (record fields of view strict).WritesNoNumber := fun x => h.encode (view x)

/-! ## Reading back -/

/-- An answer without numbers is read from its text as from its value. -/
theorem ofAnswer_render {j : Json} (hj : j.HasNoNumber) :
    c.ofAnswer (Utf8.encode j.render) = c.decode .ofText (Doc.ofJson j) := by
  rw [ofAnswer, ofBytes, Doc.read_render hj.allNumbers]
  change c.decode .ofText (Doc.ofJson j) >>= pure = _
  rw [bind_pure]

/-- A number that is written as a text is read as it was. -/
theorem decode_decimal (r : Reading) (n : UInt64) :
    decimal.decode r (Doc.ofJson (decimal.encode n)) = .ok n := by
  have h := Numeral.readDecimal_ofWord n
  simp only [decimal, written, Doc.ofJson, text, Quote.read, liftFault, bind, Except.bind, h]

/-- A list is read item by item. -/
theorem decode_list {r r' : Reading} (hr : r.enter = .ok r') {write : β → Json} {of : β → α}
    {xs : List β} (h : ∀ x ∈ xs, c.decode r' (Doc.ofJson (write x)) = .ok (of x)) :
    (list c).decode r (Doc.ofJson (.array (xs.map write))) = .ok (xs.map of) := by
  change (do
    let r ← r.enter
    decodeItems (c.decode r) (Items.ofJson (xs.map write))) = _
  rw [hr]
  change decodeItems (c.decode r') (Items.ofJson (xs.map write)) = _
  induction xs with
  | nil => rfl
  | cons x xs ih =>
    rw [List.map_cons, Items.ofJson, decodeItems, h x List.mem_cons_self,
      ih fun y hy => h y (List.mem_cons_of_mem _ hy)]
    rfl

/-! ## Members of an object -/

/-- One field that must be there. -/
def field (name : String) (c : Codec α) : Fields [α] := .cons (.required name c) .nil

/-- An object of which one member is looked at. -/
def only (name : String) (c : Codec α) : Codec α :=
  record (field name c) (fun (x, ()) => x) (fun x => (x, ()))

end Codec

end ChainRelay
