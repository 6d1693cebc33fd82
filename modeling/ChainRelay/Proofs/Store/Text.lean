import ChainRelay.Proofs.Json.Restoring
import ChainRelay.Proofs.Store.Rows
import ChainRelay.Store.Text

/-!
# Opening a store again

The rows of a store come in ascending order in its text, so that putting them in order
leaves them as they were, and the store is read from its text as it was
(`Store.Ordered.reopen_file`).
-/

namespace ChainRelay

namespace StatusRows

variable {rows : StatusRows} {height : UInt64}

/-- A height beyond all others goes to the end. -/
theorem put_of_lt (status : BlockStatus) (h : ∀ row ∈ rows, row.1 < height) :
    put height status rows = rows ++ [(height, status)] := by
  induction rows with
  | nil => rfl
  | cons first rest ih =>
    have hlt := h first List.mem_cons_self
    rw [put, if_neg (UInt64.lt_asymm hlt), if_neg (UInt64.ne_of_lt hlt).symm,
      ih fun row hrow => h row (List.mem_cons_of_mem _ hrow), List.cons_append]

theorem ascending_foldl_put (rows : StatusRows) :
    Ascending (rows.foldl (fun rows (height, status) => put height status rows) []) :=
  List.foldlRecOn rows _ List.Pairwise.nil fun _ h _ _ => Ascending.put h

/-- Rows in order stay as they are. -/
theorem Ascending.foldl_put_eq (h : rows.Ascending) :
    rows.foldl (fun rows (height, status) => StatusRows.put height status rows) [] = rows := by
  induction rows using List.reverseRecOn with
  | nil => rfl
  | append_singleton rows last ih =>
    obtain ⟨hbefore, -, hlast⟩ := List.pairwise_append.1 h
    rw [List.foldl_append, ih hbefore]
    exact put_of_lt last.2 fun row hrow => hlast row hrow last List.mem_cons_self

end StatusRows

namespace Store

open Codec (Admits Every)

theorem rowCodec_admits : rowCodec.Admits 1 Every :=
  .record
    (.cons (.required .word64) <|
      .cons (.required (.names fun status => by cases status <;> rfl)) .nil)
    (by decide) (by decide) (fun _ _ => trivial) fun _ _ => ⟨⟨trivial, trivial, trivial⟩, rfl⟩

theorem codec_admits : codec.Admits 3 Ordered :=
  .record
    (.cons (.optional (.option .word64 fun _ => nofun) fun _ _ => trivial) <|
      .cons (.required (.list rowCodec_admits)) .nil)
    (by decide) (by decide) (fun _ _ => StatusRows.ascending_foldl_put _)
    fun s hs => ⟨⟨fun _ _ => trivial, fun _ _ => trivial, trivial⟩,
      congrArg (Store.mk s.position) (StatusRows.Ascending.foldl_put_eq hs)⟩

theorem isWord_toNat (n : UInt64) : (Number.integer n.toNat).IsWord := by
  have hlt := n.toNat_lt
  exact ⟨by omega, by exact_mod_cast hlt⟩

theorem allNumbers_encode (s : Store) : (codec.encode s).AllNumbers Number.IsWord := by
  have hposition : ((Codec.option .word64).encode s.position).AllNumbers Number.IsWord := by
    cases s.position with
    | none => trivial
    | some position => exact isWord_toNat position
  have hrows : Json.ItemsAllNumbers Number.IsWord (s.rows.map rowCodec.encode) := by
    induction s.rows with
    | nil => trivial
    | cons row rows ih => exact ⟨⟨isWord_toNat row.1, trivial, trivial⟩, ih⟩
  exact ⟨hposition, hrows, trivial⟩

/-- A store is read from its text as it was. -/
theorem Ordered.ofText?_render {s : Store} (hs : s.Ordered) : ofText? s.render = some s := by
  have hread := Admits.ofBytes_render codec_admits (by decide) hs (allNumbers_encode s)
  rw [ofText?, render, hread]
  rfl

/-- A store that is kept in a file is found again as it was. -/
theorem Ordered.reopen_file {s : Store} (hs : s.Ordered) : s.reopen .file = s := by
  rw [reopen, hs.ofText?_render, Option.getD_some]

end Store

end ChainRelay
