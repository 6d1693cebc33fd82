import ChainRelay.Proofs.Json.Sorting
import ChainRelay.Settings.Loading
import Mathlib.Computability.Primrec.List

/-!
# Settings from several files

Putting tables together keeps their keys in order, so what comes out is decided by
what the files set: if no two of them set the same key, neither their order matters
nor how the keys are spread over them, and a key that two files set is refused
whichever of them comes first (`Settings.split_freely`).
-/

namespace ChainRelay.Settings

/-! ## What a file sets -/

/-- The keys of a table. -/
def Table.keys (table : Table) : List String := table.map Prod.fst

namespace Source

variable {s : Source}

/-- The file can be read, and it holds a table. -/
def IsTable (s : Source) : Prop := ∃ table, s.table = .ok table

/-- What a file sets; nothing if it holds no table. -/
def entries (s : Source) : Table := s.table.toOption.getD []

/-- The keys that a file sets. -/
def keys (s : Source) : List String := s.entries.keys

theorem entries_eq {table : Table} (h : s.table = .ok table) : s.entries = table := by
  rw [entries, h]
  rfl

theorem IsTable.table_eq (h : s.IsTable) : s.table = .ok s.entries := by
  obtain ⟨table, htable⟩ := h
  rw [htable, entries_eq htable]

/-- The keys of a file are in order. -/
theorem IsTable.ascending (h : s.IsTable) : Json.Ascending s.entries := by
  have htable := h.table_eq
  unfold Source.table at htable
  split at htable
  · cases htable
  · split at htable
    · cases htable
    · next hparse =>
      obtain ⟨root, -, hroot⟩ := Option.map_eq_some_iff.1 hparse
      rw [← Except.ok.inj htable, ← hroot]
      exact Json.ascending_sortMembers _

end Source

/-- No two files set the same key. -/
def Apart (sources : List Source) : Prop := sources.Pairwise fun s s' => s.keys.Disjoint s'.keys

theorem apart_iff {sources : List Source} (tables : ∀ s ∈ sources, s.IsTable) :
    Apart sources ↔ (sources.flatMap Source.keys).Nodup := by
  rw [List.nodup_flatMap]
  exact (and_iff_right fun s hs => (tables s hs).ascending.nodup).symm

/-! ## Adding a file -/

/-- The failure of a file to set a key that is set. -/
def setAgain (path key : String) : Failure :=
  .message (Quoted.ofText key ++ " in " ++ path ++ " is already set by an earlier config file")

theorem add_of_nodup (path : String) {merged table : Table} (ascending : Json.Ascending merged)
    (h : (merged.keys ++ table.keys).Nodup) :
    ∃ all, add path merged table = .ok all ∧ Json.Ascending all ∧ all.Perm (merged ++ table) := by
  induction table generalizing merged with
  | nil => exact ⟨merged, rfl, ascending, (List.append_nil merged).symm ▸ .refl _⟩
  | cons entry rest ih =>
    obtain ⟨key, x⟩ := entry
    have hkey : key ∉ merged.keys := fun hmem =>
      (List.nodup_append'.1 h).2.2 hmem List.mem_cons_self
    have hinsert := Json.insertMember_perm x hkey
    have hkeys : (Table.keys (Json.insertMember key x merged) ++ Table.keys rest).Perm
        (merged.keys ++ Table.keys ((key, x) :: rest)) :=
      ((hinsert.map Prod.fst).append_right _).trans List.perm_middle.symm
    obtain ⟨all, hadd, hall, hperm⟩ := ih ascending.insertMember (hkeys.nodup_iff.2 h)
    refine ⟨all, ?_, hall, hperm.trans ((hinsert.append_right rest).trans List.perm_middle.symm)⟩
    rw [add, Json.lookup_eq_none_of_not_mem hkey]
    exact hadd

theorem add_of_shared (path : String) {merged table : Table} (nodup : table.keys.Nodup)
    (h : ¬ merged.keys.Disjoint table.keys) :
    ∃ key ∈ table.keys, key ∈ merged.keys ∧ add path merged table = .error (setAgain path key) := by
  induction table generalizing merged with
  | nil => exact absurd (List.disjoint_nil_right _) h
  | cons entry rest ih =>
    obtain ⟨key, x⟩ := entry
    obtain ⟨hfresh, hrest⟩ := List.nodup_cons.1 nodup
    by_cases hkey : key ∈ merged.keys
    · exact ⟨key, List.mem_cons_self, hkey, if_pos (Json.isSome_lookup_iff.2 hkey)⟩
    -- The key goes in, and it is not repeated further on, so the shared key is another one.
    have hkeys : ∀ k ∈ Table.keys rest,
        (k ∈ Table.keys (Json.insertMember key x merged) ↔ k ∈ merged.keys) := by
      intro k hk
      rw [Table.keys, ((Json.insertMember_perm x hkey).map Prod.fst).mem_iff, List.map_cons,
        List.mem_cons]
      exact or_iff_right fun heq => hfresh (heq ▸ hk)
    have hshared : ¬ (Table.keys (Json.insertMember key x merged)).Disjoint (Table.keys rest) := by
      intro hapart
      refine h (List.disjoint_cons_right.2 ⟨hkey, fun k hmerged hk => ?_⟩)
      exact hapart ((hkeys k hk).2 hmerged) hk
    obtain ⟨k, hk, hmem, hadd⟩ := ih hrest hshared
    refine ⟨k, List.mem_cons_of_mem _ hk, (hkeys k hk).1 hmem, ?_⟩
    rw [add, Json.lookup_eq_none_of_not_mem hkey]
    exact hadd

/-! ## Putting files together -/

theorem merge_cons {merged : Table} {s : Source} {rest : List Source} (table : s.IsTable) :
    merge merged (s :: rest) = add s.path merged s.entries >>= (merge · rest) := by
  rw [merge, table.table_eq]
  rfl

theorem merge_of_nodup {merged : Table} {sources : List Source}
    (tables : ∀ s ∈ sources, s.IsTable) (ascending : Json.Ascending merged)
    (h : (merged.keys ++ sources.flatMap Source.keys).Nodup) :
    ∃ all, merge merged sources = .ok all ∧ Json.Ascending all ∧
      all.Perm (merged ++ sources.flatMap Source.entries) := by
  induction sources generalizing merged with
  | nil => exact ⟨merged, rfl, ascending, (List.append_nil merged).symm ▸ .refl _⟩
  | cons s rest ih =>
    obtain ⟨hs, hrest⟩ := List.forall_mem_cons.1 tables
    rw [List.flatMap_cons, ← List.append_assoc] at h
    obtain ⟨added, hadd, hadded, hperm⟩ :=
      add_of_nodup s.path ascending (List.nodup_append'.1 h).1
    have hkeys : added.keys.Perm (merged.keys ++ s.keys) :=
      (hperm.map Prod.fst).trans (List.map_append ▸ .refl _)
    obtain ⟨all, hmerge, hall, hperm'⟩ :=
      ih hrest hadded ((hkeys.append_right _).nodup_iff.2 h)
    refine ⟨all, by rw [merge_cons hs, hadd]; exact hmerge, hall, ?_⟩
    rw [List.flatMap_cons, ← List.append_assoc]
    exact hperm'.trans (hperm.append_right _)

/-- A key that is not new in a file is refused there. -/
theorem merge_of_shared {merged : Table} {sources : List Source}
    (tables : ∀ s ∈ sources, s.IsTable) (ascending : Json.Ascending merged)
    (h : ¬ (merged.keys ++ sources.flatMap Source.keys).Nodup) :
    ∃ before s after key, sources = before ++ s :: after ∧ key ∈ s.keys ∧
      (key ∈ merged.keys ∨ ∃ s' ∈ before, key ∈ s'.keys) ∧
      merge merged sources = .error (setAgain s.path key) := by
  induction sources generalizing merged with
  | nil => exact absurd ((List.append_nil merged.keys).symm ▸ ascending.nodup) h
  | cons s rest ih =>
    obtain ⟨hs, hrest⟩ := List.forall_mem_cons.1 tables
    by_cases hnodup : (merged.keys ++ s.keys).Nodup
    · rw [List.flatMap_cons, ← List.append_assoc] at h
      obtain ⟨added, hadd, hadded, hperm⟩ := add_of_nodup s.path ascending hnodup
      have hkeys : added.keys.Perm (merged.keys ++ s.keys) :=
        (hperm.map Prod.fst).trans (List.map_append ▸ .refl _)
      obtain ⟨before, s', after, key, rfl, hmem, horigin, hmerge⟩ :=
        ih hrest hadded (mt (hkeys.append_right _).nodup_iff.1 h)
      refine ⟨s :: before, s', after, key, rfl, hmem, ?_, by rw [merge_cons hs, hadd]; exact hmerge⟩
      rcases horigin with hkey | ⟨s'', hs'', hkey⟩
      · rcases List.mem_append.1 (hkeys.mem_iff.1 hkey) with hkey | hkey
        · exact .inl hkey
        · exact .inr ⟨s, List.mem_cons_self, hkey⟩
      · exact .inr ⟨s'', List.mem_cons_of_mem _ hs'', hkey⟩
    · have hshared : ¬ merged.keys.Disjoint s.keys := fun hapart =>
        hnodup (List.nodup_append'.2 ⟨ascending.nodup, hs.ascending.nodup, hapart⟩)
      obtain ⟨key, hkey, hmem, hadd⟩ := add_of_shared s.path hs.ascending.nodup hshared
      exact ⟨[], s, rest, key, rfl, hkey, .inl hmem, by rw [merge_cons hs, hadd]; rfl⟩

/-- Files that share no key are put together into all that they set. -/
theorem merge_of_apart {sources : List Source} (tables : ∀ s ∈ sources, s.IsTable)
    (apart : Apart sources) :
    ∃ all, merge [] sources = .ok all ∧ Json.Ascending all ∧
      all.Perm (sources.flatMap Source.entries) :=
  merge_of_nodup tables List.Pairwise.nil ((apart_iff tables).1 apart)

theorem apart_perm {sources order : List Source} (h : order.Perm sources) :
    Apart order ↔ Apart sources :=
  h.pairwise_iff List.disjoint_symm

theorem load_eq_of_perm {sources sources' : List Source} (tables : ∀ s ∈ sources, s.IsTable)
    (apart : Apart sources) (tables' : ∀ s ∈ sources', s.IsTable) (apart' : Apart sources')
    (h : (sources.flatMap Source.entries).Perm (sources'.flatMap Source.entries)) :
    load sources = load sources' := by
  obtain ⟨all, hmerge, hall, hperm⟩ := merge_of_apart tables apart
  obtain ⟨all', hmerge', hall', hperm'⟩ := merge_of_apart tables' apart'
  obtain rfl := hall.eq_of_perm hall' (hperm.trans (h.trans hperm'.symm))
  rw [load, load, hmerge, hmerge']

/-- If no two files set the same key, they give the same settings, or the same error, in
    any order, and so does a single file that sets all that they set. If two files do, the
    settings are refused in any order, for a key that an earlier file has set. -/
theorem split_freely (sources : List Source) (tables : ∀ s ∈ sources, s.IsTable) :
    (Apart sources →
      (∀ order, order.Perm sources → load order = load sources) ∧
      ∀ whole : Source, whole.IsTable →
        (∀ entry, entry ∈ whole.entries ↔ ∃ s ∈ sources, entry ∈ s.entries) →
        load [whole] = load sources) ∧
    (¬ Apart sources → ∀ order, order.Perm sources →
      ∃ before s after key, order = before ++ s :: after ∧ key ∈ s.keys ∧
        (∃ s' ∈ before, key ∈ s'.keys) ∧ load order = .error (setAgain s.path key)) := by
  constructor
  · intro apart
    constructor
    · intro order horder
      exact load_eq_of_perm (fun s hs => tables s (horder.mem_iff.1 hs))
        ((apart_perm horder).2 apart) tables apart (horder.flatMap_right _)
    · intro whole hwhole hentries
      have hnodup : (sources.flatMap Source.entries).Nodup := by
        refine List.Nodup.of_map Prod.fst ?_
        rw [List.map_flatMap]
        exact (apart_iff tables).1 apart
      refine load_eq_of_perm (List.forall_mem_singleton.2 hwhole) (List.pairwise_singleton _ _)
        tables apart ?_
      rw [List.flatMap_singleton]
      refine (List.perm_ext_iff_of_nodup (.of_map _ hwhole.ascending.nodup) hnodup).2 ?_
      intro entry
      rw [hentries, List.mem_flatMap]
  · intro hshared order horder
    have htables : ∀ s ∈ order, s.IsTable := fun s hs => tables s (horder.mem_iff.1 hs)
    have hnodup := mt (apart_iff htables).2 (mt (apart_perm horder).1 hshared)
    obtain ⟨before, s, after, key, horder, hkey, horigin, hmerge⟩ :=
      merge_of_shared htables (show Json.Ascending ([] : Table) from .nil) hnodup
    refine ⟨before, s, after, key, horder, hkey, horigin.resolve_left List.not_mem_nil, ?_⟩
    rw [load, hmerge]
    rfl

/-! Settings for nodes on the same machine, in two files and in one. -/

/-- What the file about the observed chain sets. -/
def observerTable : Table :=
  [("observer", .object [("block_scanner", .object [("rpc_host", .text "localhost:26657")])])]

/-- What the file about THORChain sets. -/
def thorchainTable : Table :=
  [("thorchain", .object [("signer_name", .text "bob"), ("signer_passwd", .text "password")])]

/-- The file about the observed chain. -/
def observerFile : Source where
  path := "observer.toml"
  content := .ok "[observer.block_scanner]\nrpc_host = \"localhost:26657\"\n"

/-- The file about THORChain. -/
def thorchainFile : Source where
  path := "thorchain.toml"
  content := .ok "[thorchain]\nsigner_name = \"bob\"\nsigner_passwd = \"password\"\n"

/-- A file about both. -/
def wholeFile : Source where
  path := "relay.toml"
  content := .ok ("[thorchain]\nsigner_name = \"bob\"\nsigner_passwd = \"password\"\n\n" ++
    "[observer.block_scanner]\nrpc_host = \"localhost:26657\"\n")

theorem table_observerFile : observerFile.table = .ok observerTable := by cbv

theorem table_thorchainFile : thorchainFile.table = .ok thorchainTable := by cbv

theorem table_wholeFile : wholeFile.table = .ok (observerTable ++ thorchainTable) := by cbv

theorem split_freely_over_two :
    (∀ s ∈ [observerFile, thorchainFile, wholeFile], s.IsTable) ∧
    Apart [observerFile, thorchainFile] ∧ ¬ Apart [thorchainFile, wholeFile] ∧
    load [thorchainFile, observerFile] = load [observerFile, thorchainFile] ∧
    load [wholeFile] = load [observerFile, thorchainFile] ∧
    ∃ path key, load [wholeFile, thorchainFile] = .error (setAgain path key) := by
  have hobserver : observerFile.IsTable := ⟨_, table_observerFile⟩
  have hthorchain : thorchainFile.IsTable := ⟨_, table_thorchainFile⟩
  have hwhole : wholeFile.IsTable := ⟨_, table_wholeFile⟩
  have htwo : ∀ s ∈ [observerFile, thorchainFile], s.IsTable := by simp [hobserver, hthorchain]
  have hover : ∀ s ∈ [thorchainFile, wholeFile], s.IsTable := by simp [hthorchain, hwhole]
  have hentries := Source.entries_eq table_observerFile
  have hentries' := Source.entries_eq table_thorchainFile
  have hall := Source.entries_eq table_wholeFile
  have hapart : Apart [observerFile, thorchainFile] := by
    rw [apart_iff htwo, List.flatMap_cons, List.flatMap_singleton, Source.keys, Source.keys,
      hentries, hentries']
    decide
  have hshared : ¬ Apart [thorchainFile, wholeFile] := by
    rw [apart_iff hover, List.flatMap_cons, List.flatMap_singleton, Source.keys, Source.keys,
      hentries', hall]
    decide
  obtain ⟨⟨horder, hunion⟩, -⟩ :=
    (split_freely [observerFile, thorchainFile] htwo).imp_left (· hapart)
  obtain ⟨-, s, -, key, -, -, -, hload⟩ :=
    (split_freely [thorchainFile, wholeFile] hover).2 hshared [wholeFile, thorchainFile] (.swap ..)
  refine ⟨by simp [hobserver, hthorchain, hwhole], hapart, hshared, horder _ (.swap ..),
    hunion wholeFile hwhole fun entry => ?_, s.path, key, hload⟩
  simp [hentries, hentries', hall]

end ChainRelay.Settings
