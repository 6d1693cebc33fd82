import ChainRelay.Http.Url
import ChainRelay.Proofs.Text.Utf8
import Mathlib.Tactic.Common

/-!
# Parts of paths

A text is encoded character by character (`toList_encodeText`), and some characters stand
for themselves (`encodeText_of_stands`). The parts of a path are resolved from the first
on, so what has been resolved stays as it is when plain parts follow (`resolve_append`):
a path goes on from the directory that the parts before it lead to (`walk`).
-/

namespace ChainRelay.Http.Url

/-! ## Encoding -/

/-- The characters that one is encoded as. -/
def encodeChar (isRefused : Char → Bool) (c : Char) : List Char :=
  (String.utf8EncodeChar c).flatMap (encodeByte isRefused)

theorem toList_encodeText (isRefused : Char → Bool) (cs : List Char) :
    (encodeText isRefused cs).toList = cs.flatMap (encodeChar isRefused) := by
  rw [encodeText, Utf8.encode, String.toList_ofList, String.toList_ofList, List.flatMap_assoc]
  rfl

theorem encodeText_append (isRefused : Char → Bool) (xs ys : List Char) :
    encodeText isRefused (xs ++ ys) = encodeText isRefused xs ++ encodeText isRefused ys := by
  rw [← String.toList_inj, String.toList_append]
  simp only [toList_encodeText, List.flatMap_append]

/-- A character stands for itself. -/
structure Stands (refused : List Char) (c : Char) : Prop where
  visible : 32 < c.toNat
  ascii : c.toNat < 127
  allowed : c ∉ refused

instance {refused : List Char} {c : Char} : Decidable (Stands refused c) :=
  decidable_of_iff (32 < c.toNat ∧ c.toNat < 127 ∧ c ∉ refused)
    ⟨fun ⟨visible, ascii, allowed⟩ => ⟨visible, ascii, allowed⟩,
      fun h => ⟨h.visible, h.ascii, h.allowed⟩⟩

variable {refused : List Char}

theorem stands_of_all {cs : List Char} (h : cs.all (Stands refused ·) = true) :
    ∀ c ∈ cs, Stands refused c := fun c hc => of_decide_eq_true (List.all_eq_true.1 h c hc)

theorem Stands.mono {c : Char} {fewer : List Char} (h : Stands refused c) (hsub : fewer ⊆ refused) :
    Stands fewer c := ⟨h.visible, h.ascii, fun hmem => h.allowed (hsub hmem)⟩

theorem encodeChar_of_stands {c : Char} (h : Stands refused c) :
    encodeChar refused.contains c = [c] := by
  have hascii := h.ascii
  have hvisible := h.visible
  have hbytes : String.utf8EncodeChar c = [UInt8.ofNat c.toNat] := by
    simp only [String.utf8EncodeChar]
    rw [if_pos (by change c.toNat ≤ 127; omega)]
    rfl
  have hvalue : (UInt8.ofNat c.toNat).toNat = c.toNat := Utf8.toNat_ofNat (by omega)
  rw [encodeChar, hbytes, List.flatMap_singleton, encodeByte, if_neg, hvalue, Char.ofNat_toNat]
  rw [UInt8.lt_iff_toNat_lt, UInt8.lt_iff_toNat_lt, hvalue, Char.ofNat_toNat, List.contains_iff_mem]
  rintro (hlow | hhigh | hmem)
  · exact absurd hlow (Nat.not_lt.2 hvisible.le)
  · exact absurd hhigh (Nat.not_lt.2 (Nat.le_of_lt_succ hascii))
  · exact h.allowed hmem

theorem encodeChar_ne_nil (isRefused : Char → Bool) (c : Char) : encodeChar isRefused c ≠ [] := by
  have hbyte (b : UInt8) : encodeByte isRefused b ≠ [] := by
    rw [encodeByte]
    split_ifs <;> exact List.cons_ne_nil _ _
  have hbytes : String.utf8EncodeChar c ≠ [] := by
    simp only [String.utf8EncodeChar]
    split_ifs <;> exact List.cons_ne_nil _ _
  obtain ⟨b, bs, heq⟩ := List.exists_cons_of_ne_nil hbytes
  rw [encodeChar, heq, List.flatMap_cons]
  exact List.append_ne_nil_of_left_ne_nil (hbyte b) _

/-- A text of characters that stand for themselves stays as it is. -/
theorem encodeText_of_stands {cs : List Char} (h : ∀ c ∈ cs, Stands refused c) :
    encodeText refused.contains cs = String.ofList cs := by
  rw [← String.toList_inj, toList_encodeText, String.toList_ofList]
  induction cs with
  | nil => rfl
  | cons c cs ih =>
    rw [List.forall_mem_cons] at h
    rw [List.flatMap_cons, encodeChar_of_stands h.1, ih h.2, List.singleton_append]

/-! ## Resolving -/

/-- The directory that parts lead to. -/
def walk (path : List String) (parts : List (List Char)) : List String :=
  parts.foldl (fun path part => descend path part false) path

/-- A part that is not made of dots goes one down. -/
theorem descend_of_ne {part : List Char} (h : dots part ≠ 1 ∧ dots part ≠ 2) (path : List String)
    (isLast : Bool) : descend path part isLast = path ++ [encodeText inPath.contains part] := by
  rw [descend]
  split
  · next hdots => exact absurd hdots h.1
  · next hdots => exact absurd hdots h.2
  · rfl

theorem resolve_cons {parts : List (List Char)} (h : parts ≠ []) (path : List String)
    (part : List Char) :
    resolve path (part :: parts) = resolve (descend path part false) parts := by
  cases parts with
  | nil => exact absurd rfl h
  | cons next parts => rfl

/-- Parts go on from the directory that those before them lead to. -/
theorem resolve_append {others : List (List Char)} (h : others ≠ []) (path : List String)
    (parts : List (List Char)) :
    resolve path (parts ++ others) = resolve (walk path parts) others := by
  induction parts generalizing path with
  | nil => rfl
  | cons part parts ih =>
    rw [List.cons_append, resolve_cons (List.append_ne_nil_of_right_ne_nil parts h), ih]
    rfl

/-- Parts that are not made of dots all go down. -/
theorem resolve_of_ne {parts : List (List Char)} (hne : parts ≠ [])
    (h : ∀ part ∈ parts, dots part ≠ 1 ∧ dots part ≠ 2) (path : List String) :
    resolve path parts = path ++ parts.map (encodeText inPath.contains) := by
  induction parts generalizing path with
  | nil => exact absurd rfl hne
  | cons part parts ih =>
    rw [List.forall_mem_cons] at h
    cases parts with
    | nil => exact descend_of_ne h.1 path true
    | cons next parts =>
      rw [resolve_cons (List.cons_ne_nil next parts), ih (List.cons_ne_nil next parts) h.2,
        descend_of_ne h.1, List.append_assoc]
      rfl

/-! ## Slashes -/

/-- No slash comes from another byte. -/
theorem slash_not_mem_encodeByte {b : UInt8} (h : b.toNat ≠ 47) (isRefused : Char → Bool) :
    '/' ∉ encodeByte isRefused b := by
  have hdigit : ∀ n < 16, '/' ≠ Hex.digit 'A' n := by decide
  have hb := b.toNat_lt
  have hvalue : (Char.ofNat b.toNat).toNat = b.toNat := by
    rw [Char.ofNat, dif_pos (.inl (by omega))]
    rfl
  rw [encodeByte]
  split_ifs
  · simp only [Hex.digits, List.flatMap_singleton, List.mem_cons, List.not_mem_nil, or_false,
      not_or]
    exact ⟨by decide, hdigit _ (by omega), hdigit _ (by omega)⟩
  · rw [List.mem_singleton]
    exact fun hslash => h (hvalue.symm.trans (congrArg Char.toNat hslash).symm)

/-- Only a slash has the byte of one. -/
theorem toNat_ne_of_mem_utf8EncodeChar {c : Char} (hc : c ≠ '/') {b : UInt8}
    (hb : b ∈ String.utf8EncodeChar c) : b.toNat ≠ 47 := by
  have hvalue : c.val.toNat ≠ 47 := fun h => hc (by rw [← Char.ofNat_toNat c]; exact congrArg _ h)
  simp only [String.utf8EncodeChar] at hb
  split_ifs at hb <;> simp only [List.mem_cons, List.not_mem_nil, or_false] at hb
  · rw [hb, Utf8.toNat_ofNat (by omega)]
    exact hvalue
  -- The bytes of longer characters are all `0x80` or more.
  all_goals
    rcases hb with rfl | rfl | rfl | rfl <;> rw [Utf8.toNat_ofNat (by omega)] <;> omega

theorem slash_not_mem_encodeText {cs : List Char} (h : '/' ∉ cs) (isRefused : Char → Bool) :
    '/' ∉ (encodeText isRefused cs).toList := by
  rw [toList_encodeText, List.mem_flatMap]
  rintro ⟨c, hc, hslash⟩
  obtain ⟨b, hb, hslash⟩ := List.mem_flatMap.1 hslash
  have hne : c ≠ '/' := fun heq => h (heq ▸ hc)
  exact slash_not_mem_encodeByte (toNat_ne_of_mem_utf8EncodeChar hne hb) isRefused hslash

/-! ## Targets -/

/-- Parts of which each follows a slash have slashes between them. -/
theorem flatMap_slash {parts : List (List Char)} (h : parts ≠ []) :
    parts.flatMap ('/' :: ·) = '/' :: ['/'].intercalate parts := by
  induction parts with
  | nil => exact absurd rfl h
  | cons part parts ih =>
    cases parts with
    | nil => simp
    | cons next parts =>
      rw [List.flatMap_cons, ih (List.cons_ne_nil next parts)]
      simp

/-- A path as a request asks for it. -/
def pathText (path : List String) : List Char := path.flatMap ('/' :: ·.toList)

theorem pathText_append (path path' : List String) :
    pathText (path ++ path') = pathText path ++ pathText path' := List.flatMap_append

theorem toList_target {u : Url} (h : u.path ≠ []) :
    u.target.toList = pathText u.path ++ u.query.elim [] ('?' :: ·.toList) := by
  have hpath : ("/" ++ "/".intercalate u.path).toList = pathText u.path := by
    rw [String.toList_append, String.toList_intercalate]
    have hne : u.path.map String.toList ≠ [] := fun h' => h (List.map_eq_nil_iff.1 h')
    have hparts := flatMap_slash hne
    rw [List.flatMap_map] at hparts
    exact hparts.symm
  rw [target, String.toList_append, hpath]
  cases u.query with
  | none => rfl
  | some query => simp

/-! ## Directories -/

/-- A slash, for a backslash as well. -/
def unify (c : Char) : Char := if c = '\\' then '/' else c

theorem map_unify {cs : List Char} (h : '\\' ∉ cs) : cs.map unify = cs := by
  have hcs (c : Char) (hc : c ∈ cs) : unify c = id c := by
    refine if_neg ?_
    rintro rfl
    exact h hc
  rw [List.map_congr_left hcs, List.map_id]

/-- The directory from which a path goes on behind some characters. -/
def directory : List Char → List String
  | [] => []
  | _ :: rest => walk [] ((rest.map unify).splitOn '/')

/-- The parts of two texts with a slash between them. -/
theorem splitOn_map_unify (front more : List Char) :
    ((front ++ '/' :: more).map unify).splitOn '/'
      = (front.map unify).splitOn '/' ++ (more.map unify).splitOn '/' := by
  rw [List.map_append, List.map_cons]
  change (front.map unify ++ '/' :: more.map unify).splitOn '/' = _
  rw [List.splitOn_append_cons_self]

/-- A path goes on from the directory that is written before it. -/
theorem readPath_append (front more : List Char) :
    readPath (front ++ '/' :: more) = resolve (directory front) ((more.map unify).splitOn '/') := by
  cases front with
  | nil => rfl
  | cons c rest =>
    change resolve [] (((rest ++ '/' :: more).map unify).splitOn '/') = _
    rw [splitOn_map_unify, resolve_append (List.splitOn_ne_nil '/' _)]
    rfl

/-- A directory goes on from the directory that is written before it. -/
theorem directory_append (front more : List Char) :
    directory (front ++ '/' :: more) = walk (directory front) ((more.map unify).splitOn '/') := by
  cases front with
  | nil => rfl
  | cons c rest =>
    change walk [] (((rest ++ '/' :: more).map unify).splitOn '/') = _
    rw [splitOn_map_unify, walk, List.foldl_append]
    rfl

/-- A directory ends in the last part that is written, encoded. -/
theorem directory_last {part : List Char} (hslash : '/' ∉ part) (hbackslash : '\\' ∉ part)
    (hdots : dots part ≠ 1 ∧ dots part ≠ 2) (front : List Char) :
    directory (front ++ '/' :: part) = directory front ++ [encodeText inPath.contains part] := by
  have hsplit : part.splitOn '/' = [part] := by
    have hone : ∀ other ∈ [part], '/' ∉ other := by simpa using hslash
    simpa using List.splitOn_intercalate '/' hone (List.cons_ne_nil part [])
  rw [directory_append, map_unify hbackslash, hsplit]
  exact descend_of_ne hdots _ false

/-- The last part leads to the directory that it would lead to before others, perhaps with
    a slash behind it. -/
theorem descend_last (path : List String) (part : List Char) :
    descend path part true ≠ [] ∧
      ∃ k, descend path part true = descend path part false ++ List.replicate k "" := by
  rw [descend, descend]
  split
  · exact ⟨List.concat_ne_nil _ _, 1, rfl⟩
  · exact ⟨List.concat_ne_nil _ _, 1, rfl⟩
  · exact ⟨List.concat_ne_nil _ _, 0, (List.append_nil _).symm⟩

theorem resolve_last {parts : List (List Char)} (h : parts ≠ []) (path : List String) :
    resolve path parts ≠ [] ∧ ∃ k, resolve path parts = walk path parts ++ List.replicate k "" := by
  obtain ⟨init, last, rfl⟩ := (List.eq_nil_or_concat' parts).resolve_left h
  have hwalk : walk path (init ++ [last]) = descend (walk path init) last false :=
    List.foldl_append
  rw [resolve_append (List.cons_ne_nil last []), hwalk]
  exact descend_last _ last

/-- A directory does not end in a slash if the last part that is written does not. -/
theorem getLast?_directory {part : List Char} (hne : part ≠ []) (hslash : '/' ∉ part)
    (hbackslash : '\\' ∉ part) (hdots : dots part ≠ 1 ∧ dots part ≠ 2) (front : List Char) :
    ∀ c ∈ (pathText (directory (front ++ '/' :: part))).getLast?, c ≠ '/' := by
  have hencoded : (encodeText inPath.contains part).toList ≠ [] := by
    obtain ⟨c, others, rfl⟩ := List.exists_cons_of_ne_nil hne
    rw [toList_encodeText, List.flatMap_cons]
    exact List.append_ne_nil_of_left_ne_nil (encodeChar_ne_nil _ c) _
  have htext : pathText (directory (front ++ '/' :: part))
      = pathText (directory front) ++ ['/'] ++ (encodeText inPath.contains part).toList := by
    rw [directory_last hslash hbackslash hdots, pathText_append]
    simp [pathText]
  rw [htext, List.getLast?_append_of_ne_nil _ hencoded]
  rintro c hc rfl
  exact slash_not_mem_encodeText hslash _ (List.mem_of_getLast? hc)

/-- A path that ends leads to its directory, perhaps with a slash behind it. -/
theorem readPath_last (front : List Char) :
    readPath front ≠ [] ∧ ∃ k, readPath front = directory front ++ List.replicate k "" := by
  cases front with
  | nil => exact ⟨nofun, 1, rfl⟩
  | cons c rest => exact resolve_last (List.splitOn_ne_nil '/' (rest.map unify)) []

end ChainRelay.Http.Url
