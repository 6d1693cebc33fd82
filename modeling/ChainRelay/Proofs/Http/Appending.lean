import ChainRelay.Proofs.Http.Paths
import ChainRelay.Text.Blank
import Mathlib.Data.List.DropRight

/-!
# Texts behind a URL

A URL is divided into its scheme, the name of its server, and what follows that
(`Divided`). Slashes at its end are never part of the server, so another text in their
place leaves the scheme and the server as they are (`Divided.append`).
-/

namespace ChainRelay

/-! ## Slashes at the end -/

theorem Blank.eq_append_slashes (cs : List Char) :
    ∃ k, cs = dropLastWhile (· = '/') cs ++ List.replicate k '/' := by
  refine ⟨(cs.rtakeWhile (· = '/')).length, ?_⟩
  have hslashes : ∀ c ∈ cs.rtakeWhile (· = '/'), c = '/' := fun c hc => by
    simpa using List.mem_rtakeWhile_imp hc
  rw [← List.eq_replicate_of_mem hslashes]
  exact List.rdropWhile_append_rtakeWhile.symm

theorem Blank.getLast?_dropLastWhile (cs : List Char) :
    ∀ c ∈ (dropLastWhile (· = '/') cs).getLast?, c ≠ '/' := by
  intro c hc
  obtain ⟨hne, rfl⟩ := List.mem_getLast?_eq_getLast hc
  exact fun heq => List.rdropWhile_last_not (fun c => decide (c = '/')) cs hne (decide_eq_true heq)

/-- Slashes at the end of two parts are at the end of the second if the first does not end
    in one. -/
theorem Blank.exists_of_append_slashes {cs front tail : List Char} {k : Nat}
    (h : cs ++ List.replicate k '/' = front ++ tail) (hfront : ∀ c ∈ front.getLast?, c ≠ '/') :
    ∃ tail', cs = front ++ tail' ∧ tail = tail' ++ List.replicate k '/' := by
  rcases List.append_eq_append_iff.1 h with ⟨rest, rfl, hrest⟩ | ⟨tail', hcs, htail⟩
  · rcases List.eq_nil_or_concat' rest with rfl | ⟨others, c, rfl⟩
    · exact ⟨[], by simp, hrest.symm⟩
    · have hslash : c = '/' :=
        List.eq_of_mem_replicate (hrest ▸ List.mem_append_left tail (by simp))
      exact absurd hslash (hfront c (by rw [← List.append_assoc, List.getLast?_concat]; rfl))
  · exact ⟨tail', hcs, htail⟩

theorem Blank.dropLastWhile_append_slashes {cs : List Char} (h : ∀ c ∈ cs.getLast?, c ≠ '/')
    (k : Nat) : dropLastWhile (· = '/') (cs ++ List.replicate k '/') = cs := by
  have hslashes : ∀ c ∈ (List.replicate k '/').reverse, decide (c = '/') = true := by
    intro c hc
    rw [List.reverse_replicate] at hc
    exact decide_eq_true (List.eq_of_mem_replicate hc)
  have hself : cs.rdropWhile (fun c => decide (c = '/')) = cs := by
    refine List.rdropWhile_eq_self_iff.2 fun hne => ?_
    simpa using h _ (List.getLast?_eq_getLast_of_ne_nil hne)
  rw [dropLastWhile, List.reverse_append, List.dropWhile_append_of_pos hslashes]
  exact hself

namespace Http.Url

/-! ## The parts of a URL -/

/-- The path in what follows a server. -/
def pathOf (tail : List Char) : List String :=
  readPath ((tail.takeWhile (· ≠ '#')).takeWhile (· ≠ '?'))

/-- The query in what follows a server. -/
def queryOf (tail : List Char) : Option String :=
  match (tail.takeWhile (· ≠ '#')).dropWhile (· ≠ '?') with
  | [] => none
  | _ :: query => some (encodeText inQuery.contains query)

/-- The URL on the same server with another tail. -/
def behind (u : Url) (tail : List Char) : Url :=
  { u with path := pathOf tail, query := queryOf tail }

/-- The server of a name, with the port if it is not the usual one. -/
def serverOf (isSecure : Bool) (authority : List Char) : Except Fault (Host × Option Nat) := do
  let (host, port) := splitPort false (dropUser authority)
  let host ← readHost host
  let port ← readPort (if isSecure then 443 else 80) port
  return (host, port)

/-- How a scheme is written. -/
def schemeText (isSecure : Bool) : List Char := (if isSecure then "https:" else "http:").toList

/-- A clean text is divided into a scheme, slashes, the name of a server and a tail. -/
structure Divided (cs : List Char) (isSecure : Bool) (slashes authority tail : List Char) :
    Prop where
  eq : cs = schemeText isSecure ++ (slashes ++ (authority ++ tail))
  slashes : ∀ c ∈ slashes, c = '/' ∨ c = '\\'
  head : ∀ c ∈ (authority ++ tail).head?, c ≠ '/' ∧ c ≠ '\\'
  authority : ∀ c ∈ authority, endsAuthority c = false
  tail : ∀ c ∈ tail.head?, endsAuthority c = true

theorem exists_divided (isSecure : Bool) (rest : List Char) :
    ∃ slashes authority tail,
      Divided (schemeText isSecure ++ rest) isSecure slashes authority tail := by
  have hhead (p : Char → Bool) (cs : List Char) : ∀ c ∈ (cs.dropWhile p).head?, p c = false :=
    fun c hc => by
      have hnot := List.head?_dropWhile_not p cs
      rw [hc] at hnot
      exact hnot
  let isSlash (c : Char) : Bool := c = '/' || c = '\\'
  let named := rest.dropWhile isSlash
  refine ⟨rest.takeWhile isSlash, named.takeWhile (!endsAuthority ·),
    named.dropWhile (!endsAuthority ·), ?_, ?_, ?_, ?_, ?_⟩
  · rw [List.takeWhile_append_dropWhile, List.takeWhile_append_dropWhile]
  · intro c hc
    simpa [isSlash] using List.mem_takeWhile_imp hc
  · rw [List.takeWhile_append_dropWhile]
    intro c hc
    simpa [isSlash] using hhead isSlash rest c hc
  · intro c hc
    simpa using List.mem_takeWhile_imp hc
  · intro c hc
    simpa using hhead (!endsAuthority ·) named c hc

namespace Divided

variable {s : String} {cs : List Char} {isSecure : Bool} {slashes authority tail : List Char}

/-- A URL is read part by part. -/
theorem parse_eq (h : Divided (clean s) isSecure slashes authority tail) :
    parse s = (serverOf isSecure authority).map fun (host, port) =>
      ⟨isSecure, host, port, pathOf tail, queryOf tail⟩ := by
  have hscheme (rest : List Char) :
      scheme? (schemeText isSecure ++ rest) = some (isSecure, rest) := by
    cases isSecure <;> rfl
  have hrest : (slashes ++ (authority ++ tail)).dropWhile (fun c => c = '/' || c = '\\')
      = authority ++ tail := by
    rw [List.dropWhile_append_of_pos (by simpa using h.slashes)]
    cases hparts : authority ++ tail with
    | nil => rfl
    | cons c rest =>
      refine List.dropWhile_cons_of_neg ?_
      simpa using h.head c (by rw [hparts]; rfl)
  have hnone : tail.takeWhile (!endsAuthority ·) = [] ∧
      tail.dropWhile (!endsAuthority ·) = tail := by
    cases htail : tail with
    | nil => exact ⟨rfl, rfl⟩
    | cons c rest =>
      have hc := h.tail c (by rw [htail]; rfl)
      exact ⟨List.takeWhile_cons_of_neg (by simp [hc]), List.dropWhile_cons_of_neg (by simp [hc])⟩
  have hall : ∀ c ∈ authority, (!endsAuthority c) = true := by simpa using h.authority
  rw [parse, h.eq, hscheme]
  simp only [hrest, List.takeWhile_append_of_pos hall, List.dropWhile_append_of_pos hall, hnone,
    List.append_nil, serverOf]
  cases readHost (splitPort false (dropUser authority)).1 with
  | error fault => rfl
  | ok host =>
    cases readPort (if isSecure then 443 else 80) (splitPort false (dropUser authority)).2 <;> rfl

/-- A URL that is read has the name of a server. -/
theorem authority_ne_nil (h : Divided (clean s) isSecure slashes authority tail) {u : Url}
    (hu : parse s = .ok u) : authority ≠ [] := by
  rintro rfl
  rw [h.parse_eq] at hu
  cases hu

/-- Texts that are divided alike up to the tail are URLs on one server. -/
theorem parse_behind (h : Divided (clean s) isSecure slashes authority tail) {s' : String}
    {slashes' tail' : List Char} (h' : Divided (clean s') isSecure slashes' authority tail')
    {u : Url} (hu : parse s = .ok u) :
    (u.path = pathOf tail ∧ u.query = queryOf tail) ∧ parse s' = .ok (u.behind tail') := by
  rw [h.parse_eq] at hu
  rw [h'.parse_eq]
  cases hserver : serverOf isSecure authority with
  | error fault =>
    rw [hserver] at hu
    cases hu
  | ok server =>
    rw [hserver] at hu
    cases hu
    exact ⟨⟨rfl, rfl⟩, rfl⟩

/-- What is appended from a slash on follows the server as well. -/
theorem append (h : Divided cs isSecure slashes authority tail) (hauthority : authority ≠ [])
    (more : List Char) :
    Divided (cs ++ '/' :: more) isSecure slashes authority (tail ++ '/' :: more) := by
  refine ⟨?_, h.slashes, ?_, h.authority, ?_⟩
  · rw [h.eq]
    simp only [List.append_assoc]
  · obtain ⟨c, others, rfl⟩ := List.exists_cons_of_ne_nil hauthority
    exact h.head
  · cases tail with
    | nil =>
      rintro c ⟨⟩
      decide
    | cons c others => exact h.tail

/-- Slashes at the end are slashes at the end of the tail. -/
theorem trim {k : Nat} (h : Divided (cs ++ List.replicate k '/') isSecure slashes authority tail)
    (hauthority : authority ≠ []) : ∃ tail', Divided cs isSecure slashes authority tail' := by
  have hlast : ∀ c ∈ (schemeText isSecure ++ slashes ++ authority).getLast?, c ≠ '/' := by
    intro c hc
    rw [List.getLast?_append_of_ne_nil _ hauthority] at hc
    rintro rfl
    exact absurd (h.authority _ (List.mem_of_getLast? hc)) (by decide)
  have heq : cs ++ List.replicate k '/'
      = (schemeText isSecure ++ slashes ++ authority) ++ tail := by
    simpa only [List.append_assoc] using h.eq
  obtain ⟨tail', rfl, rfl⟩ := Blank.exists_of_append_slashes heq hlast
  refine ⟨tail', by simp only [List.append_assoc], h.slashes, ?_, h.authority, ?_⟩
  · obtain ⟨c, others, rfl⟩ := List.exists_cons_of_ne_nil hauthority
    exact h.head
  · cases tail' with
    | nil => exact nofun
    | cons c others => exact h.tail

/-- The mark of a query or a fragment stands only in the tail. -/
theorem mem_iff (h : Divided cs isSecure slashes authority tail) {c : Char}
    (hc : c = '?' ∨ c = '#') : c ∈ cs ↔ c ∈ tail := by
  have hscheme : c ∉ schemeText isSecure := by
    rcases hc with rfl | rfl <;> cases isSecure <;> decide
  have hslashes : c ∉ slashes := fun hmem => by
    rcases hc with rfl | rfl <;> exact absurd (h.slashes _ hmem) (by decide)
  have hauthority : c ∉ authority := fun hmem => by
    rcases hc with rfl | rfl <;> exact absurd (h.authority _ hmem) (by decide)
  rw [h.eq, List.mem_append, List.mem_append, List.mem_append]
  simp only [hscheme, hslashes, hauthority, false_or]

end Divided

/-! ## What follows a server -/

theorem cut_at {c : Char} {front : List Char} (h : c ∉ front) (rest : List Char) :
    (front ++ c :: rest).takeWhile (· ≠ c) = front ∧
      (front ++ c :: rest).dropWhile (· ≠ c) = c :: rest := by
  have hfront : ∀ d ∈ front, decide (d ≠ c) = true := fun d hd =>
    decide_eq_true fun heq => h (heq ▸ hd)
  rw [List.takeWhile_append_of_pos hfront, List.dropWhile_append_of_pos hfront,
    List.takeWhile_cons_of_neg (by simp), List.dropWhile_cons_of_neg (by simp), List.append_nil]
  exact ⟨rfl, rfl⟩

theorem cut_nowhere {c : Char} {cs : List Char} (h : c ∉ cs) :
    cs.takeWhile (· ≠ c) = cs ∧ cs.dropWhile (· ≠ c) = [] := by
  have hcs : ∀ d ∈ cs, decide (d ≠ c) = true := fun d hd =>
    decide_eq_true fun heq => h (heq ▸ hd)
  exact ⟨List.takeWhile_eq_self_iff.2 hcs, List.dropWhile_eq_nil_iff.2 hcs⟩

/-- Nothing counts behind the mark of a fragment. -/
theorem tail_of_fragment {front : List Char} (h : '#' ∈ front) (more : List Char) :
    pathOf (front ++ more) = pathOf front ∧ queryOf (front ++ more) = queryOf front := by
  obtain ⟨before, after, rfl, hbefore⟩ := List.eq_append_cons_of_mem h
  rw [List.append_assoc, List.cons_append, pathOf, pathOf, queryOf, queryOf,
    (cut_at hbefore (after ++ more)).1, (cut_at hbefore after).1]
  exact ⟨rfl, rfl⟩

/-- What follows the mark of a query is part of the query. -/
theorem tail_of_query {front more : List Char} (hfragment : '#' ∉ front) (h : '?' ∈ front)
    (hmore : '#' ∉ more) :
    pathOf (front ++ more) = pathOf front ∧
      queryOf (front ++ more) = (queryOf front).map (· ++ encodeText inQuery.contains more) := by
  obtain ⟨before, after, rfl, hbefore⟩ := List.eq_append_cons_of_mem h
  have hno : '#' ∉ before ++ '?' :: after ++ more := by
    rw [List.mem_append, not_or]
    exact ⟨hfragment, hmore⟩
  rw [pathOf, queryOf, pathOf, queryOf, (cut_nowhere hno).1, (cut_nowhere hfragment).1,
    List.append_assoc, List.cons_append, (cut_at hbefore (after ++ more)).1,
    (cut_at hbefore (after ++ more)).2, (cut_at hbefore after).1, (cut_at hbefore after).2]
  exact ⟨rfl, congrArg some (encodeText_append _ after more)⟩

/-- Without marks there is only a path. -/
theorem tail_of_path {cs : List Char} (hfragment : '#' ∉ cs) (hquery : '?' ∉ cs) :
    pathOf cs = readPath cs ∧ queryOf cs = none := by
  rw [pathOf, queryOf, (cut_nowhere hfragment).1, (cut_nowhere hquery).1, (cut_nowhere hquery).2]
  exact ⟨rfl, rfl⟩

/-! ## Plain paths -/

/-- The parts of a path, and the query behind it if there is one, are asked for as they
    are written, in a path and in a query. -/
structure Plain (parts : List (List Char)) (query : Option (List Char)) : Prop where
  ne_nil : parts ≠ []
  stands : ∀ part ∈ parts, ∀ c ∈ part, Stands ('/' :: '\\' :: '\'' :: inPath) c
  undotted : ∀ part ∈ parts, dots part ≠ 1 ∧ dots part ≠ 2
  query : ∀ q ∈ query, ∀ c ∈ q, Stands inQuery c

/-- A text is a plain path, perhaps with a query. -/
def IsPlain (p : String) : Prop :=
  ∃ parts query, Plain parts query ∧
    p.toList = parts.flatMap ('/' :: ·) ++ query.elim [] ('?' :: ·)

namespace Plain

variable {parts : List (List Char)} {query : Option (List Char)}

/-- A plain path stays as it is in a query. -/
theorem stands_inQuery (h : Plain parts query) :
    ∀ c ∈ parts.flatMap ('/' :: ·) ++ query.elim [] ('?' :: ·), Stands inQuery c := by
  have hslash : Stands inQuery '/' := ⟨by decide, by decide, by decide⟩
  have hmark : Stands inQuery '?' := ⟨by decide, by decide, by decide⟩
  intro c hc
  rcases List.mem_append.1 hc with hc | hc
  · obtain ⟨part, hpart, hc⟩ := List.mem_flatMap.1 hc
    rcases List.mem_cons.1 hc with rfl | hc
    · exact hslash
    · exact (h.stands part hpart c hc).mono (by decide)
  · cases query with
    | none => exact absurd hc List.not_mem_nil
    | some q =>
      rcases List.mem_cons.1 hc with rfl | hc
      · exact hmark
      · exact h.query q rfl c hc

/-- A plain path goes on from the directory that is written before it. -/
theorem readPath_eq (h : Plain parts query) (front : List Char) :
    readPath (front ++ parts.flatMap ('/' :: ·)) = directory front ++ parts.map String.ofList := by
  have hbackslash : '\\' ∉ parts.flatMap ('/' :: ·) := fun hmem => by
    obtain ⟨part, hpart, hc⟩ := List.mem_flatMap.1 hmem
    rcases List.mem_cons.1 hc with heq | hc
    · exact absurd heq (by decide)
    · exact (h.stands part hpart _ hc).allowed (by decide)
  have hslash : ∀ part ∈ parts, '/' ∉ part := fun part hpart hc =>
    (h.stands part hpart _ hc).allowed (by decide)
  rw [flatMap_slash h.ne_nil] at hbackslash ⊢
  rw [readPath_append, map_unify fun hmem => hbackslash (List.mem_cons_of_mem _ hmem),
    List.splitOn_intercalate '/' hslash h.ne_nil, resolve_of_ne h.ne_nil h.undotted]
  refine congrArg _ (List.map_congr_left fun part hpart => encodeText_of_stands fun c hc => ?_)
  exact (h.stands part hpart c hc).mono (by decide)

/-- A plain path has no mark of a fragment. -/
theorem fragment_not_mem (h : Plain parts query) :
    '#' ∉ parts.flatMap ('/' :: ·) ++ query.elim [] ('?' :: ·) := fun hmem =>
  (h.stands_inQuery _ hmem).allowed (by decide)

/-- Behind a path without marks, a plain path goes on from its directory, with its own
    query. -/
theorem tail_eq (h : Plain parts query) {front : List Char} (hfragment : '#' ∉ front)
    (hquery : '?' ∉ front) :
    pathOf (front ++ (parts.flatMap ('/' :: ·) ++ query.elim [] ('?' :: ·)))
        = directory front ++ parts.map String.ofList ∧
      queryOf (front ++ (parts.flatMap ('/' :: ·) ++ query.elim [] ('?' :: ·)))
        = query.map String.ofList := by
  have hfragment' : '#' ∉ front ++ (parts.flatMap ('/' :: ·) ++ query.elim [] ('?' :: ·)) := by
    rw [List.mem_append, not_or]
    exact ⟨hfragment, h.fragment_not_mem⟩
  have hquery' : '?' ∉ front ++ parts.flatMap ('/' :: ·) := by
    rw [List.mem_append, not_or]
    refine ⟨hquery, fun hmem => ?_⟩
    obtain ⟨part, hpart, hc⟩ := List.mem_flatMap.1 hmem
    rcases List.mem_cons.1 hc with heq | hc
    · exact absurd heq (by decide)
    · exact (h.stands part hpart _ hc).allowed (by decide)
  cases query with
  | none =>
    rw [Option.elim_none, List.append_nil] at hfragment' ⊢
    rw [(tail_of_path hfragment' hquery').1, (tail_of_path hfragment' hquery').2, h.readPath_eq]
    exact ⟨rfl, rfl⟩
  | some q =>
    rw [Option.elim_some, ← List.append_assoc] at hfragment' ⊢
    rw [pathOf, queryOf, (cut_nowhere hfragment').1, (cut_at hquery' q).1, (cut_at hquery' q).2,
      h.readPath_eq]
    exact ⟨rfl, congrArg some (encodeText_of_stands (h.query q rfl))⟩

end Plain

/-! ## Targets behind a URL -/

variable {front : List Char} {p : String} {u : Url}

/-- Behind the mark of a query, a plain path is part of the query. -/
theorem query_of_isPlain (hp : IsPlain p) (hfragment : '#' ∉ front) (hquery : '?' ∈ front) :
    pathOf (front ++ p.toList) = pathOf front ∧
      queryOf (front ++ p.toList) = (queryOf front).map (· ++ p) := by
  obtain ⟨parts, query, hplain, htext⟩ := hp
  have htail := tail_of_query hfragment hquery hplain.fragment_not_mem
  rw [encodeText_of_stands hplain.stands_inQuery, ← htext, String.ofList_toList] at htail
  exact htail

/-- Without marks, a plain path is asked for in the directory of the URL. -/
theorem target_of_isPlain (hp : IsPlain p) (hfragment : '#' ∉ front) (hquery : '?' ∉ front)
    (hu : u.path = pathOf front ∧ u.query = queryOf front) :
    (∃ k, u.target.toList = pathText (directory front) ++ List.replicate k '/') ∧
      (u.behind (front ++ p.toList)).target.toList = pathText (directory front) ++ p.toList := by
  constructor
  · obtain ⟨hne, k, hpath⟩ := readPath_last front
    have htail := tail_of_path hfragment hquery
    have hslashes : pathText (List.replicate k "") = List.replicate k '/' := by
      rw [pathText, List.flatMap_replicate]
      exact List.flatten_replicate_singleton
    refine ⟨k, ?_⟩
    rw [toList_target (hu.1.trans htail.1 ▸ hne), hu.1, hu.2, htail.1, htail.2, hpath,
      pathText_append, hslashes, Option.elim_none, List.append_nil]
  · obtain ⟨parts, query, hplain, htext⟩ := hp
    have htail := hplain.tail_eq hfragment hquery
    rw [← htext] at htail
    have hne : (u.behind (front ++ p.toList)).path ≠ [] := by
      rw [behind, htail.1]
      exact List.append_ne_nil_of_right_ne_nil _ fun h => hplain.ne_nil (List.map_eq_nil_iff.1 h)
    rw [toList_target hne, behind, htail.1, htail.2, pathText_append, htext, List.append_assoc]
    congr 1
    rw [pathText, List.flatMap_map]
    cases query with
    | none => simp
    | some q => simp

end Http.Url

end ChainRelay
