import ChainRelay.Block.Tendermint
import ChainRelay.Bridge.Basic
import ChainRelay.Proofs.Crypto.LeastKey
import ChainRelay.Proofs.Http.Appending
import ChainRelay.Proofs.Text.Numeral

/-!
# Paths behind an endpoint

An endpoint is a text, and so is a path that is appended to it. What the two are together
depends on what the endpoint says (`Continues`): a path behind a query or a fragment is not
asked for as a path, and behind most other endpoints it is (`IsDirect`). The parts of a URL
before the tail are the same in any case, so the server always is (`continues`).
-/

namespace ChainRelay

open Http

namespace Http.Url

/-! ## Clean texts -/

/-- Whether a character counts wherever it stands. -/
def isKept (c : Char) : Bool := c ≠ '\t' && c ≠ '\n' && c ≠ '\r'

theorem isKept_of_visible {c : Char} (h : 32 < c.toNat) : isKept c = true := by
  have hne (d : Char) (hd : d.toNat ≤ 32) : c ≠ d := by
    rintro rfl
    omega
  simp [isKept, hne '\t' (by decide), hne '\n' (by decide), hne '\r' (by decide)]

/-- Of a text that begins and ends visibly, only line breaks and tabs are left out. -/
theorem clean_of_visible {s : String} (hfirst : ∀ c ∈ s.toList.head?, 32 < c.toNat)
    (hlast : ∀ c ∈ s.toList.getLast?, 32 < c.toNat) : clean s = s.toList.filter isKept := by
  have hfront : s.toList.dropWhile (fun c => decide (c.toNat ≤ 32)) = s.toList := by
    cases hs : s.toList with
    | nil => rfl
    | cons c rest =>
      have hc := hfirst c (by rw [hs]; rfl)
      exact List.dropWhile_cons_of_neg (by simpa using hc)
  have hback : s.toList.rdropWhile (fun c => decide (c.toNat ≤ 32)) = s.toList := by
    refine List.rdropWhile_eq_self_iff.2 fun hne => ?_
    simpa using hlast _ (List.getLast?_eq_getLast_of_ne_nil hne)
  rw [clean, hfront]
  exact congrArg (List.filter isKept) hback

/-- The scheme, the machine and the port of a URL. -/
def server (u : Url) : Bool × Host × Option Nat := (u.isSecure, u.host, u.port)

end Http.Url

namespace Endpoint

/-- The last character counts: it is no blank or control that a URL may not end in. -/
def EndsVisibly (endpoint : String) : Prop := ∀ c ∈ endpoint.toList.getLast?, 32 < c.toNat

/-- What is written behind the last slash. -/
def lastPart (endpoint : String) : List Char := endpoint.toList.rtakeWhile (· ≠ '/')

/-- An endpoint has no query and no fragment, and its last part is read as it is written:
    it is not made of dots, and nothing in it is left out or taken for a slash. -/
structure IsDirect (endpoint : String) : Prop where
  unmarked : '#' ∉ endpoint.toList ∧ '?' ∉ endpoint.toList
  undotted : Url.dots (lastPart endpoint) ≠ 1 ∧ Url.dots (lastPart endpoint) ≠ 2
  unslashed : '\\' ∉ lastPart endpoint
  kept : '\t' ∉ lastPart endpoint ∧ '\n' ∉ lastPart endpoint ∧ '\r' ∉ lastPart endpoint

/-- What becomes of the URL `u` of an endpoint when a path is appended. Behind a fragment
    the path is lost, behind a query it is part of the query. Otherwise it goes on from the
    directory of the endpoint, which is all of its path if the endpoint is direct. -/
structure Continues (endpoint p : String) (u v : Url) : Prop where
  server : v.server = u.server
  fragment : '#' ∈ endpoint.toList → v = u
  query : '#' ∉ endpoint.toList → '?' ∈ endpoint.toList →
    v.path = u.path ∧ v.query = u.query.map (· ++ p)
  path : '#' ∉ endpoint.toList → '?' ∉ endpoint.toList → ∃ (directory : List String) (k : Nat),
    u.target.toList = Url.pathText directory ++ List.replicate k '/' ∧
      v.target.toList = Url.pathText directory ++ p.toList
  direct : IsDirect endpoint → v.target = Blank.trimSlashes u.target ++ p

/-! ## Schemes -/

section

variable {endpoint : String}

/-- A text begins with the scheme of a URL of HTTP. -/
def IsAddressed (endpoint : String) : Prop :=
  ∃ isSecure rest, endpoint.toList = Url.schemeText isSecure ++ rest

theorem isAddressed_withScheme (host : String) : IsAddressed (withScheme host) := by
  rw [withScheme]
  split
  next h =>
    rw [hasScheme, Bool.or_eq_true, List.isPrefixOf_iff_prefix, List.isPrefixOf_iff_prefix] at h
    rcases h with ⟨rest, h⟩ | ⟨rest, h⟩
    · exact ⟨false, '/' :: '/' :: rest, h.symm⟩
    · exact ⟨true, '/' :: '/' :: rest, h.symm⟩
  next => exact ⟨false, '/' :: '/' :: host.toList, String.toList_append⟩

theorem exists_slashes (endpoint : String) :
    ∃ k, endpoint.toList = (Blank.trimSlashes endpoint).toList ++ List.replicate k '/' := by
  rw [Blank.trimSlashes, String.toList_ofList]
  exact Blank.eq_append_slashes endpoint.toList

theorem getLast?_trimSlashes (endpoint : String) :
    ∀ c ∈ (Blank.trimSlashes endpoint).toList.getLast?, c ≠ '/' := by
  rw [Blank.trimSlashes, String.toList_ofList]
  exact Blank.getLast?_dropLastWhile endpoint.toList

namespace IsAddressed

theorem exists_cons (h : IsAddressed endpoint) : ∃ others, endpoint.toList = 'h' :: others := by
  obtain ⟨isSecure, rest, hrest⟩ := h
  cases isSecure <;> exact ⟨_, hrest⟩

/-- The scheme stays when slashes at the end are left out. -/
theorem trimSlashes (h : IsAddressed endpoint) : IsAddressed (Blank.trimSlashes endpoint) := by
  obtain ⟨isSecure, rest, hrest⟩ := h
  obtain ⟨k, hk⟩ := exists_slashes endpoint
  have hlast : ∀ c ∈ (Url.schemeText isSecure).getLast?, c ≠ '/' := by
    cases isSecure <;> rintro c ⟨⟩ <;> decide
  obtain ⟨rest', htrimmed, -⟩ := Blank.exists_of_append_slashes (hk.symm.trans hrest) hlast
  exact ⟨isSecure, rest', htrimmed⟩

theorem clean_eq (h : IsAddressed endpoint) (hends : EndsVisibly endpoint) :
    Url.clean endpoint = endpoint.toList.filter Url.isKept := by
  obtain ⟨others, hothers⟩ := h.exists_cons
  refine Url.clean_of_visible (fun c hc => ?_) hends
  rw [hothers] at hc
  cases hc
  decide

theorem exists_divided (h : IsAddressed endpoint) (hends : EndsVisibly endpoint) :
    ∃ isSecure slashes authority tail,
      Url.Divided (Url.clean endpoint) isSecure slashes authority tail := by
  rw [h.clean_eq hends]
  obtain ⟨isSecure, rest, hrest⟩ := h
  have hscheme : (Url.schemeText isSecure).filter Url.isKept = Url.schemeText isSecure := by
    cases isSecure <;> rfl
  rw [hrest, List.filter_append, hscheme]
  exact ⟨isSecure, Url.exists_divided isSecure _⟩

/-- Slashes at the end of an endpoint do not count for its server. -/
theorem parse_trimSlashes (h : IsAddressed endpoint)
    (hends : EndsVisibly (Blank.trimSlashes endpoint)) {u : Url} (hu : Url.parse endpoint = .ok u) :
    ∃ v, Url.parse (Blank.trimSlashes endpoint) = .ok v ∧ v.server = u.server := by
  obtain ⟨k, hk⟩ := exists_slashes endpoint
  cases k with
  | zero =>
    rw [List.replicate_zero, List.append_nil, String.toList_inj] at hk
    exact ⟨u, hk ▸ hu, rfl⟩
  | succ k =>
    -- The endpoint itself ends in a slash, which is visible.
    have hends' : EndsVisibly endpoint := by
      intro c hc
      rw [hk, List.replicate_succ', ← List.append_assoc, List.getLast?_concat] at hc
      cases hc
      decide
    obtain ⟨isSecure, slashes, authority, tail, hdivided⟩ := h.exists_divided hends'
    have hparts := hdivided
    rw [h.clean_eq hends', hk, List.filter_append, List.filter_replicate_of_pos rfl,
      ← h.trimSlashes.clean_eq hends] at hparts
    obtain ⟨tail', htrimmed⟩ := hparts.trim (hdivided.authority_ne_nil hu)
    exact ⟨_, (hdivided.parse_behind htrimmed hu).2, rfl⟩

end IsAddressed

end

/-! ## Plain paths behind an endpoint -/

section

variable {endpoint p : String} {u : Url}

theorem visible_of_isPlain (hp : Url.IsPlain p) : ∀ c ∈ p.toList, 32 < c.toNat := by
  obtain ⟨parts, query, hplain, htext⟩ := hp
  rw [htext]
  exact fun c hc => (hplain.stands_inQuery c hc).visible

theorem exists_cons_of_isPlain (hp : Url.IsPlain p) : ∃ more, p.toList = '/' :: more := by
  obtain ⟨parts, query, hplain, htext⟩ := hp
  rw [htext, Url.flatMap_slash hplain.ne_nil]
  exact ⟨_, rfl⟩

theorem IsAddressed.clean_append (h : IsAddressed endpoint) (hends : EndsVisibly endpoint)
    (hp : Url.IsPlain p) : Url.clean (endpoint ++ p) = Url.clean endpoint ++ p.toList := by
  obtain ⟨others, hothers⟩ := h.exists_cons
  obtain ⟨more, hmore⟩ := exists_cons_of_isPlain hp
  have hkept : p.toList.filter Url.isKept = p.toList :=
    List.filter_eq_self.2 fun c hc => Url.isKept_of_visible (visible_of_isPlain hp c hc)
  rw [h.clean_eq hends, Url.clean_of_visible, String.toList_append, List.filter_append, hkept]
  · intro c hc
    rw [String.toList_append, hothers] at hc
    cases hc
    decide
  · intro c hc
    have hne : p.toList ≠ [] := hmore ▸ List.cons_ne_nil '/' more
    rw [String.toList_append, List.getLast?_append_of_ne_nil _ hne] at hc
    exact visible_of_isPlain hp c (List.mem_of_getLast? hc)

/-- A path behind an endpoint follows the same server. -/
theorem IsAddressed.parse_append (h : IsAddressed endpoint) (hends : EndsVisibly endpoint)
    (hp : Url.IsPlain p) (hu : Url.parse endpoint = .ok u) :
    ∃ isSecure slashes authority tail,
      Url.Divided (Url.clean endpoint) isSecure slashes authority tail ∧
      (u.path = Url.pathOf tail ∧ u.query = Url.queryOf tail) ∧
      Url.parse (endpoint ++ p) = .ok (u.behind (tail ++ p.toList)) := by
  obtain ⟨isSecure, slashes, authority, tail, hdivided⟩ := h.exists_divided hends
  obtain ⟨more, hmore⟩ := exists_cons_of_isPlain hp
  have hbehind := hdivided.append (hdivided.authority_ne_nil hu) more
  rw [← hmore, ← h.clean_append hends hp] at hbehind
  exact ⟨isSecure, slashes, authority, tail, hdivided, hdivided.parse_behind hbehind hu⟩

/-! ## Direct endpoints -/

theorem slash_not_mem_lastPart (endpoint : String) : '/' ∉ lastPart endpoint := fun hmem => by
  simpa using List.mem_rtakeWhile_imp hmem

theorem lastPart_ne_nil (h : IsAddressed endpoint)
    (hslash : ∀ c ∈ endpoint.toList.getLast?, c ≠ '/') : lastPart endpoint ≠ [] := by
  obtain ⟨others, hothers⟩ := h.exists_cons
  have hne : endpoint.toList ≠ [] := hothers ▸ List.cons_ne_nil 'h' others
  rw [lastPart, Ne, List.rtakeWhile_eq_nil_iff]
  exact fun hno => hno hne
    (decide_eq_true (hslash _ (List.getLast?_eq_getLast_of_ne_nil hne)))

theorem eq_lastPart_or_exists_outer (endpoint : String) :
    endpoint.toList = lastPart endpoint ∨
      ∃ outer, endpoint.toList = outer ++ '/' :: lastPart endpoint := by
  rw [lastPart]
  generalize endpoint.toList = cs
  have htext : cs.rdropWhile (· ≠ '/') ++ cs.rtakeWhile (· ≠ '/') = cs :=
    List.rdropWhile_append_rtakeWhile
  rcases List.eq_nil_or_concat' (cs.rdropWhile (· ≠ '/')) with houter | ⟨outer, c, houter⟩
  · rw [houter, List.nil_append] at htext
    exact .inl htext.symm
  · have hc : c = '/' := by
      obtain ⟨hne, hlast⟩ := List.mem_getLast?_eq_getLast
        (show c ∈ (cs.rdropWhile (· ≠ '/')).getLast? by rw [houter, List.getLast?_concat]; rfl)
      have hstop := List.rdropWhile_last_not (fun c => decide (c ≠ '/')) cs hne
      rw [← hlast] at hstop
      simpa using hstop
    rw [houter, hc, List.append_assoc, List.singleton_append] at htext
    exact .inr ⟨outer, htext.symm⟩

/-- The last part of a direct endpoint is the last part of what is read. -/
theorem IsDirect.clean_eq (hdirect : IsDirect endpoint) (h : IsAddressed endpoint)
    (hends : EndsVisibly endpoint) :
    Url.clean endpoint = lastPart endpoint ∨
      ∃ outer, Url.clean endpoint = outer ++ '/' :: lastPart endpoint := by
  have hkept : (lastPart endpoint).filter Url.isKept = lastPart endpoint := by
    refine List.filter_eq_self.2 fun c hc => ?_
    obtain ⟨htab, hfeed, hreturn⟩ := hdirect.kept
    have hne {d : Char} (hd : d ∉ lastPart endpoint) : c ≠ d := fun heq => hd (heq ▸ hc)
    simp [Url.isKept, hne htab, hne hfeed, hne hreturn]
  rw [h.clean_eq hends]
  rcases eq_lastPart_or_exists_outer endpoint with htext | ⟨outer, htext⟩
  · rw [htext, hkept]
    exact .inl rfl
  · rw [htext, List.filter_append, List.filter_cons_of_pos rfl, hkept]
    exact .inr ⟨_, rfl⟩

/-- The end of a text that has its last part has that part as well, unless it begins
    inside of it. -/
theorem eq_nil_or_exists_outer {before tail outer part : List Char}
    (h : before ++ tail = outer ++ '/' :: part) (hhead : ∀ c ∈ tail.head?, c ∉ part) :
    tail = [] ∨ ∃ outer, tail = outer ++ '/' :: part := by
  rcases List.append_eq_append_iff.1 h with ⟨rest, -, htail⟩ | ⟨rest, -, hpart⟩
  · exact .inr ⟨rest, htail⟩
  · cases rest with
    | nil => exact .inr ⟨[], hpart.symm⟩
    | cons c rest =>
      cases tail with
      | nil => exact .inl rfl
      | cons d others =>
        exact absurd (by rw [(List.cons.inj hpart).2]; simp) (hhead d rfl)

/-- The marks of a query and of a fragment stand behind the server. -/
theorem mark_mem_iff {isSecure : Bool} {slashes authority tail : List Char}
    (h : IsAddressed endpoint) (hends : EndsVisibly endpoint)
    (hdivided : Url.Divided (Url.clean endpoint) isSecure slashes authority tail) {c : Char}
    (hc : c = '?' ∨ c = '#') : c ∈ tail ↔ c ∈ endpoint.toList := by
  have hkept : Url.isKept c = true := by rcases hc with rfl | rfl <;> rfl
  rw [← hdivided.mem_iff hc, h.clean_eq hends, List.mem_filter, and_iff_left hkept]

/-- What follows the server of a direct endpoint ends in the last part as it is written. -/
theorem IsDirect.tail_eq (hdirect : IsDirect endpoint) (h : IsAddressed endpoint)
    (hends : EndsVisibly endpoint) {isSecure : Bool} {slashes authority tail : List Char}
    (hdivided : Url.Divided (Url.clean endpoint) isSecure slashes authority tail) :
    tail = [] ∨ ∃ outer, tail = outer ++ '/' :: lastPart endpoint := by
  -- The tail begins with what ends the name of a server, and the last part has no such
  -- character.
  have hfresh : ∀ c ∈ tail.head?, c ∉ lastPart endpoint := by
    intro c hc
    have hmem : c ∈ tail := List.mem_of_head? hc
    have hstart := hdivided.tail c hc
    simp only [Url.endsAuthority, Bool.or_eq_true, decide_eq_true_eq, or_assoc] at hstart
    rcases hstart with rfl | rfl | rfl | rfl
    · exact slash_not_mem_lastPart endpoint
    · exact hdirect.unslashed
    · exact absurd ((mark_mem_iff h hends hdivided (.inl rfl)).1 hmem) hdirect.unmarked.2
    · exact absurd ((mark_mem_iff h hends hdivided (.inr rfl)).1 hmem) hdirect.unmarked.1
  have heq := hdivided.eq
  simp only [← List.append_assoc] at heq
  rcases hdirect.clean_eq h hends with htext | ⟨outer, htext⟩
  · cases tail with
    | nil => exact .inl rfl
    | cons c others => exact absurd (by rw [← htext, heq]; simp) (hfresh c rfl)
  · exact eq_nil_or_exists_outer (heq.symm.trans htext) hfresh

/-! ## Continuing -/

/-- What becomes of a path behind an endpoint. -/
theorem continues (h : IsAddressed endpoint) (hends : EndsVisibly endpoint)
    (hslash : ∀ c ∈ endpoint.toList.getLast?, c ≠ '/') (hp : Url.IsPlain p)
    (hu : Url.parse endpoint = .ok u) :
    ∃ v, Url.parse (endpoint ++ p) = .ok v ∧ Continues endpoint p u v := by
  obtain ⟨isSecure, slashes, authority, tail, hdivided, hparts, hbehind⟩ :=
    h.parse_append hends hp hu
  have hmark {c : Char} (hc : c = '?' ∨ c = '#') := mark_mem_iff h hends hdivided hc
  have hpath (hfragment : '#' ∉ endpoint.toList) (hquery : '?' ∉ endpoint.toList) :=
    Url.target_of_isPlain hp (mt (hmark (.inr rfl)).1 hfragment) (mt (hmark (.inl rfl)).1 hquery)
      hparts
  refine ⟨_, hbehind, rfl, ?fragment, ?query, ?path, ?direct⟩
  case fragment =>
    intro hfragment
    obtain ⟨hpathOf, hqueryOf⟩ := Url.tail_of_fragment ((hmark (.inr rfl)).2 hfragment) p.toList
    rw [Url.behind, hpathOf, hqueryOf, ← hparts.1, ← hparts.2]
  case query =>
    intro hfragment hquery
    obtain ⟨hpathOf, hqueryOf⟩ := Url.query_of_isPlain hp
      (mt (hmark (.inr rfl)).1 hfragment) ((hmark (.inl rfl)).2 hquery)
    exact ⟨hpathOf.trans hparts.1.symm, hparts.2 ▸ hqueryOf⟩
  case path =>
    intro hfragment hquery
    obtain ⟨⟨k, hu⟩, hv⟩ := hpath hfragment hquery
    exact ⟨_, k, hu, hv⟩
  case direct =>
    intro hdirect
    obtain ⟨⟨k, hu⟩, hv⟩ := hpath hdirect.unmarked.1 hdirect.unmarked.2
    have hlast : ∀ c ∈ (Url.pathText (Url.directory tail)).getLast?, c ≠ '/' := by
      rcases hdirect.tail_eq h hends hdivided with rfl | ⟨outer, rfl⟩
      · rintro c ⟨⟩
      · exact Url.getLast?_directory (lastPart_ne_nil h hslash) (slash_not_mem_lastPart endpoint)
          hdirect.unslashed hdirect.undotted outer
    rw [← String.toList_inj, hv, String.toList_append, Blank.trimSlashes, String.toList_ofList, hu,
      Blank.dropLastWhile_append_slashes hlast]

end

/-! ## The endpoints of a node and of THORChain -/

/-- What an accepted host stands for is a URL. -/
theorem parse_of_normalize {host endpoint : String} (h : normalize host = .ok endpoint)
    (hends : EndsVisibly endpoint) :
    IsAddressed endpoint ∧ (∀ c ∈ endpoint.toList.getLast?, c ≠ '/') ∧
      ∃ u, Url.parse endpoint = .ok u := by
  rw [normalize] at h
  split at h
  · cases h
  · dsimp only at h
    split at h
    next fault => cases h
    next u hu =>
      rw [Except.ok.injEq] at h
      subst h
      have haddressed := isAddressed_withScheme (Blank.trim host)
      obtain ⟨v, hv, -⟩ := haddressed.parse_trimSlashes hends hu
      exact ⟨haddressed.trimSlashes, getLast?_trimSlashes _, v, hv⟩

theorem url_eq (b : Bridge) (p : String) : b.url p = b.url "" ++ p := by
  rw [Bridge.url, Bridge.url, String.append_empty]

/-- The endpoint of a bridge does not end in a slash if it is a URL. -/
theorem getLast?_url {b : Bridge} {u : Url} (hu : Url.parse (b.url "") = .ok u) :
    ∀ c ∈ (b.url "").toList.getLast?, c ≠ '/' := by
  have hlast := getLast?_trimSlashes b.settings.chainHost
  rw [Bridge.url, String.append_empty] at hu ⊢
  rw [withScheme] at hu ⊢
  split_ifs at hu ⊢
  · exact hlast
  · intro c hc
    rw [String.toList_append] at hc
    by_cases hempty : (Blank.trimSlashes b.settings.chainHost).toList = []
    · rw [String.toList_eq_nil_iff.1 hempty] at hu
      have hno : Url.parse ("http://" ++ "") = .error .emptyHost := by decide
      rw [hno] at hu
      cases hu
    · rw [List.getLast?_append_of_ne_nil _ hempty] at hc
      exact hlast c hc

/-! ## The paths that are appended -/

theorem stands_of_isDigit {c : Char} (h : c.isDigit = true) : Url.Stands Url.inQuery c := by
  have hrange : 48 ≤ c.toNat ∧ c.toNat ≤ 57 := by
    rw [Char.isDigit, Bool.and_eq_true, decide_eq_true_eq, decide_eq_true_eq] at h
    exact h
  have hno : Url.inQuery.all (!·.isDigit) = true := by decide
  refine ⟨by omega, by omega, fun hmem => ?_⟩
  simpa [h] using List.all_eq_true.1 hno c hmem

theorem isPlain_block : Url.IsPlain "/block" :=
  ⟨["block".toList], none,
    ⟨by decide, List.forall_mem_singleton.2 (Url.stands_of_all (by decide)), by decide, nofun⟩, rfl⟩

theorem isPlain_blockAt (height : UInt64) :
    Url.IsPlain ("/block?height=" ++ Numeral.ofWord height) := by
  refine ⟨["block".toList], some ("height=".toList ++ (Numeral.ofWord height).toList),
    ⟨by decide, List.forall_mem_singleton.2 (Url.stands_of_all (by decide)), by decide, ?_⟩, ?_⟩
  · rintro q ⟨⟩ c hc
    rcases List.mem_append.1 hc with hc | hc
    · exact Url.stands_of_all (by decide) c hc
    · exact stands_of_isDigit (Numeral.isDigit_of_mem_ofWord hc)
  · rw [String.toList_append]
    rfl

/-! ## Paths behind every endpoint -/

/-- A plain path is asked for on the server of the endpoint that a host is accepted as, and
    of the endpoint of a bridge if that is a URL, provided that it ends visibly. How it is
    asked for depends on the endpoint. The paths of blocks are plain. -/
theorem appends_paths {endpoint : String} (hends : EndsVisibly endpoint) :
    (∀ host p, normalize host = .ok endpoint → Url.IsPlain p →
      ∃ u v, Url.parse endpoint = .ok u ∧ Url.parse (endpoint ++ p) = .ok v ∧
        Continues endpoint p u v) ∧
    (∀ (b : Bridge) p u, b.url "" = endpoint → Url.parse endpoint = .ok u → Url.IsPlain p →
      ∃ v, Url.parse (b.url p) = .ok v ∧ Continues endpoint p u v) ∧
    ∀ height, ∃ p q, Url.IsPlain p ∧ Url.IsPlain q ∧
      (Tendermint.headQuery endpoint).url = endpoint ++ p ∧
      (Tendermint.blockQuery endpoint height).url = endpoint ++ q := by
  refine ⟨?host, ?bridge, ?queries⟩
  case host =>
    intro host p hhost hp
    obtain ⟨haddressed, hslash, u, hu⟩ := parse_of_normalize hhost hends
    obtain ⟨v, hv, hcontinues⟩ := continues haddressed hends hslash hp hu
    exact ⟨u, v, hu, hv, hcontinues⟩
  case bridge =>
    rintro b p u rfl hu hp
    have haddressed : IsAddressed (b.url "") := by
      rw [Bridge.url, String.append_empty]
      exact isAddressed_withScheme _
    rw [url_eq b p]
    exact continues haddressed hends (getLast?_url hu) hp hu
  case queries =>
    intro height
    exact ⟨_, _, isPlain_block, isPlain_blockAt height, rfl, String.append_assoc⟩

theorem appends_paths_localhost :
    EndsVisibly "http://localhost:1317" ∧
    (∃ v, Url.parse ("http://localhost:1317" ++ "/block") = .ok v ∧ v.target = "/block") ∧
    ∃ v, Url.parse ((⟨.standard, ⟨"relay", .least⟩⟩ : Bridge).url "/block") = .ok v ∧
      v.target = "/block" := by
  have hends : EndsVisibly "http://localhost:1317" := by
    rintro c ⟨⟩
    decide
  have haccepted : normalize " localhost:1317/" = .ok "http://localhost:1317" := by decide +kernel
  have hread : Url.parse "http://localhost:1317"
      = .ok ⟨false, .domain "localhost".toList, some 1317, [""], none⟩ := by decide +kernel
  have hdirect : IsDirect "http://localhost:1317" :=
    ⟨by decide, by decide, by decide, by decide⟩
  obtain ⟨hhost, hbridge, -⟩ := appends_paths hends
  refine ⟨hends, ?host, ?bridge⟩
  case host =>
    obtain ⟨u, v, hu, hv, hcontinues⟩ := hhost _ _ haccepted isPlain_block
    rw [hread] at hu
    cases hu
    exact ⟨v, hv, (hcontinues.direct hdirect).trans (by decide)⟩
  case bridge =>
    obtain ⟨v, hv, hcontinues⟩ :=
      hbridge ⟨.standard, ⟨"relay", .least⟩⟩ _ _ rfl hread isPlain_block
    exact ⟨v, hv, (hcontinues.direct hdirect).trans (by decide)⟩

/-- Hosts are accepted behind which a path is not what is asked for: it is in a query or
    in a fragment, it makes the URL unreadable, or it is taken for the server. -/
theorem loses_paths :
    (normalize "localhost?x=1" = .ok "http://localhost?x=1" ∧
      (Url.parse "http://localhost?x=1").map Url.path = .ok [""] ∧
      (Url.parse ("http://localhost?x=1" ++ "/block")).map Url.target = .ok "/?x=1/block") ∧
    (normalize "localhost#top" = .ok "http://localhost#top" ∧
      (Url.parse ("http://localhost#top" ++ "/block")).map Url.target = .ok "/") ∧
    (normalize "localhost\x01" = .ok "http://localhost\x01" ∧
      Url.parse ("http://localhost\x01" ++ "/block") = .error .invalidDomain) ∧
    let settings : BridgeSettings :=
      { BridgeSettings.standard with
        chainHost := "///", signerName := "relay", signerPassword := "secret" }
    Bridge.create settings (fun name _ => .ok ⟨name, .least⟩) = .ok ⟨settings, ⟨"relay", .least⟩⟩ ∧
      (Url.parse (Bridge.url ⟨settings, ⟨"relay", .least⟩⟩ "/txs")).map Url.host
        = .ok (.domain "txs".toList) := by
  refine ⟨⟨?_, ?_, ?_⟩, ⟨?_, ?_⟩, ⟨?_, ?_⟩, rfl, ?_⟩ <;> decide +kernel

end Endpoint

end ChainRelay
