import ChainRelay.Proofs.Json.Reading

/-!
# Objects over several lines

An object that is written with one member a line is read as the same object
(`Doc.read_renderLines`), since its text differs from the one without white space in
nothing else (`Json.hasText_renderLines`): before each key stands the
start of its line, behind each colon a space, and behind the last member the start of
the line with the end of the object.
-/

namespace ChainRelay

namespace Json

/-- A member on a line of its own. -/
def line (member : String × Json) : List Char :=
  indent 1 ++ quote member.1 ++ [':', ' '] ++ write member.2

/-- Members on lines of their own, with commas between them. -/
def writeLines (members : List (String × Json)) : List Char :=
  ((members.map line).intersperse [',']).flatten

theorem renderLines_eq (members : List (String × Json)) :
    renderLines members = String.ofList ('\x7b' :: writeLines members ++ indent 0 ++ ['\x7d']) :=
  rfl

theorem writeLines_singleton (member : String × Json) : writeLines [member] = line member := by
  rw [writeLines, List.map_singleton, List.intersperse_singleton, List.flatten_singleton]

theorem writeLines_cons (member next : String × Json) (members : List (String × Json)) :
    writeLines (member :: next :: members)
      = line member ++ ',' :: writeLines (next :: members) := by
  rw [writeLines, List.map_cons, List.map_cons, List.intersperse_cons_cons, List.flatten_cons,
    List.flatten_cons, List.singleton_append, ← List.map_cons, writeLines]

theorem isBlank_space : IsBlank [' '] := List.forall_mem_singleton.2 (by decide)

/-- Lines have white space before each key and each value, and behind the last value. -/
theorem spacedMembers_writeLines (members : List (String × Json)) :
    SpacedMembers members (writeLines members ++ indent 0) := by
  induction members with
  | nil => exact .nil (isBlank_indent 0)
  | cons member members ih =>
    obtain ⟨key, x⟩ := member
    have hvalue : x.Spaced ([' '] ++ x.write) := .lead isBlank_space (spaced_write x)
    cases members with
    | nil =>
      have h : SpacedMembers [(key, x)] _ :=
        .last (isBlank_indent 1) isBlank_nil hvalue (isBlank_indent 0)
      rw [writeLines_singleton, line]
      simpa only [List.append_assoc, List.cons_append, List.nil_append] using h
    | cons next members =>
      have h : SpacedMembers ((key, x) :: next :: members) _ :=
        .cons (isBlank_indent 1) isBlank_nil hvalue isBlank_nil ih
      rw [writeLines_cons, line]
      simpa only [List.append_assoc, List.cons_append, List.nil_append] using h

/-- The lines of an object are one of its texts. -/
theorem hasText_renderLines (members : List (String × Json)) :
    (object members).HasText (renderLines members) := by
  refine ⟨_, [], .object (spacedMembers_writeLines members), isBlank_nil, ?_⟩
  rw [renderLines_eq]
  simp only [List.append_nil, List.cons_append, List.append_assoc]

end Json

/-- An object over several lines is read as it was. -/
theorem Doc.read_renderLines {members : List (String × Json)}
    (h : Json.MembersAllNumbers Number.IsWord members) :
    read (Utf8.encode (Json.renderLines members)) = (ofJson (.object members), true) :=
  read_of_hasText (Json.hasText_renderLines members) h

end ChainRelay
