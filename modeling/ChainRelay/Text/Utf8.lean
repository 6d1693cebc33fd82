/-!
# UTF-8

Byte strings and the text in them. `Utf8.scan` reads any byte string as a list
of characters and of maximal stretches that are no character; `Utf8.encode`
writes text, and `Utf8.lossy` shows what was read with U+FFFD for each such
stretch.
-/

namespace ChainRelay

/-- A byte string. -/
abbrev Bytes := List UInt8

namespace Utf8

/-- The bytes of a text. -/
def encode (s : String) : Bytes :=
  s.toList.flatMap String.utf8EncodeChar

/-- What a byte of `0x80` and more may start: the number of bytes of the
    character and the least and greatest second byte. -/
def lead? (a : UInt8) : Option (Nat × UInt8 × UInt8) :=
  if a < 0xC2 then none
  else if a < 0xE0 then some (2, 0x80, 0xBF)
  else if a = 0xE0 then some (3, 0xA0, 0xBF)
  else if a = 0xED then some (3, 0x80, 0x9F)
  else if a < 0xF0 then some (3, 0x80, 0xBF)
  else if a = 0xF0 then some (4, 0x90, 0xBF)
  else if a < 0xF4 then some (4, 0x80, 0xBF)
  else if a = 0xF4 then some (4, 0x80, 0x8F)
  else none

/-- The six bits that a continuation byte carries. -/
def low (a : UInt8) : Nat := a.toNat % 64

/-- Whether a byte continues a character. -/
def isTail (a : UInt8) : Bool := 0x80 ≤ a ∧ a ≤ 0xBF

/-- The characters of a byte string; `none` stands for one maximal stretch of
    bytes that begins no character. -/
def scan : Bytes → List (Option Char)
  | [] => []
  | a :: rest =>
    if a < 0x80 then some (Char.ofNat a.toNat) :: scan rest
    else match lead? a with
      | none => none :: scan rest
      | some (width, least, greatest) =>
        match rest with
        | [] => [none]
        | b :: rest₂ =>
          if ¬ (least ≤ b ∧ b ≤ greatest) then none :: scan (b :: rest₂)
          else if width = 2 then
            some (Char.ofNat (a.toNat % 32 * 64 + low b)) :: scan rest₂
          else match rest₂ with
            | [] => [none]
            | c :: rest₃ =>
              if ¬ isTail c then none :: scan (c :: rest₃)
              else if width = 3 then
                some (Char.ofNat ((a.toNat % 16 * 64 + low b) * 64 + low c)) :: scan rest₃
              else match rest₃ with
                | [] => [none]
                | d :: rest₄ =>
                  if ¬ isTail d then none :: scan (d :: rest₄)
                  else
                    some (Char.ofNat (((a.toNat % 8 * 64 + low b) * 64 + low c) * 64 + low d))
                      :: scan rest₄

/-- The text of a byte string, if every byte belongs to a character. -/
def decode? (bytes : Bytes) : Option String :=
  ((scan bytes).mapM id).map String.ofList

/-- The text of a byte string with the replacement character for every stretch
    that is none. -/
def lossy (bytes : Bytes) : String :=
  String.ofList ((scan bytes).map (·.getD '\ufffd'))

end Utf8

end ChainRelay
