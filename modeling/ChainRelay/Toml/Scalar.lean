import ChainRelay.Json.Basic

/-!
# Plain words in TOML

The values without quotes or brackets: truth values, integers, floating-point
numbers, and dates and times. A date or time stands as a table with a key of its
own, which no setting has.
-/

namespace ChainRelay.Toml

/-- Digits without the underscores between them. -/
def digits? (isDigit : Char → Bool) : List Char → Option (List Char)
  | [] => none
  | [c] => if isDigit c then some [c] else none
  | c :: '_' :: rest =>
    if isDigit c then (digits? isDigit rest).map (c :: ·) else none
  | c :: rest =>
    if isDigit c then (digits? isDigit rest).map (c :: ·) else none

/-- Whether a character is a digit of a radix. -/
def isDigit (radix : Nat) (c : Char) : Bool := (Numeral.digit? radix c).isSome

/-- The number of some digits. -/
def natural (radix : Nat) (cs : List Char) : Nat :=
  cs.foldl (fun n c => n * radix + (Numeral.digit? radix c).getD 0) 0

/-- Decimal digits without a leading zero. -/
def decimal? (cs : List Char) : Option (List Char) := do
  let ds ← digits? (isDigit 10) cs
  match ds with
  | '0' :: _ :: _ => none
  | ds => some ds

/-- Whether there is a sign, whether it is a minus, and what follows. -/
def sign : List Char → Bool × Bool × List Char
  | '-' :: rest => (true, true, rest)
  | '+' :: rest => (true, false, rest)
  | rest => (false, false, rest)

/-- A number of sixty-four bits with a sign. -/
def bounded? (n : Int) : Option Json :=
  if -9223372036854775808 ≤ n ∧ n < 9223372036854775808 then some (.number (.integer n)) else none

/-- An integer. Only decimal ones have signs. -/
def integer? (word : List Char) : Option Json :=
  let ofRadix (radix : Nat) (rest : List Char) : Option Json := do
    bounded? (natural radix (← digits? (isDigit radix) rest))
  match word with
  | '0' :: 'x' :: rest => ofRadix 16 rest
  | '0' :: 'o' :: rest => ofRadix 8 rest
  | '0' :: 'b' :: rest => ofRadix 2 rest
  | word => do
    let (_, isMinus, rest) := sign word
    let n := natural 10 (← decimal? rest)
    bounded? (if isMinus then -(n : Int) else n)

/-- The number nearest to `digits * 10 ^ exponent`, unless that is too large.
    Beyond the powers that any number has, the result is plain. -/
def nearest? (digits : Nat) (exponent : Int) : Option Binary64 :=
  let length : Int := (Nat.toDigits 10 digits).length
  if digits = 0 ∨ exponent + length < -400 then some .zero
  else if 400 < exponent + length then none
  else
    let x := match exponent with
      | .ofNat e => Binary64.ofRatio (digits * Nat.pow 10 e) 1
      | .negSucc e => Binary64.ofRatio digits (Nat.pow 10 (e + 1))
    if x.isFinite then some x else none

/-- A floating-point number: digits with a fraction, an exponent or both. -/
def float? (word : List Char) : Option Json := do
  let (_, isMinus, rest) := sign word
  let signed (x : Binary64) : Json := .number (.float (if isMinus then x.neg else x))
  if rest = "inf".toList then return signed .infinity
  if rest = "nan".toList then return signed .nan
  let whole := rest.takeWhile fun c => c ≠ '.' && c ≠ 'e' && c ≠ 'E'
  let rest := rest.drop whole.length
  let ds ← decimal? whole
  let (fraction, rest) ← match rest with
    | '.' :: rest =>
      let part := rest.takeWhile fun c => c ≠ 'e' && c ≠ 'E'
      (digits? (isDigit 10) part).map fun fs => (some fs, rest.drop part.length)
    | rest => some (none, rest)
  let exponent ← match rest with
    | [] => some none
    | _ :: rest =>
      let (_, isMinus, rest) := sign rest
      (digits? (isDigit 10) rest).map fun es =>
        some (if isMinus then -(natural 10 es : Int) else natural 10 es)
  guard (fraction.isSome ∨ exponent.isSome)
  let fs := fraction.getD []
  signed <$> nearest? (natural 10 (ds ++ fs)) (exponent.getD 0 - fs.length)

/-- A number of exactly `count` decimal digits, with the rest. -/
def fixed? (count : Nat) (cs : List Char) : Option (Nat × List Char) :=
  let ds := cs.take count
  if ds.length = count ∧ ds.all (isDigit 10) then some (natural 10 ds, cs.drop count) else none

/-- The days of a month. -/
def daysIn (year month : Nat) : Nat :=
  if month = 2 then
    if year % 4 = 0 ∧ (year % 100 ≠ 0 ∨ year % 400 = 0) then 29 else 28
  else if month = 4 ∨ month = 6 ∨ month = 9 ∨ month = 11 then 30
  else 31

/-- Passes over a date. -/
def date? (cs : List Char) : Option (List Char) := do
  let (year, rest) ← fixed? 4 cs
  match rest with
  | '-' :: rest =>
    let (month, rest) ← fixed? 2 rest
    match rest with
    | '-' :: rest =>
      let (day, rest) ← fixed? 2 rest
      guard (1 ≤ month ∧ month ≤ 12 ∧ 1 ≤ day ∧ day ≤ daysIn year month)
      return rest
    | _ => none
  | _ => none

/-- Passes over hours and minutes. -/
def hourMinute? (cs : List Char) : Option (List Char) := do
  let (hour, rest) ← fixed? 2 cs
  match rest with
  | ':' :: rest =>
    let (minute, rest) ← fixed? 2 rest
    guard (hour ≤ 23 ∧ minute ≤ 59)
    return rest
  | _ => none

/-- Passes over a time of day. -/
def time? (cs : List Char) : Option (List Char) := do
  let rest ← hourMinute? cs
  match rest with
  | ':' :: rest =>
    let (second, rest) ← fixed? 2 rest
    guard (second ≤ 60)
    match rest with
    | '.' :: rest =>
      guard (!(rest.takeWhile (isDigit 10)).isEmpty)
      return rest.dropWhile (isDigit 10)
    | rest => return rest
  | rest => return rest

/-- Whether a text is a distance from universal time. -/
def isOffset : List Char → Bool
  | [] => true
  | ['Z'] => true
  | ['z'] => true
  | c :: rest => (c = '+' || c = '-') && hourMinute? rest = some []

/-- A date, a time, or both. -/
def datetime? (word : List Char) : Option Json :=
  let isMoment := match date? word with
    | some [] => true
    | some (c :: rest) =>
      (c = 'T' || c = 't' || c = ' ') && ((time? rest).map isOffset).getD false
    | none => time? word = some []
  if isMoment then
    some (.object [("$__toml_private_datetime", .text (String.ofList word))])
  else none

/-- The value of a word. -/
def scalar? (word : List Char) : Option Json :=
  if word = "true".toList then some (.bool true)
  else if word = "false".toList then some (.bool false)
  else integer? word <|> float? word <|> datetime? word

end ChainRelay.Toml
