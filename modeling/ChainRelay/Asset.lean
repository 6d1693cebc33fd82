import ChainRelay.Chain
import ChainRelay.Json.Record

/-!
# Assets and coins

An asset is written `CHAIN.SYMBOL`, such as `BNB.TCAN-014`; symbols are kept in
upper case. A coin is an amount of an asset.
-/

namespace ChainRelay

/-- Something of value on a chain. -/
structure Asset where
  /-- The chain it lives on. -/
  chain : Chain
  /-- Its symbol, in upper case. -/
  symbol : String
deriving DecidableEq, Repr

namespace Asset

/-- Why a text is no asset. -/
inductive Fault
  /-- There is no point. -/
  | unseparated (s : String)
  /-- Nothing follows the point. -/
  | emptySymbol (s : String)
  /-- What comes before the point is no chain. -/
  | unknownChain (name : String)
deriving DecidableEq, Repr

/-- What a message tells about the fault. -/
def Fault.message : Fault → String
  | .unseparated s => "asset " ++ s ++ " is not in CHAIN.SYMBOL form"
  | .emptySymbol s => "asset " ++ s ++ " has an empty symbol"
  | .unknownChain name => Chain.unknownMessage name

/-- The asset with a symbol in any case. -/
def ofSymbol (chain : Chain) (symbol : String) : Asset := ⟨chain, Uppercase.ofText symbol⟩

/-- The symbol up to its first dash. -/
def ticker (a : Asset) : String := String.ofList (a.symbol.toList.takeWhile (· ≠ '-'))

/-- The asset as text. -/
def text (a : Asset) : String := a.chain.symbol ++ "." ++ a.symbol

/-- The asset that a text stands for: a chain up to the first point, and a
    symbol after it. -/
def parse (s : String) : Except Fault Asset :=
  let cs := s.toList
  match cs.dropWhile (· ≠ '.') with
  | [] => .error (.unseparated s)
  | [_] => .error (.emptySymbol s)
  | _ :: symbol =>
    let name := String.ofList (cs.takeWhile (· ≠ '.'))
    match Chain.ofName? name with
    | none => .error (.unknownChain name)
    | some chain => .ok (ofSymbol chain (String.ofList symbol))

/-- Assets by their texts. -/
def codec : Codec Asset := .written text fun s => (parse s).mapError Fault.message

end Asset

/-- An amount of an asset. -/
structure Coin where
  /-- What it is an amount of. -/
  asset : Asset
  /-- How much of it. -/
  amount : UInt64
deriving DecidableEq, Repr

namespace Coin

/-- The coin as text. -/
def text (c : Coin) : String := Numeral.ofWord c.amount ++ " " ++ c.asset.text

/-- Coins as objects. -/
def codec : Codec Coin :=
  .record
    (.cons (.required "asset" Asset.codec) <| .cons (.required "amount" .decimal) .nil)
    (fun (asset, amount, ()) => ⟨asset, amount⟩)
    (fun c => (c.asset, c.amount, ()))

end Coin

end ChainRelay
