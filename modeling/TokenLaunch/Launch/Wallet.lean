/-
# Wallets

A launch is paid for by an account of a wallet.  A wallet is known by what it does: it connects or
refuses, it disconnects, and it says how it is connected.  The simulated wallet needs no network.
-/
import TokenLaunch.Json.Fields
import TokenLaunch.Launch.Failure

namespace TokenLaunch

/-- How a wallet is connected. -/
structure Connection where
  connected : Bool := false
  /-- The account. -/
  address : Option String := none
  chainId : Option UInt64 := none
  /-- The account's balance, as a decimal number. -/
  balance : String := "0"
deriving DecidableEq

namespace Connection

/-- The names of the fields, in order. -/
def fieldNames : List String := ["connected", "address", "chainId", "balance"]

/-- A connection as JSON. -/
def toJson (c : Connection) : Json :=
  .object
    [("connected", .bool c.connected), ("address", .ofString? c.address),
      ("chainId", match c.chainId with
        | some n => .natural n.toNat
        | none => .null),
      ("balance", .string c.balance)]

open Json (Fields.required? Fields.optional?)

/-- The connection that a JSON value describes. -/
def ofJson? (j : Json) : Option Connection := do
  let ms ← j.members? fieldNames 4
  let connected ← Fields.required? ["connected"] Json.bool? ms
  let address ← Fields.optional? ["address"] (Json.nullable? Json.text?) none ms
  let chainId ← Fields.optional? ["chainId"] (Json.nullable? Json.word?) none ms
  let balance ← Fields.required? ["balance"] Json.text? ms
  return { connected, address, chainId, balance }

end Connection

/-- A wallet whose inner state has type `σ`. -/
structure Wallet (σ : Type) where
  /-- Try to connect. -/
  connect : σ → Except Failure Connection × σ
  disconnect : σ → σ
  /-- How the wallet is connected now. -/
  connection : σ → Connection

namespace Wallet

/-- The state of a simulated wallet. -/
structure Simulated where
  /-- The chain that the wallet connects to. -/
  chainId : UInt64
  /-- Whether the wallet answers. -/
  reachable : Bool := true
  connection : Connection := {}
deriving DecidableEq

/-- The account of the simulated wallet. -/
def zeroAddress : String := "0x0000000000000000000000000000000000000000"

namespace Simulated

/-- A wallet that refuses to connect. -/
def unreachable : Simulated := { chainId := 0, reachable := false }

/-- How the wallet is connected after it accepted. -/
def accepted (w : Simulated) : Connection :=
  { connected := true, address := some zeroAddress, chainId := some w.chainId, balance := "0.0" }

end Simulated

/-- A wallet that accepts or refuses without asking anyone. -/
def simulated : Wallet Simulated where
  connect w :=
    if w.reachable then (.ok w.accepted, { w with connection := w.accepted })
    else (.error (.walletUnavailable "connection request rejected"), w)
  disconnect w := { w with connection := {} }
  connection w := w.connection

/-- The state of a scripted wallet: how it is connected, and how it will be after connecting. -/
structure Scripted where
  current : Connection
  next : Option Connection
deriving DecidableEq

/-- A wallet that does what it was told to do. -/
def scripted : Wallet Scripted where
  connect w :=
    match w.next with
    | some c => (.ok c, { w with current := c })
    | none => (.error (.walletUnavailable "scripted"), w)
  disconnect w := { w with current := {} }
  connection w := w.current

end Wallet
end TokenLaunch
