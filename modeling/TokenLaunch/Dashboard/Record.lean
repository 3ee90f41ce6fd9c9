/-
# Records of launched tokens

Every token that was launched leaves a record: what was launched, where, by whom and when.  A
record is stored as a JSON object with its fields in a fixed order; the decimals are left out for
tokens that have none.
-/
import TokenLaunch.Json.Fields
import TokenLaunch.Standard
import TokenLaunch.Time.Timestamp

namespace TokenLaunch

/-- The network that a token lives on. -/
inductive Network
  | mainnet
  | testnet
deriving DecidableEq

namespace Network

/-- Chain 1 is the main network, every other chain counts as a test network. -/
def ofChain (chainId : UInt64) : Network :=
  if chainId = 1 then mainnet else testnet

/-- The name of a network. -/
def name : Network → String
  | mainnet => "mainnet"
  | testnet => "testnet"

/-- The network of a name. -/
def ofName? (s : String) : Option Network :=
  if s = "mainnet" then some mainnet else if s = "testnet" then some testnet else none

@[simp] theorem ofName?_name (n : Network) : ofName? n.name = some n := by
  cases n <;> decide

end Network

/-- The record of a launched token. -/
structure Record where
  id : String
  address : String
  standard : Standard
  name : String
  symbol : String
  /-- Fungible tokens only. -/
  decimals : Option UInt8
  deployedAt : Instant
  /-- The account that launched the token. -/
  deployer : String
  /-- The transaction that created the contract. -/
  transaction : String
  network : Network
  /-- Whether the source has been verified. -/
  verified : Bool
  /-- The names of the token's features. -/
  features : List String
deriving DecidableEq

namespace Record

/-- The names of the fields, in order. -/
def fieldNames : List String :=
  ["id", "address", "standard", "name", "symbol", "decimals", "deployedAt", "deployer", "txHash",
    "network", "verified", "features"]

/-- The members of a record. -/
def members (r : Record) : List (String × Json) :=
  [("id", .string r.id), ("address", .string r.address), ("standard", .string r.standard.text),
    ("name", .string r.name), ("symbol", .string r.symbol)] ++
  r.decimals.toList.map (fun d => ("decimals", .natural d.toNat)) ++
  [("deployedAt", .string (Timestamp.text r.deployedAt)), ("deployer", .string r.deployer),
    ("txHash", .string r.transaction), ("network", .string r.network.name),
    ("verified", .bool r.verified), ("features", .array (r.features.map .string))]

/-- A record as JSON. -/
def toJson (r : Record) : Json := .object r.members

open Json (Fields.required? Fields.optional?)

/-- The record that members describe. -/
def ofMembers? (ms : List (String × Json)) : Option Record := do
  let id ← Fields.required? ["id"] Json.text? ms
  let address ← Fields.required? ["address"] Json.text? ms
  let standard ← Fields.required? ["standard"] (fun j => j.text?.map Standard.ofText) ms
  let name ← Fields.required? ["name"] Json.text? ms
  let symbol ← Fields.required? ["symbol"] Json.text? ms
  let decimals ← Fields.optional? ["decimals"] (Json.nullable? Json.byte?) none ms
  let deployedAt ← Fields.required? ["deployedAt"] (fun j => j.text?.bind Timestamp.parse?) ms
  let deployer ← Fields.required? ["deployer"] Json.text? ms
  let transaction ← Fields.required? ["txHash"] Json.text? ms
  let network ← Fields.required? ["network"] (fun j => j.choice?.bind Network.ofName?) ms
  let verified ← Fields.required? ["verified"] Json.bool? ms
  let features ← Fields.optional? ["features"] (Json.list? Json.text?) [] ms
  return { id, address, standard, name, symbol, decimals, deployedAt, deployer, transaction,
           network, verified, features }

/-- The record that a JSON value describes.  An array may leave out the features. -/
def ofJson? (j : Json) : Option Record :=
  (j.members? fieldNames 11).bind ofMembers?

end Record
end TokenLaunch
