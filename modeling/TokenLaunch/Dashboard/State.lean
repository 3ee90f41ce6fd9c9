/-
# The dashboard

The dashboard remembers two things between sessions: the node to talk to, and the tokens that have
been launched, latest first.  It is stored as JSON.
-/
import TokenLaunch.Dashboard.Record
import TokenLaunch.Json.Printer
import TokenLaunch.Json.Reader
import TokenLaunch.Text.Ascii

namespace TokenLaunch

/-- What is remembered between sessions. -/
structure Dashboard where
  /-- The address of the node. -/
  rpcEndpoint : String := "http://localhost:8545"
  /-- The launched tokens, latest first. -/
  tokens : List Record := []
deriving DecidableEq

namespace Dashboard

/-! ## Edits -/

/-- Put a launched token in front. -/
def add (d : Dashboard) (r : Record) : Dashboard :=
  { d with tokens := r :: d.tokens }

/-- Whether a token has an id. -/
def contains (d : Dashboard) (id : String) : Bool :=
  d.tokens.any fun t => t.id == id

/-- Forget the tokens with an id. -/
def remove (d : Dashboard) (id : String) : Dashboard :=
  { d with tokens := d.tokens.filter fun t => t.id != id }

/-- Whether a record is of a token at an address. -/
def isAt (address : String) (t : Record) : Bool :=
  Text.sameIgnoringCase t.address address

/-- The number of tokens at an address. -/
def countAt (d : Dashboard) (address : String) : Nat :=
  d.tokens.countP (isAt address)

/-- Say of the tokens at an address whether they are verified. -/
def setVerified (d : Dashboard) (address : String) (verified : Bool) : Dashboard :=
  { d with
    tokens := d.tokens.map fun t => if isAt address t then { t with verified := verified } else t }

/-- Choose another node. -/
def setEndpoint (d : Dashboard) (endpoint : String) : Dashboard :=
  { d with rpcEndpoint := endpoint }

/-- The latest token that has an id or an address. -/
def find? (d : Dashboard) (key : String) : Option Record :=
  d.tokens.find? fun t => t.id == key || isAt key t

@[simp] theorem tokens_add (d : Dashboard) (r : Record) : (d.add r).tokens = r :: d.tokens := rfl

@[simp] theorem rpcEndpoint_add (d : Dashboard) (r : Record) :
    (d.add r).rpcEndpoint = d.rpcEndpoint := rfl

/-! ## The stored form -/

/-- A dashboard as JSON. -/
def toJson (d : Dashboard) : Json :=
  .object [("rpcEndpoint", .string d.rpcEndpoint),
    ("deployedTokens", .array (d.tokens.map Record.toJson))]

/-- A dashboard as text. -/
def text (d : Dashboard) : String := d.toJson.pretty

open Json (Fields.optional?)

/-- The dashboard that members describe. -/
def ofMembers? (ms : List (String × Json)) : Option Dashboard := do
  let rpcEndpoint ←
    Fields.optional? ["rpcEndpoint", "rpcUrl"] Json.text? "http://localhost:8545" ms
  let tokens ← Fields.optional? ["deployedTokens"] (Json.list? Record.ofJson?) [] ms
  return { rpcEndpoint, tokens }

/-- The dashboard that a JSON value describes. -/
def ofJson? (j : Json) : Option Dashboard :=
  (j.members? ["rpcEndpoint", "deployedTokens"] 0).bind ofMembers?

/-- The dashboard that a text describes. -/
def parse? (s : String) : Option Dashboard :=
  (Json.parse? s).bind ofJson?

end Dashboard
end TokenLaunch
