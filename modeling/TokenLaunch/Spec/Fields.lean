/-
# Specs as records

A spec is written as a record with sixteen fields, in any order and each at most once; two of them
have a second name.  A missing field has its default.  Specs come in several data formats, which
differ in what they take for a text or a number, so the fields are read through a `FieldReader` of
the format.
-/
import TokenLaunch.Json.Fields
import TokenLaunch.Spec

namespace TokenLaunch

/-- How a data format reads the values of fields. -/
structure FieldReader (v : Type) where
  text? : v → Option String
  flag? : v → Option Bool
  byte? : v → Option UInt8
  /-- The value of a feature's toggle.  Toggles are kept aside until the other fields are read. -/
  toggle? : v → Option Bool
  /-- Whether a value under an unknown name can be kept aside. -/
  isKeepable : v → Bool

namespace Spec

open Json (Fields.optional?)

/-- The names of each field that is no toggle. -/
def fieldNames : List (List String) :=
  [["standard"], ["name"], ["symbol"], ["decimals"], ["initialSupply"], ["maxSupply"],
    ["baseMetadataUri", "baseUri"], ["ownable"], ["roleBased", "roles"]]

/-- The names of the toggles. -/
def toggleNames : List String :=
  ["mintable", "burnable", "pausable", "permit", "votes", "flashMint", "snapshots"]

/-- Whether a name is none of the sixteen fields'. -/
def isUnknownName (name : String) : Bool :=
  !(fieldNames.flatten.contains name || toggleNames.contains name)

/-- The toggles among the members of a record. -/
def flagsOfMembers? {v : Type} (r : FieldReader v) (ms : List (String × v)) : Option Flags := do
  let mintable ← Fields.optional? ["mintable"] r.toggle? false ms
  let burnable ← Fields.optional? ["burnable"] r.toggle? false ms
  let pausable ← Fields.optional? ["pausable"] r.toggle? false ms
  let permit ← Fields.optional? ["permit"] r.toggle? false ms
  let votes ← Fields.optional? ["votes"] r.toggle? false ms
  let flashMint ← Fields.optional? ["flashMint"] r.toggle? false ms
  let snapshots ← Fields.optional? ["snapshots"] r.toggle? false ms
  return { mintable, burnable, pausable, permit, votes, flashMint, snapshots }

/-- The spec that the members of a record describe. -/
def ofMembers? {v : Type} (r : FieldReader v) (ms : List (String × v)) : Option Spec := do
  let standard ←
    Fields.optional? ["standard"] (fun j => (r.text? j).map Standard.ofText) (.known .fungible) ms
  let name ← Fields.optional? ["name"] r.text? "" ms
  let symbol ← Fields.optional? ["symbol"] r.text? "" ms
  let decimals ← Fields.optional? ["decimals"] r.byte? 18 ms
  let initialSupply ← Fields.optional? ["initialSupply"] r.text? "1000000" ms
  let maxSupply ← Fields.optional? ["maxSupply"] r.text? "" ms
  let baseMetadataUri ← Fields.optional? ["baseMetadataUri", "baseUri"] r.text? "" ms
  let features ← flagsOfMembers? r ms
  let ownable ← Fields.optional? ["ownable"] r.flag? true ms
  let roleBased ← Fields.optional? ["roleBased", "roles"] r.flag? false ms
  if (ms.filter fun m => isUnknownName m.1).all fun m => r.isKeepable m.2 then
    return { standard, name, symbol, decimals, initialSupply, maxSupply, baseMetadataUri,
             features, ownable, roleBased }
  else none

/-! ## JSON -/

/-- How many levels deep the value of an unknown JSON member may be. -/
def keptDepth : Nat := 126

/-- How JSON reads the values of fields. -/
def jsonFields : FieldReader Json where
  text? := Json.text?
  flag? := Json.bool?
  byte? := Json.byte?
  toggle? := Json.bool?
  isKeepable := Json.isKeepable keptDepth

/-- The spec that a JSON object describes. -/
def ofJson? : Json → Option Spec
  | .object members => ofMembers? jsonFields members
  | _ => none

/-- A spec as a JSON object with all its fields. -/
def toJson (spec : Spec) : Json :=
  .object
    [("standard", .string spec.standard.text), ("name", .string spec.name),
      ("symbol", .string spec.symbol), ("decimals", .natural spec.decimals.toNat),
      ("initialSupply", .string spec.initialSupply), ("maxSupply", .string spec.maxSupply),
      ("baseMetadataUri", .string spec.baseMetadataUri),
      ("mintable", .bool spec.features.mintable), ("burnable", .bool spec.features.burnable),
      ("pausable", .bool spec.features.pausable), ("permit", .bool spec.features.permit),
      ("votes", .bool spec.features.votes), ("flashMint", .bool spec.features.flashMint),
      ("snapshots", .bool spec.features.snapshots), ("ownable", .bool spec.ownable),
      ("roleBased", .bool spec.roleBased)]

end Spec
end TokenLaunch
