/-
# Contracts

A contract is its source together with what is worth knowing about it without reading it: its
name, its standard, the decimals of a fungible token, its features and a fingerprint.
-/
import TokenLaunch.Contract.Fingerprint
import TokenLaunch.Contract.Layout
import TokenLaunch.Json

namespace TokenLaunch

/-- A generated contract. -/
structure Contract where
  name : String
  standard : Standard
  /-- The decimals that the contract reports; fungible tokens only. -/
  decimals : Option UInt8
  /-- The names of the active features. -/
  features : List String
  source : String
  /-- The fingerprint of the source. -/
  fingerprint : String
deriving DecidableEq

namespace Contract

/-- The size of the source in bytes. -/
def size (c : Contract) : Nat := c.source.utf8ByteSize

/-- The members of a contract.  Only fungible tokens have decimals. -/
def members (c : Contract) : List (String × Json) :=
  [("contractName", .string c.name), ("standard", .string c.standard.text)] ++
  c.decimals.toList.map (fun d => ("decimals", .natural d.toNat)) ++
  [("features", .array (c.features.map .string)), ("source", .string c.source),
    ("contentHash", .string c.fingerprint)]

/-- A contract as JSON. -/
def toJson (c : Contract) : Json := .object c.members

end Contract

namespace Normalized

/-- The source file of a normalized spec, in the layout of its own kind. -/
def sourceFile (n : Normalized) (k : Kind) : Solidity.SourceFile :=
  Layout.file k (n.blueprintFor k) n

/-- The contract of a normalized spec of a kind. -/
def contractFor (n : Normalized) (k : Kind) : Contract :=
  let source := (n.sourceFile k).text
  { name := Solidity.Identifier.ofSymbol n.symbol k.catalogue.suffix
    standard := n.standard
    decimals := if k = .fungible then some n.decimals else none
    features := n.featureNames
    source := source
    fingerprint := Fingerprint.ofText source }

end Normalized

namespace Spec

/-- The source text that a spec stands for. -/
def generate (spec : Spec) : Except UnknownStandard String :=
  spec.standard.kind.map fun k => (spec.normalize.sourceFile k).text

/-- The contract that a spec stands for. -/
def contract (spec : Spec) : Except UnknownStandard Contract :=
  spec.standard.kind.map spec.normalize.contractFor

/-- The source of the contract is the generated source. -/
theorem generate_eq_map_contract (spec : Spec) :
    spec.generate = spec.contract.map Contract.source := by
  cases h : spec.standard <;>
    simp [generate, contract, h, Normalized.contractFor, Except.map]

/-- A source is made in two stages: a blueprint is drawn, then it is laid out. -/
theorem generate_eq_bind (spec : Spec) : spec.generate =
    spec.normalize.blueprint.bind fun b => Layout.source spec.standard b spec.normalize := by
  rw [generate, Normalized.blueprint, normalize_standard]
  cases spec.standard <;> rfl

/-- A spec without a kind has no contract. -/
theorem contract_unrecognized {spec : Spec} {raw : String} (h : spec.standard = .unrecognized raw) :
    spec.contract = .error ⟨raw⟩ := by
  rw [contract, h]
  rfl

/-- The source of a spec, where it has one. -/
def preview? (spec : Spec) : Option String :=
  spec.generate.toOption

end Spec
end TokenLaunch
