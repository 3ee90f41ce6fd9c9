/-
# Normalized specs

Normalization makes every field of a spec meaningful for its standard and never fails: features
that the standard does not know are switched off, the access model is resolved, the decimals are
held to what a 256-bit word can scale by, and supplies become integer literals.  A supply that is
blank or cannot be scaled is dropped.
-/
import TokenLaunch.Quantity
import TokenLaunch.Spec

namespace TokenLaunch

/-- A spec in which every field is meaningful. -/
structure Normalized where
  standard : Standard
  name : String
  symbol : String
  decimals : UInt8
  /-- Smallest units minted at construction. -/
  initialSupply : Option String
  /-- Smallest units that may ever exist; kept for callers, not part of the contract. -/
  maxSupply : Option String
  baseMetadataUri : String
  features : Flags
  access : Access
deriving DecidableEq

/-- The largest number of decimals for which the unit fits a 256-bit word. -/
def maxDecimals : UInt8 := 77

namespace Normalized

/-- Whether a feature is active.  Per-token metadata is, for unique assets with a base URI. -/
def has (n : Normalized) : Feature → Bool
  | .uriStorage => decide (n.standard = .known .uniqueAsset) && !n.baseMetadataUri.isEmpty
  | f => n.features.isOn f

/-- The active features, in the order in which features are listed. -/
def enabled (n : Normalized) : List Feature :=
  Feature.all.filter n.has

/-- The names of the active features. -/
def featureNames (n : Normalized) : List String :=
  n.enabled.map Feature.displayName

end Normalized

namespace Spec

/-- A supply as an integer literal, when it is given and can be scaled. -/
def supplyLiteral? (text : String) (decimals : UInt8) : Option String :=
  if Text.isBlankText text then none else (Quantity.scale text decimals).toOption

/-- The number of decimals that the contract is made with. -/
def effectiveDecimals (spec : Spec) : UInt8 :=
  if maxDecimals < spec.decimals then maxDecimals else spec.decimals

/-- Whether the spec describes a fungible token. -/
def isFungible (spec : Spec) : Bool :=
  decide (spec.standard = .known .fungible)

/-- Make every field meaningful for the standard. -/
def normalize (spec : Spec) : Normalized where
  standard := spec.standard
  name := spec.name
  symbol := spec.symbol
  decimals := spec.effectiveDecimals
  initialSupply :=
    if spec.isFungible then supplyLiteral? spec.initialSupply spec.effectiveDecimals else none
  maxSupply :=
    if spec.isFungible then supplyLiteral? spec.maxSupply spec.effectiveDecimals else none
  baseMetadataUri := if spec.isFungible then "" else spec.baseMetadataUri
  features := spec.features.restrict fun f => f.appliesToStandard spec.standard
  access := spec.access

@[simp] theorem normalize_standard (spec : Spec) : spec.normalize.standard = spec.standard := rfl

@[simp] theorem normalize_name (spec : Spec) : spec.normalize.name = spec.name := rfl

@[simp] theorem normalize_symbol (spec : Spec) : spec.normalize.symbol = spec.symbol := rfl

@[simp] theorem normalize_access (spec : Spec) : spec.normalize.access = spec.access := rfl

end Spec
end TokenLaunch
