/-
# Blueprints

A blueprint is the structure of one contract before it is written down: what it inherits and
imports, how its constructor calls the inherited ones, what the constructor does, which privileged
methods there are and who may call them, and which shared methods are overridden.

`Normalized.blueprint` draws it from a normalized spec and the catalogue of its kind.
-/
import TokenLaunch.Contract.Catalogue
import TokenLaunch.Spec.Normalized

namespace TokenLaunch

/-- A privilege that the access model hands out. -/
inductive Capability
  /-- Administration, built into the access component. -/
  | admin
  | mint
  | pause
  | uriSet
deriving DecidableEq

namespace Capability

/-- Every capability. -/
def all : List Capability := [admin, mint, pause, uriSet]

/-- The capabilities that belong to features, in the order of declaration and granting. -/
def ofFeatures : List Capability := [mint, pause, uriSet]

/-- The role that stands for a capability. -/
def role : Capability → String
  | admin => "DEFAULT_ADMIN_ROLE"
  | mint => "MINTER_ROLE"
  | pause => "PAUSER_ROLE"
  | uriSet => "URI_SETTER_ROLE"

/-- Whether the role is inherited, so that it is never declared. -/
def isBuiltin (c : Capability) : Bool := decide (c = admin)

theorem role_injective {a b : Capability} (h : a.role = b.role) : a = b := by
  revert h; cases a <;> cases b <;> decide

end Capability

/-- Who may call a privileged method. -/
inductive Guard
  /-- Anyone. -/
  | anyone
  /-- The owner. -/
  | owner
  /-- The holders of a role. -/
  | role (c : Capability)
deriving DecidableEq

/-- The guard of a capability under an access model. -/
def Access.guard : Access → Capability → Guard
  | .unguarded, _ => .anyone
  | .owner, _ => .owner
  | .roles, c => .role c

/-- An argument of an inherited constructor. -/
inductive Argument
  /-- A string. -/
  | text (value : String)
  /-- The deploying account. -/
  | sender
deriving DecidableEq

/-- A call of an inherited constructor. -/
structure ConstructorCall where
  target : Component
  arguments : List Argument
deriving DecidableEq

/-- A statement of the constructor. -/
inductive Statement
  /-- Mint the initial supply to the deploying account. -/
  | mintSupply (amount : String)
  /-- Grant a role to the deploying account. -/
  | grantRole (c : Capability)
deriving DecidableEq

/-- A kind of privileged method. -/
inductive MethodKind
  | mint
  /-- Pausing and unpausing. -/
  | pause
  | snapshot
  | setUri
deriving DecidableEq

/-- A privileged method and its guard. -/
structure Method where
  kind : MethodKind
  guard : Guard
deriving DecidableEq

/-- An override of a hook. -/
structure Override where
  hook : Hook
  /-- The inherited components that implement the hook, in the order of inheritance. -/
  components : List Component
deriving DecidableEq

/-- The structure of a contract. -/
structure Blueprint where
  /-- The inherited components, in order. -/
  chain : List Component
  /-- The paths of the imported files. -/
  imports : List String
  constructorCalls : List ConstructorCall
  constructorBody : List Statement
  methods : List Method
  overrides : List Override
  /-- The declared roles. -/
  roles : List Capability
  /-- What follows the symbol in the name of the contract. -/
  suffix : String
deriving DecidableEq

namespace Blueprint

/-- Whether a component is inherited. -/
def inherits (b : Blueprint) (c : Component) : Bool :=
  b.chain.contains c

/-- The override of a hook, where there is one. -/
def overrideOf? (b : Blueprint) (h : Hook) : Option Override :=
  b.overrides.find? fun o => decide (o.hook = h)

/-- The component that enforces an access model. -/
def accessComponents : Access → List Component
  | .unguarded => []
  | .owner => [.ownable]
  | .roles => [.accessControl]

/-- Keep the first of equal entries. -/
def firstOccurrences (xs : List String) : List String :=
  xs.foldl (fun seen x => if seen.contains x then seen else seen ++ [x]) []

/-- The override that a conflict asks for: one, as soon as two implementors meet. -/
def overrideFor? (chain : List Component) (rule : Conflict) : Option Override :=
  let meeting := chain.filter fun c => rule.implementors.contains c
  if 2 ≤ meeting.length then some ⟨rule.hook, meeting⟩ else none

end Blueprint

namespace Normalized

open Blueprint

/-- The arguments that a component's constructor takes, for components whose does. -/
def constructorCall? (n : Normalized) (c : Component) : Option ConstructorCall :=
  match c with
  | .erc20 | .erc721 => some ⟨c, [.text n.name, .text n.symbol]⟩
  | .erc1155 => some ⟨c, [.text n.baseMetadataUri]⟩
  | .erc20Permit => some ⟨c, [.text n.name]⟩
  | .ownable => some ⟨c, [.sender]⟩
  | _ => none

/-- The inherited components: the base, the extensions of the active features, what the kind
requires, and the component that enforces the access model. -/
def chain (n : Normalized) (k : Kind) : List Component :=
  k.catalogue.base ::
    ((k.catalogue.extensions.filter fun e => n.has e.1).map Prod.snd ++
      k.catalogue.required ++ accessComponents n.access)

/-- Whether the contract has a method that needs a capability. -/
def uses (n : Normalized) (k : Kind) : Capability → Bool
  | .mint => n.features.mintable
  | .pause => n.features.pausable
  | .uriSet => decide (k = .multiAsset)
  | .admin => false

/-- The capabilities of the contract's features. -/
def capabilities (n : Normalized) (k : Kind) : List Capability :=
  Capability.ofFeatures.filter (n.uses k)

/-- The privileged methods with the capability that each needs. -/
def privileged (n : Normalized) (k : Kind) : List (MethodKind × Capability) :=
  (if n.features.mintable then [(.mint, .mint)] else []) ++
  (if n.features.pausable then [(.pause, .pause)] else []) ++
  (if n.features.snapshots then [(.snapshot, .admin)] else []) ++
  (if k = .multiAsset then [(.setUri, .uriSet)] else [])

/-- What the constructor does: it mints, then it grants. -/
def constructorBody (n : Normalized) (k : Kind) : List Statement :=
  (if k = .fungible then n.initialSupply.toList.map .mintSupply else []) ++
  (if n.access = .roles then (Capability.admin :: n.capabilities k).map .grantRole else [])

/-- The structure of the contract, drawn from the catalogue of a kind. -/
def blueprintFor (n : Normalized) (k : Kind) : Blueprint where
  chain := n.chain k
  imports := firstOccurrences ((n.chain k).flatMap Component.importPaths)
  constructorCalls := (n.chain k).filterMap n.constructorCall?
  constructorBody := n.constructorBody k
  methods := (n.privileged k).map fun m => ⟨m.1, n.access.guard m.2⟩
  overrides := k.catalogue.conflicts.filterMap (overrideFor? (n.chain k))
  roles := if n.access = .roles then n.capabilities k else []
  suffix := k.catalogue.suffix

/-- The structure of the contract that a normalized spec describes. -/
def blueprint (n : Normalized) : Except UnknownStandard Blueprint :=
  n.standard.kind.map n.blueprintFor

end Normalized
end TokenLaunch
