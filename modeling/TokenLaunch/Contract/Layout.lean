/-
# Layouts

A layout writes a blueprint down as a source file.  There is one for each kind of token; they
differ in the constructor's header, in the members that every contract of the kind has, and in the
wording of the methods.  The members stand in a fixed order: roles, state, constructor, fixed
members, privileged methods, overrides.
-/
import TokenLaunch.Contract.Blueprint
import TokenLaunch.Solidity.Identifier

namespace TokenLaunch
namespace Layout

open Solidity

/-! ## The constructor -/

/-- An argument of an inherited constructor. -/
def argument : Argument → Line
  | .text value => [.literal value]
  | .sender => [.code "msg.sender"]

/-- A call of an inherited constructor. -/
def constructorCall (call : ConstructorCall) : Line :=
  .code call.target.name :: .code "(" :: Line.joinWith ", " (call.arguments.map argument) ++
    [.code ")"]

/-- A statement of the constructor. -/
def statement : Statement → Line
  | .mintSupply amount => [.code "_mint(msg.sender, ", .code amount, .code ");"]
  | .grantRole c => [.code ("_grantRole(" ++ c.role ++ ", msg.sender);")]

/-- The constructor; contracts with many assets have its header on one line. -/
def creation (layout : Kind) (b : Blueprint) : Routine where
  head := .creation
  qualifiers := b.constructorCalls.map constructorCall
  body := b.constructorBody.map statement
  wrapped := layout != .multiAsset

/-! ## Fixed members -/

/-- The number of decimals that a contract has unless it says otherwise. -/
def defaultDecimals : UInt8 := 18

/-- The override that reports the number of decimals. -/
def decimalsFunction (decimals : UInt8) : Routine where
  head := .function "decimals" ""
  qualifiers :=
    [Line.ofCode "public", Line.ofCode "pure", Line.ofCode "override",
      Line.ofCode "returns (uint8)"]
  body := [[.code "return ", .code decimals.toNat.repr, .code ";"]]
  wrapped := false

/-- The override that reports where metadata is. -/
def baseUriFunction (uri : String) : Routine where
  head := .function "_baseURI" ""
  qualifiers :=
    [Line.ofCode "internal", Line.ofCode "pure", Line.ofCode "override",
      Line.ofCode "returns (string memory)"]
  body := [[.code "return ", .literal uri, .code ";"]]
  wrapped := false

/-- The members that follow the constructor whatever the features are. -/
def fixedRoutines (layout : Kind) (n : Normalized) : List Routine :=
  match layout with
  | .fungible => if n.decimals = defaultDecimals then [] else [decimalsFunction n.decimals]
  | .uniqueAsset => [baseUriFunction n.baseMetadataUri]
  | .multiAsset => []

/-! ## Privileged methods -/

/-- The modifier that enforces a guard. -/
def modifier : Guard → List Line
  | .anyone => []
  | .owner => [[.code "onlyOwner"]]
  | .role c => [[.code ("onlyRole(" ++ c.role ++ ")")]]

/-- A public function with a guard. -/
def guarded (name parameters : String) (guard : Guard) (body : List String) (wrapped : Bool) :
    Routine where
  head := .function name parameters
  qualifiers := Line.ofCode "public" :: modifier guard
  body := body.map Line.ofCode
  wrapped := wrapped

/-- The functions that mint. -/
def mintFunctions (layout : Kind) (b : Blueprint) (guard : Guard) : List Routine :=
  match layout with
  | .fungible =>
    [guarded "mint" "address to, uint256 amount" guard ["_mint(to, amount);"] false]
  | .uniqueAsset =>
    if b.inherits .erc721UriStorage then
      [guarded "safeMint" "address to, string memory uri" guard
        ["uint256 tokenId = _nextTokenId++;", "_safeMint(to, tokenId);",
          "_setTokenURI(tokenId, uri);"] false]
    else
      [guarded "safeMint" "address to" guard
        ["uint256 tokenId = _nextTokenId++;", "_safeMint(to, tokenId);"] false]
  | .multiAsset =>
    [guarded "mint" "address account, uint256 id, uint256 amount, bytes memory data" guard
      ["_mint(account, id, amount, data);"] true,
    guarded "mintBatch"
      "address to, uint256[] memory ids, uint256[] memory amounts, bytes memory data" guard
      ["_mintBatch(to, ids, amounts, data);"] true]

/-- The functions of a privileged method. -/
def methodFunctions (layout : Kind) (b : Blueprint) (m : Method) : List Routine :=
  match m.kind with
  | .mint => mintFunctions layout b m.guard
  | .pause =>
    [guarded "pause" "" m.guard ["_pause();"] false,
      guarded "unpause" "" m.guard ["_unpause();"] false]
  | .snapshot => [guarded "snapshot" "" m.guard ["_snapshot();"] false]
  | .setUri => [guarded "setURI" "string memory newuri" m.guard ["_setURI(newuri);"] false]

/-! ## Overrides -/

/-- The parameters of a hook; contracts with many assets change balances in batches. -/
def hookParameters (layout : Kind) : Hook → String
  | .balanceUpdate =>
    if layout = .multiAsset then
      "address from, address to, uint256[] memory ids, uint256[] memory values"
    else "address from, address to, uint256 value"
  | .nonceAccessor => "address owner"
  | .metadataUri => "uint256 tokenId"
  | .interfaceQuery => "bytes4 interfaceId"

/-- Who sees a hook. -/
def hookVisibility : Hook → List String
  | .balanceUpdate => ["internal"]
  | _ => ["public", "view"]

/-- What a hook returns. -/
def hookReturns : Hook → List String
  | .balanceUpdate => []
  | .nonceAccessor => ["returns (uint256)"]
  | .metadataUri => ["returns (string memory)"]
  | .interfaceQuery => ["returns (bool)"]

/-- The statement that passes a call of a hook on. -/
def hookStatement (layout : Kind) : Hook → String
  | .balanceUpdate =>
    if layout = .multiAsset then "super._update(from, to, ids, values);"
    else "super._update(from, to, value);"
  | .nonceAccessor => "return super.nonces(owner);"
  | .metadataUri => "return super.tokenURI(tokenId);"
  | .interfaceQuery => "return super.supportsInterface(interfaceId);"

/-- The clause that names the overridden components. -/
def overrideClause (components : List Component) : String :=
  "override(" ++ ", ".intercalate (components.map Component.name) ++ ")"

/-- The function that overrides a hook. -/
def overrideFunction (layout : Kind) (o : Override) : Routine where
  head := .function o.hook.method (hookParameters layout o.hook)
  qualifiers :=
    (hookVisibility o.hook).map Line.ofCode ++ [Line.ofCode (overrideClause o.components)] ++
      (hookReturns o.hook).map Line.ofCode
  body := [Line.ofCode (hookStatement layout o.hook)]
  wrapped := true

/-! ## The file -/

/-- The declared roles. -/
def roleMembers (b : Blueprint) : List Member :=
  if b.roles.isEmpty then [] else [.nameHashes (b.roles.map Capability.role)]

/-- State of its own; unique assets are numbered. -/
def stateMembers : Kind → List Member
  | .uniqueAsset => [.variable "uint256 private _nextTokenId"]
  | _ => []

/-- The overrides, under a remark. -/
def overrideMembers (layout : Kind) (b : Blueprint) : List Member :=
  if b.overrides.isEmpty then []
  else .remark "Required overrides" :: b.overrides.map fun o => .routine (overrideFunction layout o)

/-- The members of the contract. -/
def members (layout : Kind) (b : Blueprint) (n : Normalized) : List Member :=
  roleMembers b ++ stateMembers layout ++ [.routine (creation layout b)] ++
    (fixedRoutines layout n).map .routine ++
    (b.methods.flatMap (methodFunctions layout b)).map .routine ++ overrideMembers layout b

/-- The source file of a blueprint. -/
def file (layout : Kind) (b : Blueprint) (n : Normalized) : SourceFile where
  imports := b.imports
  name := Identifier.ofSymbol n.symbol b.suffix
  parents := b.chain.map Component.name
  members := members layout b n

/-- The source text of a blueprint in the layout of a standard. -/
def source (layout : Standard) (b : Blueprint) (n : Normalized) : Except UnknownStandard String :=
  layout.kind.map fun k => (file k b n).text

end Layout
end TokenLaunch
