/-
# Library contracts

A generated contract gets its behaviour by inheriting library contracts, called components here.
A component has a name, which is used in inheritance lists, and files that must be imported for
it.  Some methods are implemented by several components at once; such a method is a hook.
-/
import TokenLaunch.Solidity.SourceFile

namespace TokenLaunch

/-- A library contract that a generated contract may inherit. -/
inductive Component
  | erc20
  | erc20Burnable
  | erc20Pausable
  | erc20Permit
  | erc20Votes
  | erc20FlashMint
  | erc20Snapshot
  | erc721
  | erc721Burnable
  | erc721Pausable
  | erc721UriStorage
  | erc1155
  | erc1155Burnable
  | erc1155Pausable
  | erc1155Supply
  | ownable
  | accessControl
deriving DecidableEq

namespace Component

/-- Every component. -/
def all : List Component :=
  [erc20, erc20Burnable, erc20Pausable, erc20Permit, erc20Votes, erc20FlashMint, erc20Snapshot,
    erc721, erc721Burnable, erc721Pausable, erc721UriStorage, erc1155, erc1155Burnable,
    erc1155Pausable, erc1155Supply, ownable, accessControl]

theorem mem_all (c : Component) : c ∈ all := by cases c <;> decide

/-- The name in inheritance lists and override clauses. -/
def name : Component → String
  | erc20 => "ERC20"
  | erc20Burnable => "ERC20Burnable"
  | erc20Pausable => "ERC20Pausable"
  | erc20Permit => "ERC20Permit"
  | erc20Votes => "ERC20Votes"
  | erc20FlashMint => "ERC20FlashMint"
  | erc20Snapshot => "ERC20Snapshot"
  | erc721 => "ERC721"
  | erc721Burnable => "ERC721Burnable"
  | erc721Pausable => "ERC721Pausable"
  | erc721UriStorage => "ERC721URIStorage"
  | erc1155 => "ERC1155"
  | erc1155Burnable => "ERC1155Burnable"
  | erc1155Pausable => "ERC1155Pausable"
  | erc1155Supply => "ERC1155Supply"
  | ownable => "Ownable"
  | accessControl => "AccessControl"

/-- The folder of the library that holds a component's own file. -/
def folder : Component → String
  | erc20 => "token/ERC20/"
  | erc20Burnable | erc20Pausable | erc20Permit | erc20Votes | erc20FlashMint | erc20Snapshot =>
    "token/ERC20/extensions/"
  | erc721 => "token/ERC721/"
  | erc721Burnable | erc721Pausable | erc721UriStorage => "token/ERC721/extensions/"
  | erc1155 => "token/ERC1155/"
  | erc1155Burnable | erc1155Pausable | erc1155Supply => "token/ERC1155/extensions/"
  | ownable | accessControl => "access/"

/-- A component's own file, which bears its name. -/
def file (c : Component) : String :=
  c.folder ++ c.name ++ ".sol"

/-- Files needed besides the component's own. -/
def sharedFiles : Component → List String
  | erc20Pausable | erc721Pausable | erc1155Pausable => ["utils/Pausable.sol"]
  | _ => []

/-- The files to import for a component, as paths in the library. -/
def files (c : Component) : List String :=
  c.file :: c.sharedFiles

/-- Where the library is found. -/
def library : String := "@openzeppelin/contracts/"

/-- The files to import for a component, as import paths. -/
def importPaths (c : Component) : List String :=
  c.files.map (library ++ ·)

theorem name_injective {a b : Component} (h : a.name = b.name) : a = b := by
  revert h; cases a <;> cases b <;> decide

end Component

/-- A method that several components may implement. -/
inductive Hook
  /-- Called on every change of a balance. -/
  | balanceUpdate
  /-- The counter of an account's signatures. -/
  | nonceAccessor
  /-- Where the metadata of a token is. -/
  | metadataUri
  /-- Which interfaces the contract has. -/
  | interfaceQuery
deriving DecidableEq

namespace Hook

/-- Every hook. -/
def all : List Hook := [balanceUpdate, nonceAccessor, metadataUri, interfaceQuery]

/-- The name of the method. -/
def method : Hook → String
  | balanceUpdate => "_update"
  | nonceAccessor => "nonces"
  | metadataUri => "tokenURI"
  | interfaceQuery => "supportsInterface"

theorem method_injective {a b : Hook} (h : a.method = b.method) : a = b := by
  revert h; cases a <;> cases b <;> decide

end Hook
end TokenLaunch
