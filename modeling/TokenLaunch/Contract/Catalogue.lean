/-
# Catalogues

What a contract may be built from depends on the kind of token, and is kept here as tables: the
base component, the component of each feature in the order of inheritance, the components that are
always there, and the hooks with the components that implement them.
-/
import TokenLaunch.Contract.Component
import TokenLaunch.Feature

namespace TokenLaunch

/-- A hook and the components that implement it. -/
structure Conflict where
  hook : Hook
  implementors : List Component
deriving DecidableEq

/-- What the contracts of one kind of token are built from. -/
structure Catalogue where
  /-- The component that comes first in every contract. -/
  base : Component
  /-- The component of each feature that has one, in the order of inheritance. -/
  extensions : List (Feature × Component)
  /-- Components of every contract, after the extensions. -/
  required : List Component
  /-- The shared methods, in the order in which overrides are written. -/
  conflicts : List Conflict
  /-- What follows the symbol in the name of the contract. -/
  suffix : String

namespace Kind

/-- The tables of a kind of token. -/
def catalogue : Kind → Catalogue
  | fungible =>
    { base := .erc20
      extensions :=
        [(.burnable, .erc20Burnable), (.pausable, .erc20Pausable), (.permit, .erc20Permit),
          (.votes, .erc20Votes), (.flashMint, .erc20FlashMint), (.snapshots, .erc20Snapshot)]
      required := []
      conflicts :=
        [⟨.balanceUpdate, [.erc20, .erc20Pausable, .erc20Snapshot, .erc20Votes]⟩,
          ⟨.nonceAccessor, [.erc20Permit, .erc20Votes]⟩]
      suffix := "Token" }
  | uniqueAsset =>
    { base := .erc721
      extensions :=
        [(.burnable, .erc721Burnable), (.pausable, .erc721Pausable),
          (.uriStorage, .erc721UriStorage)]
      required := []
      conflicts :=
        [⟨.metadataUri, [.erc721, .erc721UriStorage]⟩,
          ⟨.interfaceQuery, [.erc721, .erc721UriStorage, .accessControl]⟩]
      suffix := "NFT" }
  | multiAsset =>
    { base := .erc1155
      extensions := [(.burnable, .erc1155Burnable), (.pausable, .erc1155Pausable)]
      required := [.erc1155Supply]
      conflicts :=
        [⟨.balanceUpdate, [.erc1155, .erc1155Pausable, .erc1155Supply]⟩,
          ⟨.interfaceQuery, [.erc1155, .accessControl]⟩]
      suffix := "MultiToken" }

/-- A catalogue lists extensions only for features of its kind. -/
theorem appliesTo_of_mem_extensions (k : Kind) :
    ∀ e ∈ k.catalogue.extensions, e.1.appliesTo k = true := by
  cases k <;> decide

end Kind
end TokenLaunch
