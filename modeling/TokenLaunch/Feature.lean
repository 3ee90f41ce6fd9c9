/-
# Features

A feature is a capability of the token that a user chooses.  Seven features have a toggle in the
spec; the eighth, per-token metadata, follows from the spec's base URI.  Which features a kind of
token knows is fixed by `Feature.appliesTo`.
-/
import TokenLaunch.Standard

namespace TokenLaunch

/-- A capability of the generated token. -/
inductive Feature
  | mintable
  | burnable
  | pausable
  | permit
  | votes
  | flashMint
  | snapshots
  /-- Metadata stored for each token; no toggle of its own. -/
  | uriStorage
deriving DecidableEq

namespace Feature

/-- Every feature, in the order in which features are listed. -/
def all : List Feature :=
  [mintable, burnable, pausable, permit, votes, flashMint, snapshots, uriStorage]

theorem mem_all (f : Feature) : f ∈ all := by cases f <;> decide

/-- The name shown to users and kept with a launched token. -/
def displayName : Feature → String
  | mintable => "Mintable"
  | burnable => "Burnable"
  | pausable => "Pausable"
  | permit => "Permit"
  | votes => "Votes"
  | flashMint => "FlashMint"
  | snapshots => "Snapshots"
  | uriStorage => "URI Storage"

/-- The features that a kind of token can have. -/
def appliesTo : Feature → Kind → Bool
  | mintable, _ | burnable, _ | pausable, _ => true
  | permit, k | votes, k | flashMint, k | snapshots, k => decide (k = .fungible)
  | uriStorage, k => decide (k = .uniqueAsset)

/-- A standard without a kind has no features. -/
def appliesToStandard (f : Feature) (s : Standard) : Bool :=
  s.kind?.any f.appliesTo

end Feature

/-- The toggles of a spec, one for each feature that has one. -/
structure Flags where
  mintable : Bool := false
  burnable : Bool := false
  pausable : Bool := false
  permit : Bool := false
  votes : Bool := false
  flashMint : Bool := false
  snapshots : Bool := false
deriving DecidableEq

namespace Flags

/-- Whether the toggle of a feature is on. -/
def isOn (flags : Flags) : Feature → Bool
  | .mintable => flags.mintable
  | .burnable => flags.burnable
  | .pausable => flags.pausable
  | .permit => flags.permit
  | .votes => flags.votes
  | .flashMint => flags.flashMint
  | .snapshots => flags.snapshots
  | .uriStorage => false

/-- Move the toggle of a feature.  A feature without toggle leaves the toggles as they are. -/
def set (flags : Flags) (f : Feature) (on : Bool) : Flags :=
  match f with
  | .mintable => { flags with mintable := on }
  | .burnable => { flags with burnable := on }
  | .pausable => { flags with pausable := on }
  | .permit => { flags with permit := on }
  | .votes => { flags with votes := on }
  | .flashMint => { flags with flashMint := on }
  | .snapshots => { flags with snapshots := on }
  | .uriStorage => flags

/-- The toggles that stay on where only some features are allowed. -/
def restrict (flags : Flags) (allowed : Feature → Bool) : Flags where
  mintable := flags.mintable && allowed .mintable
  burnable := flags.burnable && allowed .burnable
  pausable := flags.pausable && allowed .pausable
  permit := flags.permit && allowed .permit
  votes := flags.votes && allowed .votes
  flashMint := flags.flashMint && allowed .flashMint
  snapshots := flags.snapshots && allowed .snapshots

theorem isOn_restrict (flags : Flags) (allowed : Feature → Bool) (f : Feature) :
    (flags.restrict allowed).isOn f = (flags.isOn f && allowed f) := by
  cases f <;> simp [isOn, restrict]

theorem isOn_set (flags : Flags) (f g : Feature) (on : Bool) (h : f ≠ .uriStorage) :
    (flags.set f on).isOn g = if g = f then on else flags.isOn g := by
  cases f <;> cases g <;> simp_all [isOn, set]

@[ext] theorem ext_isOn {a b : Flags} (h : ∀ f, a.isOn f = b.isOn f) : a = b := by
  cases a; cases b
  have h1 := h .mintable; have h2 := h .burnable; have h3 := h .pausable
  have h4 := h .permit; have h5 := h .votes; have h6 := h .flashMint; have h7 := h .snapshots
  simp only [isOn] at h1 h2 h3 h4 h5 h6 h7
  simp [*]

end Flags
end TokenLaunch
