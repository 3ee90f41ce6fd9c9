/-
# Where the spec of a command comes from

A command that needs a spec takes it from a file, if it names one, and from the spec that says
nothing otherwise.  What the command line says about single fields goes over that: a field that it
names is replaced, a feature that it names is switched on, and every other field stays.
-/
import TokenLaunch.Command.SpecFile

namespace TokenLaunch

/-- What a command line says about single fields of a spec. -/
structure Overrides where
  standard : Option String := none
  name : Option String := none
  symbol : Option String := none
  decimals : Option UInt8 := none
  initialSupply : Option String := none
  maxSupply : Option String := none
  baseMetadataUri : Option String := none
  /-- The features that are named, in order and with repetitions. -/
  features : List Feature := []
  access : Option Access := none
deriving DecidableEq

namespace Overrides

/-- The toggles after the named features have been switched on. -/
def switchOn (features : List Feature) (flags : Flags) : Flags :=
  features.foldl (fun flags f => flags.set f true) flags

/-- A spec with its flags set for an access model. -/
def guarded (spec : Spec) : Access → Spec
  | .owner => spec.useOwnable
  | .roles => spec.useRoles
  | .unguarded => spec.useNoGuard

/-- A spec after what the command line says about it. -/
def apply (o : Overrides) (spec : Spec) : Spec :=
  let edited : Spec :=
    { spec with
      standard := (o.standard.map Standard.ofText).getD spec.standard
      name := o.name.getD spec.name
      symbol := o.symbol.getD spec.symbol
      decimals := o.decimals.getD spec.decimals
      initialSupply := o.initialSupply.getD spec.initialSupply
      maxSupply := o.maxSupply.getD spec.maxSupply
      baseMetadataUri := o.baseMetadataUri.getD spec.baseMetadataUri
      features := switchOn o.features spec.features }
  (o.access.map (guarded edited)).getD edited

@[simp] theorem apply_empty (spec : Spec) : ({} : Overrides).apply spec = spec := rfl

end Overrides

/-- Where the spec of a command comes from. -/
structure SpecSource where
  file : Option Path := none
  overrides : Overrides := {}
deriving DecidableEq

namespace SpecSource

/-- The spec before what the command line says about single fields. -/
def base (s : SpecSource) (d : Disk) : Except CommandError Spec :=
  match s.file with
  | none => .ok {}
  | some p => SpecFile.load d p

/-- The spec of a command. -/
def resolve (s : SpecSource) (d : Disk) : Except CommandError Spec :=
  (s.base d).map s.overrides.apply

end SpecSource
end TokenLaunch
