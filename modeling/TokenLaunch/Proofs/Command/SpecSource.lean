/-
# What a command line changes of a spec

A command line goes over a spec field by field.  Nine rules say what becomes of the fields
(`Overridden`): a field is replaced where the command line gives it, a toggle is on where it was on
or is named, and an access model sets both of its flags.  The rules leave nothing open, and what is
worked out is what they say (`overridden_iff`).  The toggles are moved one after the other, and each
is only ever switched on, so it matters which features are named, and not in which order or how often
(`isOn_switchOn`).
-/
import Mathlib.Tactic
import TokenLaunch.Command.SpecSource
import TokenLaunch.Proofs.Storage.Disk

namespace TokenLaunch

/-- The two flags by which a spec asks for an access model: whether it is ownable, and whether it has
roles. -/
def Access.flags : Access → Bool × Bool
  | owner => (true, false)
  | roles => (false, true)
  | unguarded => (false, false)

namespace Overrides

/-! ## Toggles -/

/-- To name one more feature is to switch on its toggle, and no other. -/
lemma isOn_set_true {f : Feature} (hf : f ≠ .uriStorage) (flags : Flags) (g : Feature) :
    (flags.set g true).isOn f = true ↔ flags.isOn f = true ∨ f = g := by
  by_cases hg : g = .uriStorage
  · subst hg
    simp [Flags.set, hf]
  · rw [Flags.isOn_set flags g f true hg]
    split_ifs with heq <;> simp [heq]

/-- A toggle is on in the end if it was on, or its feature is named. -/
lemma isOn_switchOn {f : Feature} (hf : f ≠ .uriStorage) (features : List Feature)
    (flags : Flags) :
    (switchOn features flags).isOn f = true ↔ flags.isOn f = true ∨ f ∈ features := by
  induction features generalizing flags with
  | nil => simp [switchOn]
  | cons g features ih =>
    have hstep : switchOn (g :: features) flags = switchOn features (flags.set g true) := rfl
    rw [hstep, ih, isOn_set_true hf, List.mem_cons, or_assoc]

lemma eq_switchOn_iff {features : List Feature} {flags flags' : Flags} :
    flags' = switchOn features flags ↔
      ∀ f ≠ .uriStorage, (flags'.isOn f = true ↔ flags.isOn f = true ∨ f ∈ features) := by
  constructor
  · rintro rfl f hf
    exact isOn_switchOn hf features flags
  · intro h
    ext f
    by_cases hf : f = .uriStorage
    · -- the feature without a toggle
      subst hf
      rfl
    · rw [Bool.eq_iff_iff, h f hf, isOn_switchOn hf]

/-! ## All fields -/

/-- A field that a command line may give is what it gives, and stays as it was if it gives
nothing. -/
def Replaced {α : Type} (given : Option α) (before after : α) : Prop :=
  (∀ a, given = some a → after = a) ∧ (given = none → after = before)

lemma replaced_iff {α : Type} {given : Option α} {before after : α} :
    Replaced given before after ↔ after = given.getD before := by
  cases given <;> simp [Replaced]

/-- What a spec becomes under what a command line says about it. -/
structure Overridden (o : Overrides) (before after : Spec) : Prop where
  standard : Replaced (o.standard.map Standard.ofText) before.standard after.standard
  name : Replaced o.name before.name after.name
  symbol : Replaced o.symbol before.symbol after.symbol
  decimals : Replaced o.decimals before.decimals after.decimals
  initialSupply : Replaced o.initialSupply before.initialSupply after.initialSupply
  maxSupply : Replaced o.maxSupply before.maxSupply after.maxSupply
  baseMetadataUri : Replaced o.baseMetadataUri before.baseMetadataUri after.baseMetadataUri
  /-- Toggles are only switched on. -/
  toggle : ∀ f ≠ .uriStorage,
    (after.features.isOn f = true ↔ before.features.isOn f = true ∨ f ∈ o.features)
  /-- An access model sets both flags, whatever they were. -/
  access : Replaced (o.access.map Access.flags) (before.ownable, before.roleBased)
    (after.ownable, after.roleBased)

lemma apply_eq (o : Overrides) (spec : Spec) : o.apply spec =
    { standard := (o.standard.map Standard.ofText).getD spec.standard
      name := o.name.getD spec.name
      symbol := o.symbol.getD spec.symbol
      decimals := o.decimals.getD spec.decimals
      initialSupply := o.initialSupply.getD spec.initialSupply
      maxSupply := o.maxSupply.getD spec.maxSupply
      baseMetadataUri := o.baseMetadataUri.getD spec.baseMetadataUri
      features := switchOn o.features spec.features
      ownable := ((o.access.map Access.flags).getD (spec.ownable, spec.roleBased)).1
      roleBased := ((o.access.map Access.flags).getD (spec.ownable, spec.roleBased)).2 } := by
  rw [apply]
  cases o.access with
  | none => rfl
  | some access => cases access <;> rfl

/-- **The rules for the fields say what a spec becomes.** -/
theorem overridden_iff {o : Overrides} {before after : Spec} :
    Overridden o before after ↔ after = o.apply before := by
  rw [apply_eq]
  constructor
  · intro h
    have hfeatures := eq_switchOn_iff.mpr h.toggle
    have haccess := replaced_iff.mp h.access
    rw [Prod.ext_iff] at haccess
    rw [← replaced_iff.mp h.standard, ← replaced_iff.mp h.name, ← replaced_iff.mp h.symbol,
      ← replaced_iff.mp h.decimals, ← replaced_iff.mp h.initialSupply,
      ← replaced_iff.mp h.maxSupply, ← replaced_iff.mp h.baseMetadataUri, ← hfeatures,
      ← haccess.1, ← haccess.2]
  · rintro rfl
    exact {
      standard := replaced_iff.mpr rfl
      name := replaced_iff.mpr rfl
      symbol := replaced_iff.mpr rfl
      decimals := replaced_iff.mpr rfl
      initialSupply := replaced_iff.mpr rfl
      maxSupply := replaced_iff.mpr rfl
      baseMetadataUri := replaced_iff.mpr rfl
      toggle := eq_switchOn_iff.mp rfl
      access := replaced_iff.mpr rfl }

end Overrides

namespace SpecSource

open Overrides

/-- The spec that the command line goes over: that of the file, and the spec that says nothing if no
file is named. -/
inductive StartsFrom (s : SpecSource) (d : Disk) : Spec → Prop
  | nothing (h : s.file = none) : StartsFrom s d {}
  | file {p : Path} {spec : Spec} (h : s.file = some p) (hload : SpecFile.load d p = .ok spec) :
    StartsFrom s d spec

variable {s : SpecSource} {d : Disk} {before : Spec}

lemma StartsFrom.base_eq (h : s.StartsFrom d before) : s.base d = .ok before := by
  cases h with
  | nothing h => rw [base, h]
  | file h hload =>
    rw [base, h]
    exact hload

/-- Only which features are named is of importance. -/
lemma apply_features_congr {o : Overrides} {features : List Feature}
    (h : ∀ f, f ∈ features ↔ f ∈ o.features) (spec : Spec) :
    { o with features := features }.apply spec = o.apply spec := by
  have hswitch : switchOn features spec.features = switchOn o.features spec.features :=
    eq_switchOn_iff.mpr fun f hf => by rw [isOn_switchOn hf, h f]
  rw [apply_eq, apply_eq, hswitch]

/-- **What a command line says goes over the spec of a file, field by field, and over nothing
else.**  A command has exactly the spec that the rules for the fields ask for.  Features can be named
in any order and any number of times.  If the file cannot be loaded, the command fails for that
reason, whatever else the command line says. -/
theorem resolve_overridden (s : SpecSource) (d : Disk) :
    (∀ before, s.StartsFrom d before → ∃ after, s.resolve d = .ok after ∧
      ∀ spec, Overridden s.overrides before spec ↔ spec = after) ∧
    (∀ features, (∀ f, f ∈ features ↔ f ∈ s.overrides.features) →
      resolve { s with overrides := { s.overrides with features } } d = s.resolve d) ∧
    ∀ p e, s.file = some p → SpecFile.load d p = .error e →
      ∀ o, resolve { s with overrides := o } d = .error e := by
  refine ⟨fun before h => ?_, fun features h => ?_, fun p e hfile hload o => ?_⟩
  · refine ⟨s.overrides.apply before, ?_, fun spec => overridden_iff⟩
    rw [resolve, h.base_eq]
    rfl
  · have happly : Overrides.apply { s.overrides with features } = s.overrides.apply :=
      funext (apply_features_congr h)
    rw [resolve, resolve, happly]
    rfl
  · have hbase : base { s with overrides := o } d = .error e := by
      rw [base, hfile]
      exact hload
    rw [resolve, hbase]
    rfl

/-- What the file of a token that is guarded by roles says. -/
def draftText : String :=
  "\x7b\"name\": \"Nova\", \"pausable\": true, \"roles\": true\x7d"

/-- The spec in that file. -/
def draft : Spec :=
  { name := "Nova", features := { pausable := true }, roleBased := true }

/-- A disk with that file. -/
def shelf : Disk where
  entries := [(["nova.JSON"], .file draftText.toByteArray)]

/-- The command line changes the standard and the access model, and names features, one of them
twice and one that was on before. -/
def revision : SpecSource where
  file := some ⟨"./nova.JSON"⟩
  overrides :=
    { standard := some "nft", features := [.votes, .pausable, .votes], access := some .owner }

theorem resolve_overridden_nova :
    (∃ after, revision.resolve shelf = .ok after ∧ after.standard = .known .uniqueAsset ∧
      after.name = "Nova" ∧ after.features.isOn .pausable = true ∧
      after.features.isOn .votes = true ∧ (after.ownable, after.roleBased) = (true, false)) ∧
    resolve { revision with
      overrides := { revision.overrides with features := [.pausable, .votes] } } shelf =
        revision.resolve shelf ∧
    resolve { file := some ⟨"lost.json"⟩, overrides := revision.overrides } shelf =
      .error (.io .notFound) := by
  have hload : SpecFile.load shelf ⟨"./nova.JSON"⟩ = .ok draft := by
    have hread : shelf.readText ⟨"./nova.JSON"⟩ = .ok draftText :=
      Disk.readText_eq_ok_iff_read.mpr rfl
    have hformat : (⟨"./nova.JSON"⟩ : Path).extension?.bind SpecFile.Format.ofExtension? =
        some .json := by decide +kernel
    have hspec : SpecFile.Format.json.spec? draftText = some draft := by decide +kernel
    simp only [SpecFile.load, hread, hformat, hspec]
  have hlost : SpecFile.load shelf ⟨"lost.json"⟩ = .error (.io .notFound) := rfl
  obtain ⟨hover, horder, -⟩ := resolve_overridden revision shelf
  refine ⟨?_, horder _ (fun f => by cases f <;> decide), ?_⟩
  · obtain ⟨after, hresolve, hafter⟩ := hover draft (.file rfl hload)
    have hrules := (hafter after).mpr rfl
    have hstandard : Standard.ofText "nft" = .known .uniqueAsset := by decide +kernel
    exact ⟨after, hresolve, (hrules.standard.1 _ rfl).trans hstandard, hrules.name.2 rfl,
      (hrules.toggle .pausable (by decide)).mpr (.inl rfl),
      (hrules.toggle .votes (by decide)).mpr (.inr (by decide)), hrules.access.1 _ rfl⟩
  · exact (resolve_overridden ⟨some ⟨"lost.json"⟩, {}⟩ shelf).2.2 _ _ rfl hlost _

end SpecSource
end TokenLaunch
