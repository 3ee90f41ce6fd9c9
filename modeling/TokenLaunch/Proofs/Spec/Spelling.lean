/-
# Spellings of a spec

A spec is written as a record, and one spec can be written in many ways: the members in any order,
two of them under either of two names, any of them left out if it has its default, and others
between them that nobody asks for.  What a record describes is found field by field
(`Spec.ofMembers?_eq_some_iff`), and the fields share no names (`Spec.Field.disjoint_names`), so
what becomes of one member is no matter for the other fields.  This holds for every data format;
JSON is also written, and what is written is read back (`Spec.json_faithful`).
-/
import TokenLaunch.Command.SpecFile
import TokenLaunch.Contract.Bundle
import TokenLaunch.Proofs.Dashboard.Stored

namespace TokenLaunch
namespace Spec

open Json

/-! ## The fields -/

/-- The fields of a spec that is written down. -/
inductive Field
  | standard
  | name
  | symbol
  | decimals
  | initialSupply
  | maxSupply
  | baseMetadataUri
  | ownable
  | roleBased
  | toggle (f : Feature)
deriving DecidableEq

namespace Field

def all : List Field :=
  [standard, name, symbol, decimals, initialSupply, maxSupply, baseMetadataUri, ownable,
    roleBased] ++ Feature.all.map toggle

lemma mem_all (f : Field) : f ∈ all := by
  cases f with
  | toggle g => exact List.mem_append_right _ (List.mem_map_of_mem (Feature.mem_all g))
  | _ => exact List.mem_append_left _ (by decide)

/-- The names that a field goes by.  A feature without toggle has none. -/
def names : Field → List String
  | standard => ["standard"]
  | name => ["name"]
  | symbol => ["symbol"]
  | decimals => ["decimals"]
  | initialSupply => ["initialSupply"]
  | maxSupply => ["maxSupply"]
  | baseMetadataUri => ["baseMetadataUri", "baseUri"]
  | ownable => ["ownable"]
  | roleBased => ["roleBased", "roles"]
  | toggle .mintable => ["mintable"]
  | toggle .burnable => ["burnable"]
  | toggle .pausable => ["pausable"]
  | toggle .permit => ["permit"]
  | toggle .votes => ["votes"]
  | toggle .flashMint => ["flashMint"]
  | toggle .snapshots => ["snapshots"]
  | toggle .uriStorage => []

lemma flatMap_names : all.flatMap names = fieldNames.flatten ++ toggleNames := rfl

/-- No name is the name of two fields. -/
lemma disjoint_names {f g : Field} (h : f ≠ g) : f.names.Disjoint g.names := by
  have hnodup : (all.flatMap names).Nodup := by
    rw [flatMap_names]
    decide
  have hsymm : Std.Symm (Function.onFun List.Disjoint names) := ⟨fun _ _ h => h.symm⟩
  exact (List.nodup_flatMap.mp hnodup).2.forall (mem_all f) (mem_all g) h

/-- A name is unknown if it is the name of no field. -/
lemma isUnknownName_iff {n : String} : isUnknownName n = true ↔ ∀ f : Field, n ∉ f.names := by
  have hmem : (∃ f : Field, n ∈ f.names) ↔ n ∈ fieldNames.flatten ∨ n ∈ toggleNames := by
    rw [← List.mem_append, ← flatMap_names, List.mem_flatMap]
    exact exists_congr fun f => (and_iff_right (mem_all f)).symm
  rw [← not_exists, hmem, isUnknownName, Bool.not_eq_true', Bool.or_eq_false_iff,
    List.contains_eq_mem, List.contains_eq_mem, decide_eq_false_iff_not, decide_eq_false_iff_not,
    not_or]

variable {v : Type}

/-- What a spec has in a field is what the value says that was found, and the default if there was
none. -/
def Means (r : FieldReader v) (found : Option v) (spec : Spec) : Field → Prop
  | standard => found.elim (some ({} : Spec).standard) (fun j => (r.text? j).map Standard.ofText) =
      some spec.standard
  | name => found.elim (some ({} : Spec).name) r.text? = some spec.name
  | symbol => found.elim (some ({} : Spec).symbol) r.text? = some spec.symbol
  | decimals => found.elim (some ({} : Spec).decimals) r.byte? = some spec.decimals
  | initialSupply => found.elim (some ({} : Spec).initialSupply) r.text? = some spec.initialSupply
  | maxSupply => found.elim (some ({} : Spec).maxSupply) r.text? = some spec.maxSupply
  | baseMetadataUri =>
    found.elim (some ({} : Spec).baseMetadataUri) r.text? = some spec.baseMetadataUri
  | ownable => found.elim (some ({} : Spec).ownable) r.flag? = some spec.ownable
  | roleBased => found.elim (some ({} : Spec).roleBased) r.flag? = some spec.roleBased
  | toggle f =>
    found.elim (some (({} : Spec).features.isOn f)) r.toggle? = some (spec.features.isOn f)

/-- A spec with the default in one field. -/
def reset (spec : Spec) : Field → Spec
  | standard => { spec with standard := ({} : Spec).standard }
  | name => { spec with name := ({} : Spec).name }
  | symbol => { spec with symbol := ({} : Spec).symbol }
  | decimals => { spec with decimals := ({} : Spec).decimals }
  | initialSupply => { spec with initialSupply := ({} : Spec).initialSupply }
  | maxSupply => { spec with maxSupply := ({} : Spec).maxSupply }
  | baseMetadataUri => { spec with baseMetadataUri := ({} : Spec).baseMetadataUri }
  | ownable => { spec with ownable := ({} : Spec).ownable }
  | roleBased => { spec with roleBased := ({} : Spec).roleBased }
  | toggle f => { spec with features := spec.features.set f (({} : Spec).features.isOn f) }

lemma isOn_set_default (flags : Flags) (f g : Feature) :
    (flags.set f (({} : Spec).features.isOn f)).isOn g =
      if g = f then ({} : Spec).features.isOn f else flags.isOn g := by
  by_cases h : f = .uriStorage
  · subst h
    cases g <;> rfl
  · exact Flags.isOn_set flags f g _ h

lemma means_reset_self {r : FieldReader v} (spec : Spec) (f : Field) :
    Means r none (reset spec f) f := by
  cases f with
  | toggle f =>
    rw [Means, reset, isOn_set_default, if_pos rfl]
    rfl
  | _ => rfl

lemma means_reset_of_ne {r : FieldReader v} {found : Option v} {spec : Spec} {f g : Field}
    (h : g ≠ f) : Means r found (reset spec f) g ↔ Means r found spec g := by
  cases g with
  | toggle g =>
    cases f with
    | toggle f =>
      have hne : g ≠ f := fun heq => h (congrArg toggle heq)
      rw [Means, Means, reset, isOn_set_default, if_neg hne]
    | _ => exact Iff.rfl
  | _ => cases f <;> first | exact absurd rfl h | exact Iff.rfl

end Field

variable {v : Type} {r : FieldReader v} {ms ms' : List (String × v)} {spec : Spec}

/-- The values under unknown names can be kept aside. -/
def Keepable (r : FieldReader v) (ms : List (String × v)) : Prop :=
  ∀ m ∈ ms, isUnknownName m.1 = true → r.isKeepable m.2 = true

lemma flagsOfMembers?_eq_some_iff {flags : Flags} :
    flagsOfMembers? r ms = some flags ↔
      ∀ f, Fields.optional? (Field.toggle f).names r.toggle? (({} : Spec).features.isOn f) ms =
        some (flags.isOn f) := by
  constructor
  · intro h f
    simp only [flagsOfMembers?, Option.bind_eq_bind, Option.bind_eq_some_iff, Option.pure_def,
      Option.some.injEq] at h
    obtain ⟨mintable, hmintable, burnable, hburnable, pausable, hpausable, permit, hpermit,
      votes, hvotes, flashMint, hflashMint, snapshots, hsnapshots, rfl⟩ := h
    cases f with
    | uriStorage => exact Fields.optional?_of_not_mem fun _ _ => List.not_mem_nil
    | _ => assumption
  · intro h
    have hmintable : Fields.optional? ["mintable"] r.toggle? false ms = some flags.mintable :=
      h .mintable
    have hburnable : Fields.optional? ["burnable"] r.toggle? false ms = some flags.burnable :=
      h .burnable
    have hpausable : Fields.optional? ["pausable"] r.toggle? false ms = some flags.pausable :=
      h .pausable
    have hpermit : Fields.optional? ["permit"] r.toggle? false ms = some flags.permit := h .permit
    have hvotes : Fields.optional? ["votes"] r.toggle? false ms = some flags.votes := h .votes
    have hflashMint : Fields.optional? ["flashMint"] r.toggle? false ms = some flags.flashMint :=
      h .flashMint
    have hsnapshots : Fields.optional? ["snapshots"] r.toggle? false ms = some flags.snapshots :=
      h .snapshots
    simp only [flagsOfMembers?, hmintable, hburnable, hpausable, hpermit, hvotes, hflashMint,
      hsnapshots, Option.bind_eq_bind, Option.bind_some, Option.pure_def]

/-- **The members of a record describe a spec if each of its fields is what they say.** -/
theorem ofMembers?_eq_some_iff :
    ofMembers? r ms = some spec ↔
      (∀ f : Field, ∃ found, Fields.lookup? f.names ms = some found ∧ f.Means r found spec) ∧
        Keepable r ms := by
  have hkeep : ((ms.filter fun m => isUnknownName m.1).all fun m => r.isKeepable m.2) = true ↔
      Keepable r ms := by
    rw [List.all_eq_true, Keepable]
    exact ⟨fun h m hm hn => h m (List.mem_filter.mpr ⟨hm, hn⟩),
      fun h m hm => h m (List.mem_filter.mp hm).1 (List.mem_filter.mp hm).2⟩
  constructor
  · intro h
    simp only [ofMembers?, Option.bind_eq_bind, Option.bind_eq_some_iff] at h
    obtain ⟨standard, hstandard, name, hname, symbol, hsymbol, decimals, hdecimals,
      initialSupply, hinitialSupply, maxSupply, hmaxSupply, baseMetadataUri, hbaseMetadataUri,
      features, hfeatures, ownable, hownable, roleBased, hroleBased, h⟩ := h
    split at h
    case isFalse => cases h
    case isTrue hkept =>
      obtain rfl := Option.some.inj h
      refine ⟨fun f => ?_, hkeep.mp hkept⟩
      cases f with
      | toggle f =>
        exact Fields.optional?_eq_some_iff.mp (flagsOfMembers?_eq_some_iff.mp hfeatures f)
      | _ => apply Fields.optional?_eq_some_iff.mp; assumption
  · rintro ⟨hfields, hkept⟩
    have hflags : flagsOfMembers? r ms = some spec.features :=
      flagsOfMembers?_eq_some_iff.mpr fun f =>
        Fields.optional?_eq_some_iff.mpr (hfields (.toggle f))
    have hstandard : Fields.optional? ["standard"] (fun j => (r.text? j).map Standard.ofText)
        (.known .fungible) ms =
        some spec.standard := Fields.optional?_eq_some_iff.mpr (hfields .standard)
    have hname : Fields.optional? ["name"] r.text? "" ms =
        some spec.name := Fields.optional?_eq_some_iff.mpr (hfields .name)
    have hsymbol : Fields.optional? ["symbol"] r.text? "" ms =
        some spec.symbol := Fields.optional?_eq_some_iff.mpr (hfields .symbol)
    have hdecimals : Fields.optional? ["decimals"] r.byte? 18 ms =
        some spec.decimals := Fields.optional?_eq_some_iff.mpr (hfields .decimals)
    have hinitialSupply : Fields.optional? ["initialSupply"] r.text? "1000000" ms =
        some spec.initialSupply := Fields.optional?_eq_some_iff.mpr (hfields .initialSupply)
    have hmaxSupply : Fields.optional? ["maxSupply"] r.text? "" ms =
        some spec.maxSupply := Fields.optional?_eq_some_iff.mpr (hfields .maxSupply)
    have hbaseMetadataUri : Fields.optional? ["baseMetadataUri", "baseUri"] r.text? "" ms =
        some spec.baseMetadataUri := Fields.optional?_eq_some_iff.mpr (hfields .baseMetadataUri)
    have hownable : Fields.optional? ["ownable"] r.flag? true ms =
        some spec.ownable := Fields.optional?_eq_some_iff.mpr (hfields .ownable)
    have hroleBased : Fields.optional? ["roleBased", "roles"] r.flag? false ms =
        some spec.roleBased := Fields.optional?_eq_some_iff.mpr (hfields .roleBased)
    simp only [ofMembers?, hflags, hstandard, hname, hsymbol, hdecimals, hinitialSupply, hmaxSupply,
      hbaseMetadataUri, hownable, hroleBased, Option.bind_eq_bind, Option.bind_some]
    rw [if_pos (hkeep.mpr hkept)]
    rfl

/-! ## Writing a spec and reading it back -/

/-- A spec is read back from its JSON form, with its standard read anew. -/
lemma ofJson?_toJson (spec : Spec) :
    ofJson? spec.toJson = some { spec with standard := Standard.ofText spec.standard.text } := by
  rw [toJson, ofJson?, ofMembers?_eq_some_iff]
  constructor
  · intro f
    cases f with
    | toggle f =>
      cases f <;> simp [Field.names, Fields.lookup?, Field.Means, jsonFields, bool?, Flags.isOn]
    | _ =>
      simp [Field.names, Fields.lookup?, Field.Means, jsonFields, bool?, Json.text?,
        Record.byte?_natural]
  · simp [Keepable, isUnknownName, fieldNames, toggleNames]

lemma isReadable_toJson (spec : Spec) : spec.toJson.isReadable = true := by
  simp [toJson, isReadable, membersReadable, natural]

/-! ## Other spellings of a record -/

/-- The second names of fields, after the first ones. -/
def secondNames : List (String × String) :=
  [("baseMetadataUri", "baseUri"), ("roleBased", "roles")]

lemma mem_names_iff_of_mem_secondNames {n n' : String} (h : (n, n') ∈ secondNames) (f : Field) :
    n ∈ f.names ↔ n' ∈ f.names := by
  simp only [secondNames, List.mem_cons, Prod.mk.injEq, List.not_mem_nil, or_false] at h
  obtain ⟨rfl, rfl⟩ | ⟨rfl, rfl⟩ := h
  all_goals
    cases f with
    | toggle f => cases f <;> decide
    | _ => decide

/-- A record is spelled in another way: its members change places, one of them goes by its second
name, or there is one more under an unknown name, with a value that can be kept aside. -/
inductive Respelled (r : FieldReader v) : List (String × v) → List (String × v) → Prop
  | reorder {ms ms' : List (String × v)} (h : ms.Perm ms') : Respelled r ms ms'
  | rename {n n' : String} (front : List (String × v)) (x : v) (rest : List (String × v))
      (h : (n, n') ∈ secondNames) :
      Respelled r (front ++ (n, x) :: rest) (front ++ (n', x) :: rest)
  | insert {n : String} {x : v} (front rest : List (String × v))
      (hn : isUnknownName n = true) (hx : r.isKeepable x = true) :
      Respelled r (front ++ rest) (front ++ (n, x) :: rest)

/-- The values under the names of a field stay the same. -/
lemma Respelled.under_perm (h : Respelled r ms ms') (f : Field) :
    (Fields.under f.names ms').Perm (Fields.under f.names ms) := by
  cases h with
  | reorder h => exact Fields.under_perm h.symm
  | @rename n n' front x rest h =>
    rw [Fields.under_append, Fields.under_append]
    by_cases hn : n ∈ f.names
    · have hn' := (mem_names_iff_of_mem_secondNames h f).mp hn
      rw [Fields.under_cons_of_mem hn, Fields.under_cons_of_mem hn']
    · have hn' := mt (mem_names_iff_of_mem_secondNames h f).mpr hn
      rw [Fields.under_cons_of_not_mem hn, Fields.under_cons_of_not_mem hn']
  | insert front rest hn hx =>
    rw [Fields.under_append, Fields.under_append,
      Fields.under_cons_of_not_mem (Field.isUnknownName_iff.mp hn f)]

lemma Respelled.keepable_iff (h : Respelled r ms ms') : Keepable r ms' ↔ Keepable r ms := by
  cases h with
  | reorder h => exact forall_congr' fun m => by rw [h.mem_iff]
  | @rename n n' front x rest h =>
    have hn : isUnknownName n = isUnknownName n' := by
      rw [Bool.eq_iff_iff, Field.isUnknownName_iff, Field.isUnknownName_iff]
      exact forall_congr' fun f => not_congr (mem_names_iff_of_mem_secondNames h f)
    simp only [Keepable, List.forall_mem_append, List.forall_mem_cons, hn]
  | insert front rest hn hx =>
    simp only [Keepable, List.forall_mem_append, List.forall_mem_cons, hx, imp_true_iff, true_and]

/-- One change of the spelling does not change what is read. -/
lemma Respelled.ofMembers?_eq (h : Respelled r ms ms') : ofMembers? r ms' = ofMembers? r ms := by
  ext spec
  rw [ofMembers?_eq_some_iff, ofMembers?_eq_some_iff, h.keepable_iff]
  simp only [Fields.lookup?_congr (h.under_perm _)]

/-- **The spelling of a record does not matter.** -/
theorem ofMembers?_respelled (h : Relation.ReflTransGen (Respelled r) ms ms') :
    ofMembers? r ms' = ofMembers? r ms := by
  induction h with
  | refl => rfl
  | tail _ hstep ih => rw [hstep.ofMembers?_eq, ih]

/-! ## Missing fields -/

/-- **Without one of its fields, a record describes the same spec but for the default there.** -/
theorem ofMembers?_without (h : ofMembers? r ms = some spec) (f : Field) :
    ofMembers? r (Fields.without f.names ms) = some (f.reset spec) := by
  obtain ⟨hfields, hkept⟩ := ofMembers?_eq_some_iff.mp h
  refine ofMembers?_eq_some_iff.mpr ⟨fun g => ?_, fun m hm => ?_⟩
  · by_cases hg : g = f
    · subst hg
      refine ⟨none, ?_, Field.means_reset_self spec g⟩
      rw [Fields.lookup?_eq_sole?, Fields.under_without_self]
      rfl
    · obtain ⟨found, hfound, hmeans⟩ := hfields g
      refine ⟨found, ?_, (Field.means_reset_of_ne hg).mpr hmeans⟩
      rw [Fields.lookup?_eq_sole?, Fields.under_without_of_disjoint (Field.disjoint_names hg),
        ← Fields.lookup?_eq_sole?, hfound]
  · exact hkept m (List.mem_filter.mp hm).1

/-- A record without a field describes a spec with the default there. -/
lemma reset_of_not_mem (h : ofMembers? r ms = some spec) {f : Field}
    (hmissing : ∀ m ∈ ms, m.1 ∉ f.names) : f.reset spec = spec := by
  have hwithout : Fields.without f.names ms = ms := by
    rw [Fields.without, List.filter_eq_self]
    intro m hm
    simpa using hmissing m hm
  have hreset := ofMembers?_without h f
  rw [hwithout, h] at hreset
  exact (Option.some.inj hreset).symm

/-! ## JSON specs -/

lemma ofJson?_object (ms : List (String × Json)) :
    ofJson? (.object ms) = ofMembers? jsonFields ms := rfl

lemma setStandard_eq_iff {s : Standard} :
    { spec with standard := s } = spec ↔ s = spec.standard := by
  constructor
  · intro h
    exact congrArg Spec.standard h
  · intro h
    rw [h]

/-- Texts, booleans and null can be kept aside under any name that nobody knows. -/
lemma isKeepable_jsonFields :
    (∀ s, jsonFields.isKeepable (.string s) = true) ∧
      (∀ b, jsonFields.isKeepable (.bool b) = true) ∧ jsonFields.isKeepable .null = true := by
  simp only [jsonFields, isKeepable, implies_true, and_self]

/-- **Specs survive being written as JSON, and a spec in JSON can be written in many ways.**
A spec is read back from what is written for it, exactly if its standard is one that some text
reads as; so it is from the text of a file.  The members of the object can stand in any order, those
with two names can go by either, and others can stand among them under unknown names, texts,
booleans and null in any case.  A field that is missing has its default, and no other field
changes. -/
theorem json_faithful :
    (∀ spec : Spec,
      (ofJson? spec.toJson = some spec ↔ ∃ raw, Standard.ofText raw = spec.standard) ∧
        SpecFile.Format.json.spec? spec.toJson.pretty = ofJson? spec.toJson) ∧
    (∀ ms ms', Relation.ReflTransGen (Respelled jsonFields) ms ms' →
      ofJson? (.object ms') = ofJson? (.object ms) ∧
        (ofJson? (.object ms')).map generate = (ofJson? (.object ms)).map generate) ∧
    ((∀ s, jsonFields.isKeepable (.string s) = true) ∧
      (∀ b, jsonFields.isKeepable (.bool b) = true) ∧ jsonFields.isKeepable .null = true) ∧
    ∀ ms spec, ofJson? (.object ms) = some spec → ∀ f : Field,
      ofJson? (.object (Fields.without f.names ms)) = some (f.reset spec) ∧
        ((∀ m ∈ ms, m.1 ∉ f.names) → f.reset spec = spec) := by
  simp only [ofJson?_object]
  refine ⟨fun spec => ⟨?_, ?_⟩, fun ms ms' h => ?_, isKeepable_jsonFields,
    fun ms spec h f => ⟨ofMembers?_without h f, reset_of_not_mem h⟩⟩
  · rw [ofJson?_toJson, Option.some_inj, setStandard_eq_iff, Standard.ofText_text_iff]
  · rw [SpecFile.Format.spec?, parse?_pretty spec.isReadable_toJson, Option.bind_some]
  · have hsame := ofMembers?_respelled h
    exact ⟨hsame, congrArg (Option.map generate) hsame⟩

/-- A unique asset guarded by roles, in the first and in other spellings. -/
def badge : List (String × Json) :=
  [("standard", .string "ERC721"), ("name", .string "Badge"), ("roleBased", .bool true),
    ("pausable", .bool true)]

/-- The same with a second name. -/
def badgeRenamed : List (String × Json) :=
  [("standard", .string "ERC721"), ("name", .string "Badge"), ("roles", .bool true),
    ("pausable", .bool true)]

/-- The same with a second name, the other way around, and a member that nobody asks for. -/
def badgeRespelled : List (String × Json) :=
  [("pausable", .bool true), ("roles", .bool true), ("name", .string "Badge"), ("later", .null),
    ("standard", .string "ERC721")]

theorem json_faithful_badge :
    ofJson? (.object badgeRespelled) = ofJson? (.object badge) ∧
      ∃ spec, ofJson? (.object badge) = some spec ∧
        ofJson? (.object (Fields.without ["pausable"] badge)) =
          some { spec with features := spec.features.set .pausable false } := by
  have hrename : Respelled jsonFields badge badgeRenamed :=
    .rename (n := "roleBased") (badge.take 2) (Json.bool true) (badge.drop 3) (by decide)
  have hreorder : Respelled jsonFields badgeRenamed badgeRenamed.reverse :=
    .reorder badgeRenamed.reverse_perm.symm
  have hinsert : Respelled jsonFields badgeRenamed.reverse badgeRespelled :=
    .insert (n := "later") (x := Json.null) (badgeRespelled.take 3) (badgeRespelled.drop 4)
      (by decide) rfl
  refine ⟨(json_faithful.2.1 badge badgeRespelled
    (((Relation.ReflTransGen.single hrename).tail hreorder).tail hinsert)).1, ?_⟩
  have hspec : ∃ spec, ofJson? (.object badge) = some spec := by
    rw [← Option.isSome_iff_exists]
    decide +kernel
  obtain ⟨spec, hspec⟩ := hspec
  exact ⟨spec, hspec, (json_faithful.2.2.2 badge spec hspec (.toggle .pausable)).1⟩

end Spec
end TokenLaunch
