/-
# Text of users stays in literals

A spec has three texts that a user may fill in at will: the name, the symbol and the base URI.
They enter the source as literals, apart from what the symbol passes on to the contract's name and
from whether there is a base URI at all.  So two specs that agree in the rest have sources with the
same code, whatever quotes, backslashes or line feeds their texts hold.

The proof goes through the lines: `Line.code_textChars` reduces code to lines with empty literals,
and part by part of the file those are shown to be the same.
-/
import TokenLaunch.Proofs.Chain
import TokenLaunch.Proofs.Source.Contract

namespace TokenLaunch

open Solidity

namespace Solidity

/-! ## Lines that agree outside literals -/

/-- The lines of a routine outside literals come from its qualifiers and statements. -/
lemma Routine.map_blank_lines {r s : Routine} (hhead : r.head = s.head)
    (hqualifiers : r.qualifiers.map Line.blank = s.qualifiers.map Line.blank)
    (hbody : r.body.map Line.blank = s.body.map Line.blank) (hwrapped : r.wrapped = s.wrapped) :
    r.lines.map Line.blank = s.lines.map Line.blank := by
  have hindent : ∀ (level : ℕ) (lines : List Line), (lines.map (Line.indent level)).map Line.blank =
      (lines.map Line.blank).map (Line.indent level) := by
    intro level lines
    simp [Line.indent, Line.blank, Piece.blank]
  have hinline : ∀ lines : List Line, Line.blank (lines.flatMap fun q => .code " " :: q) =
      (lines.map Line.blank).flatMap fun q => .code " " :: q := by
    intro lines
    simp [Line.blank, Piece.blank, List.map_flatMap, List.flatMap_map]
  have hheader : r.header.map Line.blank = s.header.map Line.blank := by
    unfold Routine.header
    rw [hhead, hwrapped]
    split_ifs
    · simp only [List.map_append, List.map_cons, hindent, hqualifiers]
    · simp only [List.map_cons, Line.indent, Line.blank_cons, Line.blank_append, hinline,
        hqualifiers]
  rw [Routine.lines, Routine.lines, List.map_append, List.map_append, List.map_append,
    List.map_append, hheader, hindent, hindent, hbody]

lemma Line.map_blank_spaced (blocks : List (List Line)) :
    (Line.spaced blocks).map Line.blank = Line.spaced (blocks.map (List.map Line.blank)) := by
  match blocks with
  | [] => rfl
  | [block] => rfl
  | block :: next :: rest =>
    have ih := Line.map_blank_spaced (next :: rest)
    rw [Line.spaced_cons_cons, List.map_append, List.map_cons, ih]
    rfl

/-- The lines of a file outside literals come from its names and its members. -/
lemma SourceFile.map_blank_lines {f g : SourceFile} (himports : f.imports = g.imports)
    (hname : f.name = g.name) (hparents : f.parents = g.parents)
    (hmembers : f.members.map (fun m => m.lines.map Line.blank) =
      g.members.map fun m => m.lines.map Line.blank) :
    f.lines.map Line.blank = g.lines.map Line.blank := by
  have hdeclaration : f.declaration = g.declaration := by
    rw [declaration, declaration, hname, hparents]
  have hspaced : (Line.spaced (f.members.map Member.lines)).map Line.blank =
      (Line.spaced (g.members.map Member.lines)).map Line.blank := by
    rw [Line.map_blank_spaced, Line.map_blank_spaced, List.map_map, List.map_map]
    exact congrArg Line.spaced hmembers
  rw [lines, lines, himports, hdeclaration]
  simp only [List.map_append, hspaced]

/-- Files whose lines agree outside literals have the same code. -/
lemma SourceFile.codeOf_text_eq {f g : SourceFile} (hf : f.Plain) (hg : g.Plain)
    (h : f.lines.map Line.blank = g.lines.map Line.blank) : codeOf f.text = codeOf g.text := by
  rw [codeOf, codeOf, SourceFile.text, SourceFile.text, Line.text, Line.text, String.toList_ofList,
    String.toList_ofList, Line.code_textChars hf.unquoted, Line.code_textChars hg.unquoted, h]

end Solidity

/-! ## Specs that differ in texts -/

namespace Normalized

/-- Normalized specs that differ in texts of users only: their contracts have one name, and both
have a base URI or neither has. -/
structure SameShape (k : Kind) (n m : Normalized) : Prop where
  standard : n.standard = m.standard
  decimals : n.decimals = m.decimals
  initialSupply : n.initialSupply = m.initialSupply
  features : n.features = m.features
  access : n.access = m.access
  uri : n.baseMetadataUri.isEmpty = m.baseMetadataUri.isEmpty
  contract : Identifier.ofSymbol n.symbol k.catalogue.suffix =
    Identifier.ofSymbol m.symbol k.catalogue.suffix

namespace SameShape

variable {k : Kind} {n m : Normalized} (h : SameShape k n m)

include h

lemma has_eq (f : Feature) : n.has f = m.has f := by
  cases f <;> simp [has, h.standard, h.features, h.uri]

lemma chain_eq : n.chain k = m.chain k :=
  chain_congr (has_eq h) h.access

/-- The blueprints differ in the constructor calls only. -/
lemma blueprintFor_eq : m.blueprintFor k =
    { n.blueprintFor k with constructorCalls := (m.blueprintFor k).constructorCalls } :=
  blueprintFor_congr (has_eq h) h.access fun _ => h.initialSupply

/-- The constructor calls are the same outside literals. -/
lemma constructorCalls_eq :
    ((n.blueprintFor k).constructorCalls.map Layout.constructorCall).map Line.blank =
      ((m.blueprintFor k).constructorCalls.map Layout.constructorCall).map Line.blank := by
  have hcall : ∀ c, ((n.constructorCall? c).map Layout.constructorCall).map Line.blank =
      ((m.constructorCall? c).map Layout.constructorCall).map Line.blank := by
    intro c
    cases c <;> rfl
  simp only [blueprintFor, List.map_filterMap, hcall, chain_eq h]

lemma creation_lines : (Layout.creation k (n.blueprintFor k)).lines.map Line.blank =
    (Layout.creation k (m.blueprintFor k)).lines.map Line.blank := by
  refine Routine.map_blank_lines rfl (constructorCalls_eq h) ?_ rfl
  rw [blueprintFor_eq h]
  rfl

lemma fixed_lines : (Layout.fixedRoutines k n).map (fun r => r.lines.map Line.blank) =
    (Layout.fixedRoutines k m).map fun r => r.lines.map Line.blank := by
  cases k with
  | fungible => rw [Layout.fixedRoutines, Layout.fixedRoutines, h.decimals]
  | uniqueAsset =>
    have hlines : (Layout.baseUriFunction n.baseMetadataUri).lines.map Line.blank =
        (Layout.baseUriFunction m.baseMetadataUri).lines.map Line.blank :=
      Routine.map_blank_lines rfl rfl rfl rfl
    exact congrArg (fun lines => [lines]) hlines
  | multiAsset => rfl

lemma members_lines :
    (Layout.members k (n.blueprintFor k) n).map (fun r => r.lines.map Line.blank) =
      (Layout.members k (m.blueprintFor k) m).map fun r => r.lines.map Line.blank := by
  have hcreation :
      [Member.routine (Layout.creation k (n.blueprintFor k))].map (fun r => r.lines.map Line.blank) =
        [Member.routine (Layout.creation k (m.blueprintFor k))].map fun r => r.lines.map Line.blank :=
    congrArg (fun lines => [lines]) (creation_lines h)
  have hfixed : ((Layout.fixedRoutines k n).map Member.routine).map
      (fun r => r.lines.map Line.blank) = ((Layout.fixedRoutines k m).map Member.routine).map
        fun r => r.lines.map Line.blank := by
    rw [List.map_map, List.map_map]
    exact fixed_lines h
  rw [Layout.members, Layout.members]
  simp only [List.map_append, hcreation, hfixed]
  -- the other members come from parts of the blueprints that are the same
  rw [blueprintFor_eq h]
  rfl

lemma file_lines : (Layout.file k (n.blueprintFor k) n).lines.map Line.blank =
    (Layout.file k (m.blueprintFor k) m).lines.map Line.blank := by
  refine SourceFile.map_blank_lines ?_ h.contract ?_ (members_lines h)
  · rw [blueprintFor_eq h]
    rfl
  · rw [blueprintFor_eq h]
    rfl

end SameShape

end Normalized

/-- **No text of users escapes from its literal.**  Two specs of one kind that agree but for name,
symbol and base URI have sources with the same code, as soon as their symbols make one contract
name and both have a base URI or neither has. -/
theorem Spec.codeOf_generate_eq (spec : Spec) (k : Kind) (name symbol uri : String)
    (hstandard : spec.standard = .known k)
    (hcontract : Identifier.ofSymbol spec.symbol k.catalogue.suffix =
      Identifier.ofSymbol symbol k.catalogue.suffix)
    (huri : spec.baseMetadataUri = "" ↔ uri = "") :
    ∃ a b, spec.generate = .ok a ∧
      { spec with name := name, symbol := symbol, baseMetadataUri := uri }.generate = .ok b ∧
      codeOf a = codeOf b := by
  set other : Spec := { spec with name := name, symbol := symbol, baseMetadataUri := uri }
    with hother
  have hshape : Normalized.SameShape k spec.normalize other.normalize := by
    refine ⟨rfl, rfl, rfl, rfl, rfl, ?_, hcontract⟩
    have hfungible : other.isFungible = spec.isFungible := rfl
    by_cases h : spec.isFungible = true
    · simp [Spec.normalize, hfungible, h]
    · rw [Bool.eq_iff_iff]
      simpa [Spec.normalize, hfungible, h] using huri
  refine ⟨_, _, Spec.generate_known hstandard, Spec.generate_known hstandard, ?_⟩
  exact SourceFile.codeOf_text_eq (Layout.plain_file (Spec.sound_blueprintFor _ k))
    (Layout.plain_file (Spec.sound_blueprintFor _ k)) (Normalized.SameShape.file_lines hshape)

/-- A name that tries to close its literal and to go on with code. -/
theorem Spec.codeOf_generate_eq_hostile :
    ∃ a b, (Spec.named (.known .fungible) "Coin" "C").generate = .ok a ∧
      (Spec.named (.known .fungible) "\", \"\") \x7b\x7d //\\" "C\"\n").generate = .ok b ∧
      codeOf a = codeOf b :=
  Spec.codeOf_generate_eq (Spec.named (.known .fungible) "Coin" "C") .fungible _ _ "" rfl
    (by decide) Iff.rfl

end TokenLaunch
