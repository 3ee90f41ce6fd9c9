/-
# Imports and constructor calls of a contract

A contract imports what its components need, each file once and in the order in which the
components need them first, and its constructor calls the constructors of those components that take
arguments, with the texts of its spec (`Spec.wired_source`).

Both are read off the source: the import lines line by line, and the constructor's header token by
token, with the literals among its arguments decoded.
-/
import TokenLaunch.Proofs.Source.Imports
import TokenLaunch.Proofs.Source.Lexeme

namespace TokenLaunch

open Solidity

/-! ## Imports -/

/-- A text whose import lines have these paths, for components that it inherits in this order. -/
structure ImportsFor (text : String) (parents : List Component) (paths : List String) : Prop where
  lines : importLines text = paths.map fun path => "import \"" ++ path ++ "\";"
  /-- No line stands twice. -/
  distinct : (importLines text).Nodup
  /-- The files stand in the order in which the components need them first. -/
  ordered : paths.Pairwise fun a b => (parents.flatMap Component.importPaths).idxOf a <
    (parents.flatMap Component.importPaths).idxOf b
  /-- What is imported is what some component needs. -/
  needed : ∀ path, path ∈ paths ↔ ∃ c ∈ parents, path ∈ c.importPaths
  /-- For every component there is one import of a file that bears its name. -/
  named : ∀ c ∈ parents, paths.filter (fun path => fileName path = c.name ++ ".sol") = [c.ownPath]

/-- Among files without repetition that components need, each component's own stands once. -/
lemma Component.filter_fileName {parents : List Component} {paths : List String}
    (hnodup : paths.Nodup) (hneeded : ∀ path, path ∈ paths ↔ ∃ c ∈ parents, path ∈ c.importPaths)
    {c : Component} (hc : c ∈ parents) :
    paths.filter (fun path => fileName path = c.name ++ ".sol") = [c.ownPath] := by
  have hown : c.ownPath ∈ paths := (hneeded _).mpr ⟨c, hc, c.ownPath_mem⟩
  have hfile : ∀ path ∈ paths, decide (fileName path = c.name ++ ".sol") =
      decide (path = c.ownPath) := by
    intro path hpath
    obtain ⟨d, -, hd⟩ := (hneeded path).mp hpath
    exact decide_eq_decide.mpr (Component.fileName_eq_iff hd)
  rw [List.filter_congr hfile, List.filter_eq, List.count_eq_one_of_mem hnodup hown]
  rfl

namespace Layout

variable {k : Kind} {n : Normalized}

/-- **The imports of a text** are what its components need. -/
theorem importsFor_file (h : (n.blueprintFor k).Sound) :
    ImportsFor (file k (n.blueprintFor k) n).text (n.chain k) (n.blueprintFor k).imports := by
  have hneeded : ∀ path, path ∈ (n.blueprintFor k).imports ↔
      ∃ c ∈ n.chain k, path ∈ c.importPaths := fun path =>
    Blueprint.mem_firstOccurrences.trans List.mem_flatMap
  have hnodup : (n.blueprintFor k).imports.Nodup := Blueprint.nodup_firstOccurrences _
  have hquote : ∀ path ∈ (n.blueprintFor k).imports,
      "import " ++ Literal.quote path ++ ";" = "import \"" ++ path ++ "\";" := by
    intro path hpath
    obtain ⟨c, -, hc⟩ := (hneeded path).mp hpath
    have hbody : Literal.body path.toList = path.toList :=
      Literal.body_of_bare (c.bare_importPaths path hc)
    apply String.toList_injective
    simp [Literal.quoteChars, hbody]
  have hlines : importLines (file k (n.blueprintFor k) n).text =
      (n.blueprintFor k).imports.map fun path => "import \"" ++ path ++ "\";" := by
    rw [SourceFile.importLines_text (SourceFile.clean_lines (plain_file h) (tidy_members h))]
    exact List.map_congr_left hquote
  have hinjective : Function.Injective fun path => "import \"" ++ path ++ "\";" := by
    intro a b heq
    have hchars := congrArg String.toList heq
    simp only [String.toList_append, List.append_assoc, List.append_cancel_left_eq,
      List.append_cancel_right_eq] at hchars
    exact String.toList_injective hchars
  exact ⟨hlines, hlines ▸ hnodup.map hinjective, Blueprint.pairwise_firstOccurrences _, hneeded,
    fun c hc => Component.filter_fileName hnodup hneeded hc⟩

end Layout

/-! ## The constructor -/

namespace Spec

/-- A source whose contract inherits these components in this order, with its imports and the header
of its constructor. -/
structure Wired (spec : Spec) (k : Kind) (text : String) (parents : List Component) : Prop where
  inherits : contracts (tokensOf text) =
    [(Identifier.ofSymbol spec.symbol k.catalogue.suffix, listing (parents.map Component.name))]
  distinct : parents.Nodup
  /-- The base comes first. -/
  base : parents.head? = some k.catalogue.base
  imports : ∃ paths, ImportsFor text parents paths
  /-- The constructors that are called are those that take arguments, each called once and in the
  order of inheritance, and what is decoded of their arguments is what literals keep of the texts of
  the spec. -/
  calls : ∃ header, Lexeme.constructorHeaders (lexemesOf text) = [header] ∧
    Lexeme.calls header = (parents.filter Component.takesArguments).map
      fun c => (c.name, some ((spec.arguments c).map Argument.kept))
  /-- The constructor of the base is called first, then two others where they are inherited. -/
  order : parents.filter Component.takesArguments = k.catalogue.base ::
    [Component.erc20Permit, .ownable].filter fun c => decide (c ∈ parents)

/-- **Imports and constructor calls are complete, and there are no others.** -/
theorem wired_source (spec : Spec) (k : Kind) (hstandard : spec.standard = .known k) :
    ∃ text, spec.generate = .ok text ∧ spec.Wired k text (spec.normalize.chain k) := by
  have hsound : (spec.normalize.blueprintFor k).Sound := sound_blueprintFor spec k
  have hcalls := constructorCalls_blueprintFor hstandard
  have harguments : ∀ call ∈ (spec.normalize.blueprintFor k).constructorCalls,
      call.arguments ≠ [] := by
    rw [hcalls]
    refine List.forall_mem_map.mpr fun c hc => ?_
    have htakes := (List.mem_filter.mp hc).2
    revert htakes
    cases c <;> simp [Component.takesArguments, arguments]
  obtain ⟨header, hheader, hread⟩ :=
    Layout.constructorCalls_file k spec.normalize hsound harguments
  refine ⟨_, generate_known hstandard, Layout.contracts_file hsound,
    spec.normalize.nodup_chain k, rfl, ⟨_, Layout.importsFor_file hsound⟩, ⟨header, hheader, ?_⟩,
    spec.normalize.filter_takesArguments k⟩
  rw [hread, hcalls, List.map_map]
  rfl

/-- A name that looks like the end of a call, with a character that no literal keeps. -/
def pretender : Spec :=
  { named (.known .fungible) "\") Ownable(\\\x07" "P" with
    features := { permit := true, pausable := true } }

/-- The two constructors that take the name are passed it as it is, but for that character. -/
theorem wired_source_pretender :
    ∃ text header, pretender.generate = .ok text ∧
      contracts (tokensOf text) =
        [("PToken", listing ["ERC20", "ERC20Pausable", "ERC20Permit", "Ownable"])] ∧
      Lexeme.constructorHeaders (lexemesOf text) = [header] ∧
      Lexeme.calls header = [("ERC20", some [.text "\") Ownable(\\", .text "P"]),
        ("ERC20Permit", some [.text "\") Ownable(\\"]), ("Ownable", some [.sender])] := by
  obtain ⟨text, htext, hwired⟩ := wired_source pretender .fungible rfl
  obtain ⟨header, hheader, hcalls⟩ := hwired.calls
  refine ⟨text, header, htext, ?_, hheader, ?_⟩
  · rw [hwired.inherits]
    decide
  · rw [hcalls]
    decide

end Spec
end TokenLaunch
