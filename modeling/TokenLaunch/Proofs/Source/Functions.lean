/-
# What functions are made of

Every function that a layout writes has one of a few heads, and its qualifiers and statements are
lines of fixed code, guards, override clauses, and the statement that returns a number or a text
(`isFunction`).  What holds of all these lines holds of all functions, whatever the layout and the
blueprint are.
-/
import TokenLaunch.Proofs.Source.Contract

namespace TokenLaunch
namespace Layout

open Solidity
open Token (ofChars word mark)

/-- The names of functions, each with parameters that it may have. -/
def functionHeads : List (String × String) :=
  [("decimals", ""), ("_baseURI", ""), ("mint", "address to, uint256 amount"),
    ("safeMint", "address to, string memory uri"), ("safeMint", "address to"),
    ("mint", "address account, uint256 id, uint256 amount, bytes memory data"),
    ("mintBatch", "address to, uint256[] memory ids, uint256[] memory amounts, bytes memory data"),
    ("pause", ""), ("unpause", ""), ("snapshot", ""), ("setURI", "string memory newuri"),
    ("_update", "address from, address to, uint256[] memory ids, uint256[] memory values"),
    ("_update", "address from, address to, uint256 value"), ("nonces", "address owner"),
    ("tokenURI", "uint256 tokenId"), ("supportsInterface", "bytes4 interfaceId")]

/-- The qualifiers and statements of functions that are the same in every contract. -/
def functionCode : List String :=
  ["public", "internal", "pure", "view", "override", "returns (uint8)", "returns (uint256)",
    "returns (bool)", "returns (string memory)", "_mint(to, amount);",
    "uint256 tokenId = _nextTokenId++;", "_safeMint(to, tokenId);", "_setTokenURI(tokenId, uri);",
    "_mint(account, id, amount, data);", "_mintBatch(to, ids, amounts, data);", "_pause();",
    "_unpause();", "_snapshot();", "_setURI(newuri);", "super._update(from, to, ids, values);",
    "super._update(from, to, value);", "return super.nonces(owner);",
    "return super.tokenURI(tokenId);", "return super.supportsInterface(interfaceId);"]

/-- A qualifier or a statement of a function. -/
inductive FunctionLine : Line → Prop
  | code {s} (h : s ∈ functionCode) : FunctionLine (Line.ofCode s)
  | guard {g q} (h : q ∈ modifier g) : FunctionLine q
  | overrides (components) : FunctionLine (Line.ofCode (overrideClause components))
  | number (n : ℕ) : FunctionLine [.code "return ", .code n.repr, .code ";"]
  | text (value) : FunctionLine [.code "return ", .literal value, .code ";"]

/-- A token of a text that is spelled out is a token of its characters. -/
lemma not_mem_spelled {text : String} {cs : List Char} {t : Token} (h : text = String.ofList cs)
    (hcs : t ∉ ofChars cs) : t ∉ ofChars text.toList := by
  rw [toList_spelled h]
  exact hcs

lemma not_mem_head {name function parameters : String} {ps : List Char}
    (hname : name ∉ ["function", function]) (h : parameters = String.ofList ps)
    (hps : word name ∉ ofChars ps) :
    word name ∉ (Head.function function parameters).opening ++
      (Head.function function parameters).parameters := by
  have hparameters := not_mem_spelled h hps
  simp only [List.mem_cons, List.not_mem_nil, or_false, not_or] at hname
  simp [Head.opening, Head.parameters, hname.1, hname.2, hparameters]

/-- A word that is not in the code of a line does not stand in the line, unless it is a role or the
name of a component, one of the words around these, or a number. -/
lemma FunctionLine.word_not_mem {line : Line} (h : FunctionLine line) {name : String}
    (hname : IsRoutineWord name)
    (hcode : ∀ s ∈ functionCode, line = Line.ofCode s → word name ∉ ofChars s.toList)
    (hletter : ∃ c ∈ name.toList, c.isDigit = false)
    (hfixed : name ∉ ["override", "return", "onlyOwner", "onlyRole"]) :
    word name ∉ line.tokens := by
  simp only [List.mem_cons, List.not_mem_nil, or_false, not_or] at hfixed
  cases h with
  | @code s hs =>
    rw [Line.tokens_ofCode]
    exact hcode s hs rfl
  | @guard g _ hq =>
    intro hmem
    have hguard : word name ∈ guardTokens g :=
      tokens_modifier g ▸ List.mem_flatMap.mpr ⟨_, hq, hmem⟩
    cases g with
    | anyone => exact absurd hguard List.not_mem_nil
    | owner => exact hfixed.2.2.1 (Token.word.inj (List.mem_singleton.mp hguard))
    | role c =>
      have hrole : name ≠ c.role := (hname.ne_role c).symm
      simp [guardTokens, hrole, hfixed.2.2.2] at hguard
  | overrides components =>
    rw [tokens_overrideClause]
    simp only [List.mem_cons, List.mem_append, List.not_mem_nil, or_false, not_or,
      Token.word.injEq, reduceCtorEq, not_false_eq_true, true_and]
    refine ⟨hfixed.1, fun hmem => ?_⟩
    rcases mem_listing hmem with hcomma | ⟨parent, hparent, heq⟩
    · cases hcomma
    · obtain ⟨c, -, rfl⟩ := List.mem_map.mp hparent
      exact hname.ne_component c (Token.word.inj heq).symm
  | number m =>
    obtain ⟨c, hc, hdigit⟩ := hletter
    have hnumber : name ≠ m.repr := (repr_ne hc hdigit).symm
    have hreturn : ofChars "return ".toList = [word "return"] :=
      Token.ofChars_spelled rfl (by decide)
    have hend : ofChars ";".toList = [mark ';'] := by decide
    rw [tokens_number m (by decide) (by decide), hreturn, hend]
    simp [hnumber, hfixed.2.1]
  | text value =>
    have hclosed : Line.tokens [.code "return ", .literal "", .code ";"] =
        [word "return", mark '"', mark '"', mark ';'] := by
      decide
    have htokens : Line.tokens [.code "return ", .literal value, .code ";"] =
        [word "return", mark '"', mark '"', mark ';'] := hclosed
    rw [htokens]
    simp [hfixed.2.1]

/-- A routine that is a function with one of the known heads, made of known lines. -/
structure IsFunction (r : Routine) : Prop where
  head : ∃ h ∈ functionHeads, r.head = .function h.1 h.2
  qualifiers : ∀ q ∈ r.qualifiers, FunctionLine q
  body : ∀ line ∈ r.body, FunctionLine line

lemma isFunction_guarded {name parameters : String} {body : List String} {wrapped : Bool}
    (g : Guard) (hhead : (name, parameters) ∈ functionHeads)
    (hbody : ∀ s ∈ body, s ∈ functionCode) :
    IsFunction (guarded name parameters g body wrapped) where
  head := ⟨_, hhead, rfl⟩
  qualifiers := List.forall_mem_cons.mpr ⟨.code (by simp [functionCode]), fun _ hq => .guard hq⟩
  body := List.forall_mem_map.mpr fun s hs => .code (hbody s hs)

variable {layout : Kind} {b : Blueprint} {n : Normalized}

lemma isFunction_fixed : ∀ r ∈ fixedRoutines layout n, IsFunction r := by
  cases layout with
  | fungible =>
    unfold fixedRoutines
    split_ifs
    · simp
    · refine List.forall_mem_singleton.mpr
        ⟨⟨("decimals", ""), by simp [functionHeads], rfl⟩, ?_, ?_⟩
      · simp only [decimalsFunction, List.forall_mem_cons]
        exact ⟨.code (by simp [functionCode]), .code (by simp [functionCode]),
          .code (by simp [functionCode]), .code (by simp [functionCode]), by simp⟩
      · exact List.forall_mem_singleton.mpr (.number _)
  | uniqueAsset =>
    refine List.forall_mem_singleton.mpr
      ⟨⟨("_baseURI", ""), by simp [functionHeads], rfl⟩, ?_, ?_⟩
    · simp only [baseUriFunction, List.forall_mem_cons]
      exact ⟨.code (by simp [functionCode]), .code (by simp [functionCode]),
        .code (by simp [functionCode]), .code (by simp [functionCode]), by simp⟩
    · exact List.forall_mem_singleton.mpr (.text _)
  | multiAsset => simp [fixedRoutines]

lemma isFunction_method {m : Method} : ∀ r ∈ methodFunctions layout b m, IsFunction r := by
  unfold methodFunctions
  cases m.kind with
  | mint =>
    cases layout with
    | fungible =>
      exact List.forall_mem_singleton.mpr
        (isFunction_guarded _ (by simp [functionHeads]) (by simp [functionCode]))
    | uniqueAsset =>
      simp only [mintFunctions]
      split_ifs
      all_goals
        exact List.forall_mem_singleton.mpr
          (isFunction_guarded _ (by simp [functionHeads]) (by simp [functionCode]))
    | multiAsset =>
      simp only [mintFunctions, List.forall_mem_cons]
      exact ⟨isFunction_guarded _ (by simp [functionHeads]) (by simp [functionCode]),
        isFunction_guarded _ (by simp [functionHeads]) (by simp [functionCode]), by simp⟩
  | pause =>
    simp only [List.forall_mem_cons]
    exact ⟨isFunction_guarded _ (by simp [functionHeads]) (by simp [functionCode]),
      isFunction_guarded _ (by simp [functionHeads]) (by simp [functionCode]), by simp⟩
  | snapshot =>
    exact List.forall_mem_singleton.mpr
      (isFunction_guarded _ (by simp [functionHeads]) (by simp [functionCode]))
  | setUri =>
    exact List.forall_mem_singleton.mpr
      (isFunction_guarded _ (by simp [functionHeads]) (by simp [functionCode]))

lemma isFunction_override (layout : Kind) (o : Override) :
    IsFunction (overrideFunction layout o) := by
  have hhead : ∀ (layout : Kind) (h : Hook),
      (h.method, hookParameters layout h) ∈ functionHeads := by
    intro layout h
    cases layout <;> cases h <;> simp [functionHeads, hookParameters, Hook.method]
  have hcode : ∀ (layout : Kind) (h : Hook), (∀ s ∈ hookVisibility h, s ∈ functionCode) ∧
      (∀ s ∈ hookReturns h, s ∈ functionCode) ∧ hookStatement layout h ∈ functionCode := by
    intro layout h
    cases layout <;> cases h <;>
      simp [functionCode, hookVisibility, hookReturns, hookStatement]
  obtain ⟨hvisibility, hreturns, hstatement⟩ := hcode layout o.hook
  refine ⟨⟨_, hhead layout o.hook, rfl⟩, ?_, List.forall_mem_singleton.mpr (.code hstatement)⟩
  simp only [overrideFunction, List.forall_mem_append, List.forall_mem_map,
    List.forall_mem_singleton]
  exact ⟨⟨fun s hs => .code (hvisibility s hs), .overrides _⟩, fun s hs => .code (hreturns s hs)⟩

/-- **Every function of a layout is made of known lines.** -/
theorem isFunction : ∀ r ∈ functionRoutines layout b n, IsFunction r := by
  simp only [functionRoutines, List.forall_mem_append, List.forall_mem_map]
  refine ⟨⟨isFunction_fixed, fun r hr => ?_⟩, fun o _ => isFunction_override layout o⟩
  obtain ⟨m, -, hr⟩ := List.mem_flatMap.mp hr
  exact isFunction_method r hr

end Layout
end TokenLaunch
