/-
# Generated source is well formed

Whatever texts a spec holds, its source is well formed in the layout of its own kind and in every
other layout (`Spec.wellFormed_source`).  All that is left to show for this is that the lines which
a layout writes are tidy.
-/
import TokenLaunch.Proofs.Source.Functions
import TokenLaunch.Proofs.Source.Tidy

namespace TokenLaunch

open Solidity

namespace Layout

/-! ## Functions -/

lemma flat_repr (n : ℕ) : ∀ c ∈ n.repr.toList, Flat c :=
  (isName_repr n).flat

lemma tidy_overrideClause (components : List Component) :
    (Line.ofCode (overrideClause components)).Tidy := by
  have hnames : ∀ name ∈ components.map Component.name, IsName name :=
    List.forall_mem_map.mpr fun c _ => c.isName_name
  have hword : ∀ c ∈ "override".toList, Flat c := by decide
  have hchars : (overrideClause components).toList = "override".toList ++
      '(' :: ((", ".intercalate (components.map Component.name)).toList ++ [')']) := by
    have hsplit : "override(" = "override" ++ "(" := by decide
    rw [overrideClause, hsplit]
    simp
  rw [Line.ofCode, Line.tidy_code, hchars]
  exact (TidyText.of_flat hword).append ((TidyText.of_flat (flat_intercalate hnames)).wrap rfl)

lemma tidy_functionCode : ∀ s ∈ functionCode, (Line.ofCode s).Tidy := by
  intro s hs
  simp only [functionCode, List.mem_cons, List.not_mem_nil, or_false] at hs
  casesm* _ ∨ _
  all_goals
    subst s
    exact Line.tidy_ofCode rfl (by decide)

lemma FunctionLine.tidy {line : Line} (h : FunctionLine line) : line.Tidy := by
  cases h with
  | code h => exact tidy_functionCode _ h
  | @guard g _ h =>
    have hmodifier : ∀ q ∈ modifier g, q.Tidy := by
      cases g with
      | anyone => simp [modifier]
      | owner => decide
      | role c => cases c <;> decide
    exact hmodifier _ h
  | overrides components => exact tidy_overrideClause components
  | number n =>
    have hcode : Line.Tidy [.code "return "] ∧ Line.Tidy [.code ";"] := by decide
    exact hcode.1.append ((Line.tidy_code.mpr (TidyText.of_flat (flat_repr n))).append hcode.2)
  | text value =>
    have hclosed : Line.Tidy [.code "return ", .literal "", .code ";"] := by decide
    exact hclosed

/-- A head whose name is a name and whose parameters are tidy. -/
lemma tidy_head {name parameters : String} {ns ps : List Char} (hname : name = String.ofList ns)
    (hparameters : parameters = String.ofList ps)
    (h : (∀ c ∈ ns, Flat c) ∧ TidyText ps) : (Head.function name parameters).line.Tidy := by
  rw [← toList_spelled hname, ← toList_spelled hparameters] at h
  have hword : Line.Tidy [.code "function "] := by decide
  have hround : ("(" ++ parameters ++ ")").toList = '(' :: (parameters.toList ++ [')']) := by
    simp
  have hlast : Line.Tidy [.code ("(" ++ parameters ++ ")")] := by
    rw [Line.tidy_code, hround]
    exact h.2.wrap rfl
  exact hword.append ((Line.tidy_code.mpr (TidyText.of_flat h.1)).append hlast)

lemma tidy_functionHeads : ∀ h ∈ functionHeads, (Head.function h.1 h.2).line.Tidy := by
  intro h hh
  simp only [functionHeads, List.mem_cons, List.not_mem_nil, or_false] at hh
  casesm* _ ∨ _
  all_goals
    subst h
    exact tidy_head rfl rfl (by decide)

lemma IsFunction.tidy {r : Routine} (h : IsFunction r) : r.Tidy where
  head := by
    obtain ⟨p, hp, hhead⟩ := h.head
    rw [hhead]
    exact tidy_functionHeads p hp
  qualifiers q hq := (h.qualifiers q hq).tidy
  body line hline := (h.body line hline).tidy

/-! ## The constructor -/

variable {layout : Kind} {b : Blueprint} {n : Normalized}

lemma tidy_joinWith {separator : String} (hseparator : Line.Tidy [.code separator])
    {lines : List Line} (h : ∀ line ∈ lines, line.Tidy) : (Line.joinWith separator lines).Tidy := by
  match lines with
  | [] => exact TidyText.nil
  | [line] => exact h line (by simp)
  | line :: next :: rest =>
    have ih : (Line.joinWith separator (next :: rest)).Tidy :=
      tidy_joinWith hseparator fun l hl => h l (List.mem_cons_of_mem _ hl)
    exact (h line (by simp)).append (hseparator.append ih)

/-- A constructor call is tidy, whatever its string arguments are. -/
lemma tidy_constructorCall (call : ConstructorCall) : (constructorCall call).Tidy := by
  have hcomma : Line.Tidy [.code ", "] := by decide
  have harguments : ∀ line ∈ call.arguments.map argument, line.Tidy := by
    refine List.forall_mem_map.mpr fun a _ => ?_
    cases a with
    | text value =>
      have hclosed : Line.Tidy [.literal ""] := by decide
      exact hclosed
    | sender => decide
  have hchars : (constructorCall call).blank.chars = call.target.name.toList ++
      '(' :: ((Line.joinWith ", " (call.arguments.map argument)).blank.chars ++ [')']) := by
    simp [constructorCall, Piece.blank]
  rw [Line.Tidy, hchars]
  exact (TidyText.of_flat call.target.isName_name.flat).append
    (TidyText.wrap (tidy_joinWith hcomma harguments) rfl)

lemma tidy_statement (h : b.Sound) {s : Statement} (hs : s ∈ b.constructorBody) :
    (statement s).Tidy := by
  cases s with
  | grantRole c => cases c <;> decide
  | mintSupply amount =>
    obtain ⟨m, rfl⟩ := h.amounts amount hs
    have hword : ∀ c ∈ "_mint".toList, Flat c := by decide
    have hsender : ∀ c ∈ "msg.sender, ".toList, Flat c := by decide
    have hchars : (statement (.mintSupply m.repr)).blank.chars = "_mint".toList ++
        '(' :: ("msg.sender, ".toList ++ m.repr.toList ++ [')']) ++ [';'] := by
      have hsplit : "_mint(msg.sender, " = "_mint" ++ "(" ++ "msg.sender, " := by decide
      rw [statement, hsplit]
      simp [Piece.blank]
    rw [Line.Tidy, hchars]
    exact ((TidyText.of_flat hword).append (((TidyText.of_flat hsender).append
      (TidyText.of_flat (flat_repr m))).wrap rfl)).append (by decide)

lemma tidy_creation (h : b.Sound) : (creation layout b).Tidy where
  head := by
    have hhead : Head.creation.line.Tidy := by decide
    exact hhead
  qualifiers := List.forall_mem_map.mpr fun call _ => tidy_constructorCall call
  body := List.forall_mem_map.mpr fun _ hs => tidy_statement h hs

/-! ## The file -/

lemma tidy_members (h : b.Sound) : ∀ m ∈ members layout b n, m.Tidy := by
  have hroles : ∀ m ∈ roleMembers b, m.Tidy := by
    unfold roleMembers
    split_ifs
    · simp
    · exact List.forall_mem_singleton.mpr (List.forall_mem_map.mpr fun c _ => c.isName_role)
  have hstate : ∀ m ∈ stateMembers layout, m.Tidy := by
    cases layout with
    | uniqueAsset =>
      have hline : (Line.ofCode ("uint256 private _nextTokenId" ++ ";")).Tidy := by decide
      exact List.forall_mem_singleton.mpr hline
    | _ => simp [stateMembers]
  have hremark : (Line.ofCode ("// " ++ "Required overrides")).Tidy := by decide
  exact forall_mem_members hroles hstate (tidy_creation h) (fun r hr => (isFunction r hr).tidy)
    hremark

/-- **Every layout of a sound blueprint is well formed.** -/
theorem wellFormed_file (h : b.Sound) : WellFormed (file layout b n).text := by
  refine SourceFile.wellFormed_text (plain_file h) (tidy_members h) ?_
  rw [← SourceFile.constructors_text (plain_file h), constructors_file h]
  rfl

end Layout

namespace Spec

/-- **The source of a spec is well formed**, and so is what any layout makes of its blueprint. -/
theorem wellFormed_source (spec : Spec) (k : Kind) (hstandard : spec.standard = .known k) :
    (∃ text, spec.generate = .ok text ∧ WellFormed text) ∧
      ∃ b, spec.normalize.blueprint = .ok b ∧ ∀ layout : Kind, ∃ text,
        Layout.source (.known layout) b spec.normalize = .ok text ∧ WellFormed text := by
  have hsound := sound_blueprintFor spec k
  exact ⟨⟨_, generate_known hstandard, Layout.wellFormed_file hsound⟩,
    _, blueprint_known hstandard, fun _ => ⟨_, rfl, Layout.wellFormed_file hsound⟩⟩

/-- Braces, quotes, a backslash and control characters in the texts of a spec. -/
theorem wellFormed_source_hostile :
    (∃ text, (Spec.named (.known .multiAsset) "\"; \x7d\n\\" "\x7b[\t").generate = .ok text ∧
        WellFormed text) ∧
      ∃ b, (Spec.named (.known .multiAsset) "\"; \x7d\n\\" "\x7b[\t").normalize.blueprint = .ok b ∧
        ∀ layout : Kind, ∃ text,
          Layout.source (.known layout) b
            (Spec.named (.known .multiAsset) "\"; \x7d\n\\" "\x7b[\t").normalize = .ok text ∧
              WellFormed text :=
  wellFormed_source (Spec.named (.known .multiAsset) "\"; \x7d\n\\" "\x7b[\t") .multiAsset rfl

end Spec
end TokenLaunch
