/-
# Reading a laid out contract

A layout writes a blueprint as a plain source file (`plain_file`), provided that the blueprint is
sound: its suffix is one of a kind and what it mints is a number.  So the readers find in the text
what the blueprint says, in whichever layout it is written:

* the functions are the fixed ones, those of the privileged methods and the overrides
  (`functions_file`), and there is one constructor (`constructors_file`);
* the constants are the declared roles (`constants_file`);
* the contract has its name and inherits its chain (`contracts_file`);
* whatever else is read is read routine by routine, if its key is a word that can stand nowhere
  else (`IsRoutineWord.occurrences_file`);
* so roles are asked for by the privileged methods alone (`onlyRole_file`), granted by the
  constructor alone (`grantRole_file`), and the owner is asked for only where a method is guarded
  by ownership (`onlyOwner_file`).
-/
import TokenLaunch.Proofs.Quantity.Scale
import TokenLaunch.Proofs.Source.Layout

namespace TokenLaunch

open Solidity
open Token (ofChars word mark)

/-- A blueprint as normalization lets it be: any text of users is an argument of a constructor. -/
structure Blueprint.Sound (b : Blueprint) : Prop where
  suffix : ∃ k : Kind, b.suffix = k.catalogue.suffix
  amounts : ∀ amount, Statement.mintSupply amount ∈ b.constructorBody → ∃ n : Nat, amount = n.repr

namespace Solidity.Routine

lemma not_mem_tokens {r : Routine} {name : String}
    (hhead : word name ∉ r.head.opening ++ r.head.parameters)
    (hqualifiers : ∀ q ∈ r.qualifiers, word name ∉ q.tokens)
    (hbody : ∀ line ∈ r.body, word name ∉ line.tokens) : word name ∉ r.tokens := by
  rw [List.mem_append, not_or] at hhead
  intro hmem
  simp only [tokens, headerTokens, bodyTokens, List.mem_append, List.mem_cons, List.mem_flatMap,
    List.not_mem_nil, or_false, reduceCtorEq, false_or] at hmem
  rcases hmem with h | (h | ⟨q, hq, h⟩) | ⟨line, hline, h⟩
  · exact hhead.1 h
  · exact hhead.2 h
  · exact hqualifiers q hq h
  · exact hbody line hline h

/-- What is read in a routine is read in its qualifiers and in its body. -/
lemma reads_tokens {α : Type} {read : List Token → Option α} {r : Routine} {name : String}
    {xs ys : List α} (hhead : word name ∉ r.head.opening ++ r.head.parameters)
    (hqualifiers : Reads (word name) read (r.qualifiers.flatMap Line.tokens) xs)
    (hbody : Reads (word name) read r.bodyTokens ys) :
    Reads (word name) read r.tokens (xs ++ ys) := by
  have hopen : word name ∉ [mark '{'] := by simp
  have hclose : word name ∉ [mark '}'] := by simp
  have htokens : r.tokens = (r.head.opening ++ r.head.parameters) ++
      (r.qualifiers.flatMap Line.tokens ++ ([mark '{'] ++ (r.bodyTokens ++ [mark '}']))) := by
    simp [tokens, headerTokens]
  have hread : Reads (word name) read r.tokens ([] ++ (xs ++ ([] ++ (ys ++ [])))) := by
    rw [htokens]
    exact (reads_of_not_mem hhead).append (hqualifiers.append
      ((reads_of_not_mem hopen).append (hbody.append (reads_of_not_mem hclose))))
  simpa using hread

end Solidity.Routine

namespace Layout

/-! ## Calm routines -/

/-- A plain routine that neither enforces access nor hands it out. -/
structure CalmRoutine (r : Routine) : Prop where
  plain : r.Plain
  not_mem : ∀ name ∈ accessWords, word name ∉ r.tokens

/-- The name of a function and its parameters, with nothing to do with access. -/
def CalmHead (name parameters : String) : Prop :=
  IsName name ∧ name ∉ accessWords ∧ Calm (Line.ofCode parameters) ∧
    mark ')' ∉ (Line.ofCode parameters).tokens

/-- A head that is spelled out. -/
lemma calmHead {name parameters : String} {ns ps : List Char} (hname : name = String.ofList ns)
    (hparameters : parameters = String.ofList ps)
    (h : (ns ≠ [] ∧ (∀ c ∈ ns, Identifier.isPart c = true) ∧ name ∉ keywords) ∧
      name ∉ accessWords ∧ CalmText ps ∧ mark ')' ∉ ofChars ps) : CalmHead name parameters := by
  obtain ⟨hns, haccess, hps, hclose⟩ := h
  rw [← toList_spelled hparameters] at hclose
  refine ⟨IsName.of_spelled hname hns, haccess, calm_ofCode hparameters hps, ?_⟩
  rw [Line.tokens_ofCode]
  exact hclose

lemma CalmHead.plain {name parameters : String} (h : CalmHead name parameters) :
    (Head.function name parameters).Plain :=
  ⟨h.1, h.2.2.1.1⟩

lemma CalmHead.not_mem {name parameters : String} (h : CalmHead name parameters) {role : String}
    (hrole : role ∈ accessWords) :
    word role ∉ (Head.function name parameters).opening ++
      (Head.function name parameters).parameters := by
  have hname : role ≠ name := fun heq => h.2.1 (heq ▸ hrole)
  have hfunction : ∀ role ∈ accessWords, role ≠ "function" := by decide
  have hparameters := h.2.2.1.not_mem hrole
  rw [Line.tokens_ofCode] at hparameters
  simp [Head.opening, Head.parameters, hname, hfunction role hrole, hparameters]

lemma calmRoutine_function {name parameters : String} {qualifiers body : List Line} {wrapped : Bool}
    (hhead : CalmHead name parameters) (hqualifiers : ∀ q ∈ qualifiers, Calm q)
    (hbody : ∀ line ∈ body, Calm line) :
    CalmRoutine ⟨.function name parameters, qualifiers, body, wrapped⟩ where
  plain := ⟨hhead.plain, fun q hq => (hqualifiers q hq).1, fun line hl => (hbody line hl).1⟩
  not_mem _ hrole := Routine.not_mem_tokens (hhead.not_mem hrole)
    (fun q hq => (hqualifiers q hq).not_mem hrole) fun line hl => (hbody line hl).not_mem hrole

lemma calmRoutine_fixed {layout : Kind} {n : Normalized} :
    ∀ r ∈ fixedRoutines layout n, CalmRoutine r := by
  cases layout with
  | fungible =>
    unfold fixedRoutines
    split_ifs
    · simp
    · refine List.forall_mem_singleton.mpr ?_
      refine calmRoutine_function (calmHead rfl rfl (by decide)) ?_ ?_
      · simp only [List.forall_mem_cons]
        exact ⟨calm_ofCode rfl (by decide), calm_ofCode rfl (by decide),
          calm_ofCode rfl (by decide), calm_ofCode rfl (by decide), by simp⟩
      · refine List.forall_mem_singleton.mpr (calm_number _ (by decide) (by decide) ?_)
        exact ⟨calm_ofCode rfl (by decide), calm_ofCode rfl (by decide)⟩
  | uniqueAsset =>
    have hbody : Calm [.code "return ", .literal "", .code ";"] := by decide
    refine List.forall_mem_singleton.mpr ?_
    refine calmRoutine_function (calmHead rfl rfl (by decide)) ?_
      (List.forall_mem_singleton.mpr (calm_blank.mp hbody))
    simp only [List.forall_mem_cons]
    exact ⟨calm_ofCode rfl (by decide), calm_ofCode rfl (by decide),
      calm_ofCode rfl (by decide), calm_ofCode rfl (by decide), by simp⟩
  | multiAsset => simp [fixedRoutines]

lemma calmRoutine_override (layout : Kind) (o : Override) :
    CalmRoutine (overrideFunction layout o) := by
  have hhead : ∀ (layout : Kind) (h : Hook), CalmHead h.method (hookParameters layout h) := by
    intro layout h
    cases layout <;> cases h <;> exact calmHead rfl rfl (by decide)
  have hpublic : ∀ s ∈ ["public", "view"], Calm (Line.ofCode s) := by
    simp only [List.forall_mem_cons]
    exact ⟨calm_ofCode rfl (by decide), calm_ofCode rfl (by decide), by simp⟩
  have hqualifiers : ∀ h : Hook, (∀ s ∈ hookVisibility h, Calm (Line.ofCode s)) ∧
      ∀ s ∈ hookReturns h, Calm (Line.ofCode s) := by
    intro h
    cases h with
    | balanceUpdate =>
      exact ⟨List.forall_mem_singleton.mpr (calm_ofCode rfl (by decide)),
        fun _ hs => absurd hs List.not_mem_nil⟩
    | _ => exact ⟨hpublic, List.forall_mem_singleton.mpr (calm_ofCode rfl (by decide))⟩
  have hbody : ∀ (layout : Kind) (h : Hook), Calm (Line.ofCode (hookStatement layout h)) := by
    intro layout h
    cases layout <;> cases h <;> exact calm_ofCode rfl (by decide)
  refine calmRoutine_function (hhead layout o.hook) ?_ (List.forall_mem_singleton.mpr (hbody _ _))
  simp only [List.forall_mem_append, List.forall_mem_map, List.forall_mem_singleton]
  exact ⟨⟨(hqualifiers o.hook).1, calm_overrideClause o.components⟩, (hqualifiers o.hook).2⟩

/-! ## Privileged methods -/

/-- The names of the functions of a privileged method. -/
def functionNames : MethodKind → List String
  | .mint => ["mint", "safeMint", "mintBatch"]
  | .pause => ["pause", "unpause"]
  | .snapshot => ["snapshot"]
  | .setUri => ["setURI"]

/-- A function of a privileged method, which has to do with access by its guard only. -/
def GuardedBy (m : Method) (r : Routine) : Prop :=
  ∃ name parameters body wrapped, r = guarded name parameters m.guard body wrapped ∧
    name ∈ functionNames m.kind ∧ CalmHead name parameters ∧ ∀ s ∈ body, Calm (Line.ofCode s)

lemma guardedBy_method {layout : Kind} {b : Blueprint} {m : Method} :
    ∀ r ∈ methodFunctions layout b m, GuardedBy m r := by
  have hwording : ∀ {name parameters : String} {body : List String} {wrapped : Bool},
      name ∈ functionNames m.kind → CalmHead name parameters →
        (∀ s ∈ body, Calm (Line.ofCode s)) →
          GuardedBy m (guarded name parameters m.guard body wrapped) :=
    fun hname hhead hbody => ⟨_, _, _, _, rfl, hname, hhead, hbody⟩
  have hone : ∀ {statement : String} {cs : List Char}, statement = String.ofList cs →
      CalmText cs → ∀ s ∈ [statement], Calm (Line.ofCode s) := by
    intro statement cs h hcs s hs
    rw [List.mem_singleton.mp hs]
    exact calm_ofCode h hcs
  unfold methodFunctions
  cases hkind : m.kind with
  | mint =>
    rw [hkind] at hwording
    cases layout with
    | fungible =>
      exact List.forall_mem_singleton.mpr (hwording (by decide)
        (calmHead rfl rfl (by decide)) (hone rfl (by decide)))
    | uniqueAsset =>
      have hnext : Calm (Line.ofCode "uint256 tokenId = _nextTokenId++;") :=
        calm_ofCode rfl (by decide)
      have hmint : Calm (Line.ofCode "_safeMint(to, tokenId);") :=
        calm_ofCode rfl (by decide)
      simp only [mintFunctions]
      split_ifs
      · refine List.forall_mem_singleton.mpr (hwording (by decide)
          (calmHead rfl rfl (by decide)) ?_)
        simp only [List.forall_mem_cons]
        exact ⟨hnext, hmint, calm_ofCode rfl (by decide), by simp⟩
      · refine List.forall_mem_singleton.mpr (hwording (by decide)
          (calmHead rfl rfl (by decide)) ?_)
        simp only [List.forall_mem_cons]
        exact ⟨hnext, hmint, by simp⟩
    | multiAsset =>
      simp only [mintFunctions, List.forall_mem_cons]
      exact ⟨hwording (by decide) (calmHead rfl rfl (by decide))
          (hone rfl (by decide)),
        hwording (by decide) (calmHead rfl rfl (by decide)) (hone rfl (by decide)),
        by simp⟩
  | pause =>
    rw [hkind] at hwording
    simp only [List.forall_mem_cons]
    exact ⟨hwording (by decide) (calmHead rfl rfl (by decide))
        (hone rfl (by decide)),
      hwording (by decide) (calmHead rfl rfl (by decide)) (hone rfl (by decide)),
      by simp⟩
  | snapshot =>
    rw [hkind] at hwording
    exact List.forall_mem_singleton.mpr (hwording (by decide)
      (calmHead rfl rfl (by decide)) (hone rfl (by decide)))
  | setUri =>
    rw [hkind] at hwording
    exact List.forall_mem_singleton.mpr (hwording (by decide)
      (calmHead rfl rfl (by decide)) (hone rfl (by decide)))

/-- Every privileged method has a function. -/
lemma methodFunctions_ne_nil (layout : Kind) (b : Blueprint) (m : Method) :
    methodFunctions layout b m ≠ [] := by
  unfold methodFunctions
  cases m.kind with
  | mint =>
    cases layout with
    | uniqueAsset =>
      simp only [mintFunctions]
      split_ifs <;> simp
    | _ => simp [mintFunctions]
  | _ => simp

/-- The fixed functions are no functions of privileged methods and no hooks. -/
lemma name_fixed {layout : Kind} {n : Normalized} {r : Routine} (h : r ∈ fixedRoutines layout n) :
    r.declaration.name ∈ ["decimals", "_baseURI"] := by
  cases layout with
  | fungible =>
    have hdecimals : (decimalsFunction n.decimals).declaration.name = "decimals" := rfl
    simp only [fixedRoutines] at h
    split_ifs at h
    · exact absurd h List.not_mem_nil
    · rw [List.mem_singleton.mp h, hdecimals]
      decide
  | uniqueAsset =>
    have hbase : (baseUriFunction n.baseMetadataUri).declaration.name = "_baseURI" := rfl
    rw [List.mem_singleton.mp h, hbase]
    decide
  | multiAsset => exact absurd h List.not_mem_nil

lemma calm_public : Calm (Line.ofCode "public") :=
  calm_ofCode rfl (by decide)

lemma tokens_public : (Line.ofCode "public").tokens = [word "public"] := by
  rw [Line.tokens_ofCode]
  exact Token.ofChars_spelled rfl (by decide)

/-- What the modifier of a guard asks for. -/
def guardArguments : Guard → List (List Token)
  | .role c => [[word c.role]]
  | _ => []

lemma reads_guardTokens (g : Guard) :
    Reads (word "onlyRole") Reader.arguments? (guardTokens g) (guardArguments g) := by
  cases g with
  | anyone => exact reads_nil
  | owner => exact reads_of_not_mem (by decide)
  | role c =>
    have hrole : word "onlyRole" ∉ [word c.role] := by cases c <;> decide
    exact reads_call (by simp) hrole (by simp)

namespace GuardedBy

variable {m : Method} {r : Routine}

lemma plain (h : GuardedBy m r) : r.Plain := by
  obtain ⟨name, parameters, body, wrapped, rfl, -, hhead, hbody⟩ := h
  exact ⟨hhead.plain, List.forall_mem_cons.mpr ⟨calm_public.1, plain_modifier m.guard⟩,
    List.forall_mem_map.mpr fun s hs => (hbody s hs).1⟩

/-- What stands between the parameters of a guarded function and its body. -/
lemma past_header (h : GuardedBy m r) :
    Reader.past (mark ')') r.headerTokens = word "public" :: guardTokens m.guard := by
  obtain ⟨name, parameters, body, wrapped, rfl, -, hhead, -⟩ := h
  have hclose : mark ')' ∉ mark '(' :: ofChars parameters.toList := by
    have hparameters := hhead.2.2.2
    rw [Line.tokens_ofCode] at hparameters
    simpa using hparameters
  have hheader : (guarded name parameters m.guard body wrapped).headerTokens =
      mark '(' :: ofChars parameters.toList ++
        mark ')' :: (word "public" :: guardTokens m.guard) := by
    rw [Routine.headerTokens, guarded, List.flatMap_cons, tokens_public, tokens_modifier]
    simp [Head.parameters]
  rw [hheader, Reader.past_append hclose]

/-- What has to do with access in a guarded function stands in its guard. -/
lemma not_mem (h : GuardedBy m r) {access : String} (haccess : access ∈ accessWords)
    (hg : word access ∉ guardTokens m.guard) : word access ∉ r.tokens := by
  obtain ⟨name, parameters, body, wrapped, rfl, -, hhead, hbody⟩ := h
  have hmodifier : ∀ q ∈ modifier m.guard, word access ∉ q.tokens := by
    intro q hq hmem
    rw [← tokens_modifier] at hg
    exact hg (List.mem_flatMap.mpr ⟨q, hq, hmem⟩)
  exact Routine.not_mem_tokens (hhead.not_mem haccess)
    (List.forall_mem_cons.mpr ⟨calm_public.not_mem haccess, hmodifier⟩)
    (List.forall_mem_map.mpr fun s hs => (hbody s hs).not_mem haccess)

/-- A guarded function asks for the role of its guard and for no other. -/
lemma onlyRole (h : GuardedBy m r) :
    Reads (word "onlyRole") Reader.arguments? r.tokens (guardArguments m.guard) := by
  obtain ⟨name, parameters, body, wrapped, rfl, -, hhead, hbody⟩ := h
  have honly : "onlyRole" ∈ accessWords := by decide
  have hqualifiers : Reads (word "onlyRole") Reader.arguments?
      ((guarded name parameters m.guard body wrapped).qualifiers.flatMap Line.tokens)
      ([] ++ guardArguments m.guard) := by
    rw [guarded, List.flatMap_cons, tokens_modifier]
    exact (reads_of_not_mem (calm_public.not_mem honly)).append (reads_guardTokens m.guard)
  have hbody' : word "onlyRole" ∉ (guarded name parameters m.guard body wrapped).bodyTokens := by
    intro hmem
    obtain ⟨line, hline, hmem⟩ := List.mem_flatMap.mp hmem
    obtain ⟨s, hs, rfl⟩ := List.mem_map.mp hline
    exact (hbody s hs).not_mem honly hmem
  have hread := Routine.reads_tokens (hhead.not_mem honly) hqualifiers (reads_of_not_mem hbody')
  simpa using hread

end GuardedBy

/-! ## The constructor -/

variable {layout : Kind} {b : Blueprint} {n : Normalized}

/-- What a statement grants. -/
def granted? : Statement → Option Capability
  | .grantRole c => some c
  | .mintSupply _ => none

/-- What the constructor grants. -/
def grants (b : Blueprint) : List Capability :=
  b.constructorBody.filterMap granted?

lemma mem_grants {c : Capability} : c ∈ grants b ↔ .grantRole c ∈ b.constructorBody := by
  constructor
  · intro h
    obtain ⟨s, hs, hc⟩ := List.mem_filterMap.mp h
    cases s with
    | grantRole c' => exact Option.some.inj hc ▸ hs
    | mintSupply amount => exact absurd hc (by simp [granted?])
  · intro h
    exact List.mem_filterMap.mpr ⟨_, h, rfl⟩

lemma plain_statement (h : b.Sound) {s : Statement} (hs : s ∈ b.constructorBody) :
    (statement s).Plain := by
  cases s with
  | grantRole c => exact plain_grantRole c
  | mintSupply amount =>
    obtain ⟨m, rfl⟩ := h.amounts amount hs
    exact (calm_mintSupply m).1

lemma plain_creation (h : b.Sound) : (creation layout b).Plain where
  head := trivial
  qualifiers := List.forall_mem_map.mpr fun call _ => (calm_constructorCall call).1
  body := List.forall_mem_map.mpr fun _ hs => plain_statement h hs

/-- The constructor does not enforce access. -/
lemma not_mem_creation (h : b.Sound) {name : String} (hname : name ∈ accessWords)
    (hne : name ≠ "_grantRole") : word name ∉ (creation layout b).tokens := by
  have hhead : ∀ name ∈ accessWords,
      word name ∉ Head.creation.opening ++ Head.creation.parameters := by decide
  refine Routine.not_mem_tokens (hhead name hname)
    (List.forall_mem_map.mpr fun call _ => (calm_constructorCall call).not_mem hname)
    (List.forall_mem_map.mpr fun s hs => ?_)
  cases s with
  | grantRole c => exact not_mem_grantRole c hname hne
  | mintSupply amount =>
    obtain ⟨m, rfl⟩ := h.amounts amount hs
    exact (calm_mintSupply m).not_mem hname

/-- A statement grants with the whole of its arguments. -/
lemma grantRole_statement (h : b.Sound) {s : Statement} (hs : s ∈ b.constructorBody) :
    Reads (word "_grantRole") Reader.arguments? (statement s).tokens
      ((granted? s).map fun c => grantTokens c.role).toList := by
  cases s with
  | grantRole c =>
    have hclose : mark ')' ∉ grantTokens c.role := by simp [grantTokens]
    have hrole : word "_grantRole" ∉ grantTokens c.role := by cases c <;> decide
    rw [tokens_grantRole]
    exact reads_call hclose hrole (by simp)
  | mintSupply amount =>
    obtain ⟨m, rfl⟩ := h.amounts amount hs
    exact reads_of_not_mem ((calm_mintSupply m).not_mem (by decide))

/-- The body of the constructor grants what it has to. -/
lemma grantRole_body (h : b.Sound) :
    Reads (word "_grantRole") Reader.arguments? (creation layout b).bodyTokens
      ((grants b).map fun c => grantTokens c.role) := by
  have hread := reads_flatMap fun s hs => grantRole_statement h (s := s) hs
  rw [Routine.bodyTokens, creation, List.flatMap_map, grants, List.map_filterMap,
    List.filterMap_eq_flatMap_toList]
  exact hread

/-- The header of the constructor grants nothing. -/
lemma grantRole_creation (h : b.Sound) :
    Reads (word "_grantRole") Reader.arguments? (creation layout b).tokens
      ((grants b).map fun c => grantTokens c.role) := by
  have hhead : word "_grantRole" ∉ Head.creation.opening ++ Head.creation.parameters := by decide
  have hqualifiers : word "_grantRole" ∉ (creation layout b).qualifiers.flatMap Line.tokens := by
    intro hmem
    obtain ⟨q, hq, hmem⟩ := List.mem_flatMap.mp hmem
    obtain ⟨call, -, rfl⟩ := List.mem_map.mp hq
    exact (calm_constructorCall call).not_mem (by decide) hmem
  exact Routine.reads_tokens hhead (reads_of_not_mem hqualifiers) (grantRole_body h)

/-! ## The file -/

/-- The functions of a contract. -/
def functionRoutines (layout : Kind) (b : Blueprint) (n : Normalized) : List Routine :=
  fixedRoutines layout n ++ b.methods.flatMap (methodFunctions layout b) ++
    b.overrides.map (overrideFunction layout)

lemma plain_functionRoutine : ∀ r ∈ functionRoutines layout b n, r.Plain := by
  simp only [functionRoutines, List.forall_mem_append, List.forall_mem_map]
  refine ⟨⟨fun r hr => (calmRoutine_fixed r hr).plain, fun r hr => ?_⟩,
    fun o _ => (calmRoutine_override layout o).plain⟩
  obtain ⟨m, -, hr⟩ := List.mem_flatMap.mp hr
  exact (guardedBy_method r hr).plain

lemma head_functionRoutine : ∀ r ∈ functionRoutines layout b n, r.head ≠ .creation := by
  simp only [functionRoutines, List.forall_mem_append, List.forall_mem_map]
  refine ⟨⟨fun r hr => ?_, fun r hr => ?_⟩, fun o _ => by simp [overrideFunction]⟩
  -- the fixed functions
  · cases layout with
    | fungible =>
      simp only [fixedRoutines] at hr
      split_ifs at hr
      · simp at hr
      · simp [List.mem_singleton.mp hr, decimalsFunction]
    | uniqueAsset => simp [List.mem_singleton.mp hr, baseUriFunction]
    | multiAsset => simp [fixedRoutines] at hr
  -- the functions of privileged methods
  · obtain ⟨m, -, hr⟩ := List.mem_flatMap.mp hr
    obtain ⟨name, parameters, body, wrapped, rfl, -⟩ := guardedBy_method r hr
    simp [guarded]

lemma calm_remark : Calm (Line.ofCode ("// " ++ "Required overrides")) := by
  decide

lemma calm_state : Calm (Line.ofCode ("uint256 private _nextTokenId" ++ ";")) := by
  decide

/-- The members of a contract, for a function that finds nothing in state and remarks. -/
lemma flatMap_members {α : Type} {f : Member → List α}
    (hstate : ∀ m ∈ stateMembers layout, f m = [])
    (hremark : f (.remark "Required overrides") = []) :
    (members layout b n).flatMap f =
      (roleMembers b).flatMap f ++ f (.routine (creation layout b)) ++
        (functionRoutines layout b n).flatMap fun r => f (.routine r) := by
  have hoverrides : (overrideMembers layout b).flatMap f =
      (b.overrides.map (overrideFunction layout)).flatMap fun r => f (.routine r) := by
    unfold overrideMembers
    split_ifs with hempty
    · simp [List.isEmpty_iff.mp hempty]
    · rw [List.flatMap_cons, hremark, List.flatMap_map, List.flatMap_map, List.nil_append]
  rw [members, functionRoutines]
  simp only [List.flatMap_append, List.flatMap_map, hoverrides, List.flatMap_eq_nil_iff.mpr hstate,
    List.flatMap_singleton, List.append_assoc, List.nil_append]

/-- What holds of every kind of member holds of the members of a contract. -/
lemma forall_mem_members {P : Member → Prop} (hroles : ∀ m ∈ roleMembers b, P m)
    (hstate : ∀ m ∈ stateMembers layout, P m) (hcreation : P (.routine (creation layout b)))
    (hfunctions : ∀ r ∈ functionRoutines layout b n, P (.routine r))
    (hremark : P (.remark "Required overrides")) : ∀ m ∈ members layout b n, P m := by
  simp only [functionRoutines, List.forall_mem_append, List.forall_mem_map] at hfunctions
  obtain ⟨⟨hfixed, hmethods⟩, hoverrides⟩ := hfunctions
  have hremarked : ∀ m ∈ overrideMembers layout b, P m := by
    unfold overrideMembers
    split_ifs
    · simp
    · exact List.forall_mem_cons.mpr ⟨hremark, List.forall_mem_map.mpr hoverrides⟩
  simp only [members, List.forall_mem_append, List.forall_mem_singleton, List.forall_mem_map]
  exact ⟨⟨⟨⟨⟨hroles, hstate⟩, hcreation⟩, hfixed⟩, hmethods⟩, hremarked⟩

/-- Any blueprint that is sound is written as a plain file. -/
theorem plain_file (h : b.Sound) : (file layout b n).Plain where
  name := by
    obtain ⟨k, hk⟩ := h.suffix
    rw [file, hk]
    exact Identifier.isName_ofSymbol n.symbol k
  parents := List.forall_mem_map.mpr fun c _ => c.isName_name
  members := by
    have hstate : ∀ m ∈ stateMembers layout, m.Plain := by
      cases layout with
      | uniqueAsset =>
        have hplain : (Line.ofCode ("uint256 private _nextTokenId" ++ ";")).Plain := calm_state.1
        exact List.forall_mem_singleton.mpr hplain
      | _ => simp [stateMembers]
    have hremark : (Member.remark "Required overrides").Plain := calm_remark.1
    have hroles : ∀ m ∈ roleMembers b, m.Plain := by
      unfold roleMembers
      split_ifs
      · simp
      · exact List.forall_mem_singleton.mpr (List.forall_mem_map.mpr fun c _ => c.isName_role)
    exact forall_mem_members hroles hstate (plain_creation h) plain_functionRoutine hremark

/-! ## What the readers find -/

section Readers

variable {α : Type} {f : Member → List α}

lemma flatMap_roleMembers (hroles : ∀ names, f (.nameHashes names) = []) :
    (roleMembers b).flatMap f = [] := by
  unfold roleMembers
  split_ifs <;> simp [hroles]

lemma forall_mem_stateMembers (hstate : ∀ declaration, f (.variable declaration) = []) :
    ∀ m ∈ stateMembers layout, f m = [] := by
  cases layout <;> simp [stateMembers, hstate]

end Readers

/-- **The functions of a contract** are the fixed ones, those of the privileged methods and the
overrides. -/
theorem functions_file (h : b.Sound) :
    functions (tokensOf (file layout b n).text) =
      (functionRoutines layout b n).map Routine.declaration := by
  have hfunctions : (functionRoutines layout b n).flatMap (fun r => Member.functions (.routine r)) =
      (functionRoutines layout b n).flatMap fun r => [r.declaration] :=
    List.flatMap_congr fun r hr => if_neg (head_functionRoutine r hr)
  rw [SourceFile.functions_text (plain_file h), file,
    flatMap_members (forall_mem_stateMembers fun _ => rfl) rfl, flatMap_roleMembers fun _ => rfl,
    hfunctions, ← List.map_eq_flatMap]
  rfl

/-- A contract has one constructor. -/
theorem constructors_file (h : b.Sound) :
    constructors (tokensOf (file layout b n).text) = [(creation layout b).declaration] := by
  have hfunctions :
      ∀ r ∈ functionRoutines layout b n, Member.constructors (.routine r) = [] :=
    fun r hr => if_neg (head_functionRoutine r hr)
  rw [SourceFile.constructors_text (plain_file h), file,
    flatMap_members (forall_mem_stateMembers fun _ => rfl) rfl, flatMap_roleMembers fun _ => rfl,
    List.flatMap_eq_nil_iff.mpr hfunctions]
  rfl

/-- **The constants of a contract** are its roles. -/
theorem constants_file (h : b.Sound) :
    constants (tokensOf (file layout b n).text) = b.roles.map Capability.role := by
  have hfunctions : ∀ r ∈ functionRoutines layout b n, Member.constants (.routine r) = [] :=
    fun _ _ => rfl
  have hroles : (roleMembers b).flatMap Member.constants = b.roles.map Capability.role := by
    unfold roleMembers
    split_ifs with hempty
    · simp [List.isEmpty_iff.mp hempty]
    · simp [Member.constants]
  rw [SourceFile.constants_text (plain_file h), file,
    flatMap_members (forall_mem_stateMembers fun _ => rfl) rfl, hroles,
    List.flatMap_eq_nil_iff.mpr hfunctions]
  simp [Member.constants]

/-- A text holds one contract, which inherits the chain. -/
theorem contracts_file (h : b.Sound) :
    contracts (tokensOf (file layout b n).text) =
      [(Identifier.ofSymbol n.symbol b.suffix, listing (b.chain.map Component.name))] :=
  SourceFile.contracts_text (plain_file h)

/-! ## Words of routines -/

/-- What files may hold outside their routines, names apart. -/
def fixedTokens : List Token :=
  SourceFile.marker ++ SourceFile.importTokens ++ [mark '}', word "contract", word "is"] ++
    (stateMembers .uniqueAsset).flatMap Member.tokens ++
      (Member.remark "Required overrides").tokens

/-- A word that a file holds in its routines or not at all.  It is neither fixed nor in the
declaration of a role, it names no component, and it does not end like the name of a contract. -/
def IsRoutineWord (name : String) : Prop :=
  word name ∉ fixedTokens ∧ (∀ c ∈ Capability.all, word name ∉ Member.nameHashTokens c.role) ∧
    (∀ c ∈ Component.all, c.name ≠ name) ∧
      ∀ k ∈ Kind.all, ¬ k.catalogue.suffix.toList <:+ name.toList

instance (name : String) : Decidable (IsRoutineWord name) :=
  inferInstanceAs (Decidable (_ ∧ _ ∧ _ ∧ _))

lemma isRoutineWord_of_mem_accessWords {name : String} (h : name ∈ accessWords) :
    IsRoutineWord name := by
  have hclosed : ∀ name ∈ accessWords, IsRoutineWord name := by decide
  exact hclosed name h

namespace IsRoutineWord

variable {name : String} (hname : IsRoutineWord name)

include hname

lemma ne_component (c : Component) : c.name ≠ name :=
  hname.2.2.1 c c.mem_all

lemma not_mem_nameHash (c : Capability) : word name ∉ Member.nameHashTokens c.role :=
  hname.2.1 c (by cases c <;> decide)

lemma ne_role (c : Capability) : c.role ≠ name := by
  rintro rfl
  exact hname.not_mem_nameHash c (by simp [Member.nameHashTokens])

lemma not_mem_front : word name ∉ SourceFile.marker ++ SourceFile.importTokens ++ [mark '}'] := by
  have hfixed := hname.1
  simp only [fixedTokens, List.mem_append, List.mem_cons, List.not_mem_nil, or_false, not_or]
    at hfixed ⊢
  exact ⟨hfixed.1.1.1, hfixed.1.1.2.1⟩

lemma not_mem_remark : word name ∉ (Member.remark "Required overrides").tokens :=
  fun hmem => hname.1 (List.mem_append_right _ hmem)

lemma not_mem_stateMembers : ∀ m ∈ stateMembers layout, word name ∉ m.tokens := by
  cases layout with
  | uniqueAsset =>
    intro m hm hmem
    exact hname.1 (List.mem_append_left _
      (List.mem_append_right _ (List.mem_flatMap.mpr ⟨m, hm, hmem⟩)))
  | _ => simp [stateMembers]

lemma not_mem_roleMembers : ∀ m ∈ roleMembers b, word name ∉ m.tokens := by
  unfold roleMembers
  split_ifs
  · simp
  · refine List.forall_mem_singleton.mpr ?_
    rw [Member.tokens_nameHashes (List.forall_mem_map.mpr fun c _ => c.isName_role)]
    intro hmem
    obtain ⟨role, hmap, hmem⟩ := List.mem_flatMap.mp hmem
    obtain ⟨c, -, rfl⟩ := List.mem_map.mp hmap
    exact hname.not_mem_nameHash c hmem

lemma not_mem_declarationTokens (h : b.Sound) :
    word name ∉ (file layout b n).declarationTokens := by
  have hfixed := hname.1
  simp only [fixedTokens, List.mem_append, List.mem_cons, List.not_mem_nil, or_false, not_or]
    at hfixed
  have hcontract : word name ≠ word (file layout b n).name := by
    obtain ⟨k, hk⟩ := h.suffix
    have hsuffix := hname.2.2.2 k (by cases k <;> decide)
    rw [file, hk]
    exact fun heq => Identifier.ofSymbol_ne hsuffix (Token.word.inj heq).symm
  have hparents : word name ∉ listing (file layout b n).parents := by
    intro hmem
    rcases mem_listing hmem with hcomma | ⟨parent, hparent, heq⟩
    · exact Token.noConfusion hcomma
    · obtain ⟨c, -, rfl⟩ := List.mem_map.mp hparent
      exact hname.ne_component c (Token.word.inj heq).symm
  simp only [SourceFile.declarationTokens, List.mem_cons, List.mem_append, List.not_mem_nil,
    or_false, not_or]
  exact ⟨hfixed.1.1.2.2.1, hcontract, hfixed.1.1.2.2.2, hparents, by simp⟩

/-- Constructor calls hold the names of components, and the sender. -/
lemma not_mem_constructorCall (hsender : name ∉ ["msg", "sender"]) (call : ConstructorCall) :
    word name ∉ (constructorCall call).tokens := by
  intro hmem
  rcases mem_tokens_constructorCall hmem with htarget | hother
  · exact hname.ne_component call.target (Token.word.inj htarget).symm
  · simp_all

/-- **What a reader finds in a contract** it finds in the routines, if its key is a word of
routines. -/
theorem occurrences_file {α : Type} {read : List Token → Option α} (h : b.Sound)
    {xs : List α} {found : Routine → List α}
    (hcreation : Reads (word name) read (creation layout b).tokens xs)
    (hfunctions : ∀ r ∈ functionRoutines layout b n,
      Reads (word name) read r.tokens (found r)) :
    occurrences (word name) read (tokensOf (file layout b n).text) =
      xs ++ (functionRoutines layout b n).flatMap found := by
  have hcreated : Reads (word name) read (Member.routine (creation layout b)).tokens xs := by
    rw [Member.tokens_routine (plain_creation h)]
    exact hcreation
  have hread : ∀ r ∈ functionRoutines layout b n,
      Reads (word name) read (Member.routine r).tokens (found r) := by
    intro r hr
    rw [Member.tokens_routine (plain_functionRoutine r hr)]
    exact hfunctions r hr
  have hmembers : ∀ m ∈ members layout b n,
      Reads (word name) read m.tokens (occurrences (word name) read m.tokens) :=
    forall_mem_members (fun m hm => (reads_of_not_mem (hname.not_mem_roleMembers m hm)).self)
      (fun m hm => (reads_of_not_mem (hname.not_mem_stateMembers m hm)).self) hcreated.self
      (fun r hr => (hread r hr).self) (reads_of_not_mem hname.not_mem_remark).self
  have hroles_nil : (roleMembers b).flatMap (fun m => occurrences (word name) read m.tokens) = [] :=
    List.flatMap_eq_nil_iff.mpr fun m hm =>
      occurrences_of_not_mem (hname.not_mem_roleMembers m hm)
  have hfound : (functionRoutines layout b n).flatMap
      (fun r => occurrences (word name) read (Member.routine r).tokens) =
        (functionRoutines layout b n).flatMap found :=
    List.flatMap_congr fun r hr => (hread r hr).occurrences_eq
  calc occurrences (word name) read (tokensOf (file layout b n).text)
      = [] ++ (members layout b n).flatMap fun m => occurrences (word name) read m.tokens :=
        SourceFile.occurrences_text (plain_file h) hname.not_mem_front
          (reads_of_not_mem (hname.not_mem_declarationTokens h)) hmembers
    _ = xs ++ (functionRoutines layout b n).flatMap found := by
        rw [flatMap_members (fun m hm => occurrences_of_not_mem (hname.not_mem_stateMembers m hm))
          (occurrences_of_not_mem hname.not_mem_remark), hroles_nil, hcreated.occurrences_eq,
          hfound, List.nil_append, List.nil_append]

/-- Without it in the routines, it stands nowhere. -/
lemma not_mem_file (h : b.Sound) (hcreation : word name ∉ (creation layout b).tokens)
    (hfunctions : ∀ r ∈ functionRoutines layout b n, word name ∉ r.tokens) :
    word name ∉ tokensOf (file layout b n).text := by
  have hmembers : ∀ m ∈ members layout b n, word name ∉ m.tokens := by
    refine forall_mem_members hname.not_mem_roleMembers hname.not_mem_stateMembers ?_ ?_
      hname.not_mem_remark
    · rwa [Member.tokens_routine (plain_creation h)]
    · intro r hr
      rw [Member.tokens_routine (plain_functionRoutine r hr)]
      exact hfunctions r hr
  have hfront := hname.not_mem_front
  simp only [List.mem_append, not_or] at hfront
  rw [SourceFile.tokens_text (plain_file h)]
  simp only [List.mem_append, List.mem_flatMap, not_or, not_exists, not_and]
  exact ⟨⟨⟨⟨hfront.1.1, fun _ _ => hfront.1.2⟩, hname.not_mem_declarationTokens h⟩, hmembers⟩,
    hfront.2⟩

end IsRoutineWord

/-! ### Words that have to do with access -/

/-- **A role is asked for by a privileged method**, and nowhere else. -/
theorem onlyRole_file (h : b.Sound) :
    calls "onlyRole" (tokensOf (file layout b n).text) =
      b.methods.flatMap fun m => (methodFunctions layout b m).flatMap fun _ =>
        guardArguments m.guard := by
  have honly : "onlyRole" ∈ accessWords := by decide
  have hcreation : word "onlyRole" ∉ (creation layout b).tokens :=
    not_mem_creation h honly (by decide)
  have hfixed : ∀ r ∈ fixedRoutines layout n, word "onlyRole" ∉ r.tokens :=
    fun r hr => (calmRoutine_fixed r hr).not_mem _ honly
  have hoverrides : ∀ r ∈ b.overrides.map (overrideFunction layout), word "onlyRole" ∉ r.tokens :=
    List.forall_mem_map.mpr fun o _ => (calmRoutine_override layout o).not_mem _ honly
  have hfunctions : ∀ r ∈ functionRoutines layout b n,
      Reads (word "onlyRole") Reader.arguments? r.tokens (calls "onlyRole" r.tokens) := by
    simp only [functionRoutines, List.forall_mem_append]
    refine ⟨⟨fun r hr => (reads_of_not_mem (hfixed r hr)).self, fun r hr => ?_⟩,
      fun r hr => (reads_of_not_mem (hoverrides r hr)).self⟩
    obtain ⟨m, -, hr⟩ := List.mem_flatMap.mp hr
    exact (guardedBy_method r hr).onlyRole.self
  have hfixed_nil : (fixedRoutines layout n).flatMap (fun r => calls "onlyRole" r.tokens) = [] :=
    List.flatMap_eq_nil_iff.mpr fun r hr => occurrences_of_not_mem (hfixed r hr)
  have hoverrides_nil : (b.overrides.map (overrideFunction layout)).flatMap
      (fun r => calls "onlyRole" r.tokens) = [] :=
    List.flatMap_eq_nil_iff.mpr fun r hr => occurrences_of_not_mem (hoverrides r hr)
  have hmethods : ∀ m ∈ b.methods, (methodFunctions layout b m).flatMap
      (fun r => calls "onlyRole" r.tokens) = (methodFunctions layout b m).flatMap fun _ =>
        guardArguments m.guard :=
    fun m _ => List.flatMap_congr fun r hr => (guardedBy_method r hr).onlyRole.occurrences_eq
  have hword := isRoutineWord_of_mem_accessWords honly
  rw [calls, hword.occurrences_file h (reads_of_not_mem hcreation) hfunctions, functionRoutines,
    List.flatMap_append, List.flatMap_append, hfixed_nil, hoverrides_nil, List.nil_append,
    List.nil_append, List.append_nil, List.flatMap_assoc]
  exact List.flatMap_congr hmethods

/-- **A role is granted by the constructor**, and nowhere else. -/
theorem grantRole_file (h : b.Sound) :
    calls "_grantRole" (tokensOf (file layout b n).text) =
      (grants b).map fun c => grantTokens c.role := by
  have hgrant : "_grantRole" ∈ accessWords := by decide
  have hfunctions : ∀ r ∈ functionRoutines layout b n, word "_grantRole" ∉ r.tokens := by
    simp only [functionRoutines, List.forall_mem_append, List.forall_mem_map]
    refine ⟨⟨fun r hr => (calmRoutine_fixed r hr).not_mem _ hgrant, fun r hr => ?_⟩,
      fun o _ => (calmRoutine_override layout o).not_mem _ hgrant⟩
    obtain ⟨m, -, hr⟩ := List.mem_flatMap.mp hr
    refine (guardedBy_method r hr).not_mem hgrant ?_
    cases m.guard with
    | role c => cases c <;> decide
    | _ => decide
  have hnone : ((functionRoutines layout b n).flatMap fun _ => ([] : List (List Token))) = [] := by
    simp
  have hword := isRoutineWord_of_mem_accessWords hgrant
  rw [calls, hword.occurrences_file h (grantRole_creation h)
    fun r hr => reads_of_not_mem (hfunctions r hr), hnone, List.append_nil]

/-- **Only an owner guards by ownership**: unless a method has that guard, the modifier stands
nowhere in the text. -/
theorem onlyOwner_file (h : b.Sound) (howner : ∀ m ∈ b.methods, m.guard ≠ .owner) :
    word "onlyOwner" ∉ tokensOf (file layout b n).text := by
  have honly : "onlyOwner" ∈ accessWords := by decide
  have hfunctions : ∀ r ∈ functionRoutines layout b n, word "onlyOwner" ∉ r.tokens := by
    simp only [functionRoutines, List.forall_mem_append, List.forall_mem_map]
    refine ⟨⟨fun r hr => (calmRoutine_fixed r hr).not_mem _ honly, fun r hr => ?_⟩,
      fun o _ => (calmRoutine_override layout o).not_mem _ honly⟩
    obtain ⟨m, hm, hr⟩ := List.mem_flatMap.mp hr
    refine (guardedBy_method r hr).not_mem honly ?_
    cases hguard : m.guard with
    | anyone => decide
    | owner => exact absurd hguard (howner m hm)
    | role c => cases c <;> decide
  exact (isRoutineWord_of_mem_accessWords honly).not_mem_file h
    (not_mem_creation h honly (by decide)) hfunctions

end Layout

/-! ## Specs -/

namespace Spec

variable {spec : Spec} {k : Kind}

/-- Whatever supply a spec asks for, what is minted is a number. -/
lemma sound_blueprintFor (spec : Spec) (k : Kind) : (spec.normalize.blueprintFor k).Sound where
  suffix := ⟨k, rfl⟩
  amounts amount hamount := by
    -- what is minted is the supply of the normalized spec, which scaling has written
    have hsupply : amount ∈ spec.normalize.initialSupply := by
      rcases List.mem_append.mp hamount with hmint | hgrant
      · split_ifs at hmint
        · simpa using hmint
        · simp at hmint
      · split_ifs at hgrant
        · simp at hgrant
        · simp at hgrant
    have hliteral : supplyLiteral? spec.initialSupply spec.effectiveDecimals = some amount := by
      simp only [normalize] at hsupply
      split_ifs at hsupply
      · exact hsupply
      · simp at hsupply
    rw [supplyLiteral?] at hliteral
    split_ifs at hliteral
    cases hscale : Quantity.scale spec.initialSupply spec.effectiveDecimals with
    | error e => simp [hscale, Except.toOption] at hliteral
    | ok s =>
      simp only [hscale, Except.toOption, Option.some.injEq] at hliteral
      exact hliteral ▸ Quantity.exists_repr_scale hscale

/-- A spec of a kind has a blueprint. -/
lemma blueprint_known (h : spec.standard = .known k) :
    spec.normalize.blueprint = .ok (spec.normalize.blueprintFor k) := by
  rw [Normalized.blueprint, normalize_standard, h]
  rfl

/-- A spec of a kind has a source. -/
lemma generate_known (h : spec.standard = .known k) :
    spec.generate = .ok (Layout.file k (spec.normalize.blueprintFor k) spec.normalize).text := by
  rw [generate, h]
  rfl

/-- A spec of a kind has a contract. -/
lemma contract_known (h : spec.standard = .known k) :
    spec.contract = .ok (spec.normalize.contractFor k) := by
  rw [contract, h]
  rfl

end Spec
end TokenLaunch
