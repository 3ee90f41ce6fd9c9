/-
# Access control is sound

Who may call a privileged method is decided in four places: the component that is inherited, the
guards of the methods, the declared roles and the grants of the constructor.  `Access.Enforced`
says how they have to fit together in a blueprint, one structure for each access model, and
`Access.Written` what a source has to say for it.  Both hold for every kind.

The capabilities are the link.  A method needs the capability of its kind (`guard_of_mem_methods`),
and the contract's capabilities are just those that its methods need (`mem_capabilities_iff`).
-/
import TokenLaunch.Proofs.Chain
import TokenLaunch.Proofs.Source.Contract

namespace TokenLaunch

open Solidity
open Token (ofChars word mark)

/-- The capability that the methods of a kind need. -/
def MethodKind.capability : MethodKind → Capability
  | .mint => .mint
  | .pause => .pause
  | .snapshot => .admin
  | .setUri => .uriSet

/-! ## Blueprints -/

/-- Access by roles: whoever deploys the contract holds every role that a method asks for. -/
structure Access.EnforcedByRoles (b : Blueprint) : Prop where
  accessControl : .accessControl ∈ b.chain
  ownable : .ownable ∉ b.chain
  guarded : ∀ m ∈ b.methods, ∃ c, m.guard = .role c ∧ (c = .admin ∨ c ∈ b.roles) ∧
    .grantRole c ∈ b.constructorBody
  nodup : b.roles.Nodup
  order : b.roles.Sublist [.mint, .pause, .uriSet]
  used : ∀ c, c ∈ b.roles ↔ c ≠ .admin ∧ ∃ m ∈ b.methods, m.guard = .role c
  grants : Layout.grants b = .admin :: b.roles

/-- Access by ownership: whoever deploys the contract is the owner. -/
structure Access.EnforcedByOwner (b : Blueprint) : Prop where
  ownable : .ownable ∈ b.chain
  accessControl : .accessControl ∉ b.chain
  sender : ⟨.ownable, [.sender]⟩ ∈ b.constructorCalls
  guarded : ∀ m ∈ b.methods, m.guard = .owner
  roles : b.roles = []
  grants : Layout.grants b = []

/-- No access control at all. -/
structure Access.NotEnforced (b : Blueprint) : Prop where
  ownable : .ownable ∉ b.chain
  accessControl : .accessControl ∉ b.chain
  guarded : ∀ m ∈ b.methods, m.guard = .anyone
  roles : b.roles = []
  grants : Layout.grants b = []

/-- What an access model asks of a blueprint. -/
def Access.Enforced : Access → Blueprint → Prop
  | .roles => Access.EnforcedByRoles
  | .owner => Access.EnforcedByOwner
  | .unguarded => Access.NotEnforced

lemma Access.EnforcedByRoles.admin_not_mem {b : Blueprint} (h : Access.EnforcedByRoles b) :
    .admin ∉ b.roles :=
  fun hmem => ((h.used .admin).mp hmem).1 rfl

/-- Other models have nothing to do with roles. -/
lemma Access.Enforced.of_ne_roles {access : Access} {b : Blueprint} (h : access.Enforced b)
    (hne : access ≠ .roles) :
    (∀ m ∈ b.methods, ∀ c, m.guard ≠ .role c) ∧ b.roles = [] ∧ Layout.grants b = [] := by
  cases access with
  | roles => exact absurd rfl hne
  | owner => exact ⟨fun m hm c => by simp [h.guarded m hm], h.roles, h.grants⟩
  | unguarded => exact ⟨fun m hm c => by simp [h.guarded m hm], h.roles, h.grants⟩

namespace Normalized

variable {n : Normalized} {k : Kind}

lemma mem_privileged {m : MethodKind × Capability} :
    m ∈ n.privileged k ↔
      (m = (.mint, .mint) ∧ n.features.mintable = true) ∨
      (m = (.pause, .pause) ∧ n.features.pausable = true) ∨
      (m = (.snapshot, .admin) ∧ n.features.snapshots = true) ∨
      (m = (.setUri, .uriSet) ∧ k = .multiAsset) := by
  unfold privileged
  split_ifs <;> simp_all

/-- A method is guarded by the capability of its kind. -/
lemma guard_of_mem_methods {m : Method} (h : m ∈ (n.blueprintFor k).methods) :
    m.guard = n.access.guard m.kind.capability := by
  obtain ⟨p, hp, rfl⟩ := List.mem_map.mp h
  rcases mem_privileged.mp hp with ⟨rfl, -⟩ | ⟨rfl, -⟩ | ⟨rfl, -⟩ | ⟨rfl, -⟩ <;> rfl

/-- A contract has privileged methods of a kind if and only if a feature asks for them; that of
setting a URI goes with the kind of the contract. -/
lemma exists_method_iff {kind : MethodKind} :
    (∃ m ∈ (n.blueprintFor k).methods, m.kind = kind) ↔
      match kind with
      | .mint => n.has .mintable = true
      | .pause => n.has .pausable = true
      | .snapshot => n.has .snapshots = true
      | .setUri => k = .multiAsset := by
  have hmethods : (∃ m ∈ (n.blueprintFor k).methods, m.kind = kind) ↔
      ∃ c, (kind, c) ∈ n.privileged k := by
    simp [blueprintFor]
  rw [hmethods]
  cases kind <;> simp [mem_privileged, has, Flags.isOn]

lemma mem_capabilities {c : Capability} : c ∈ n.capabilities k ↔ n.uses k c = true := by
  cases c <;> simp [capabilities, Capability.ofFeatures, uses]

/-- **The capabilities of a contract** are those that its methods need, administration apart. -/
lemma mem_capabilities_iff {c : Capability} :
    c ∈ n.capabilities k ↔
      c ≠ .admin ∧ ∃ m ∈ (n.blueprintFor k).methods, m.kind.capability = c := by
  have hmethods : (∃ m ∈ (n.blueprintFor k).methods, m.kind.capability = c) ↔
      ∃ p ∈ n.privileged k, p.1.capability = c := by
    simp [blueprintFor]
  rw [hmethods, mem_capabilities]
  constructor
  · intro h
    cases c with
    | admin => exact absurd h (by simp [uses])
    | mint => exact ⟨by decide, (.mint, .mint), mem_privileged.mpr (Or.inl ⟨rfl, h⟩), rfl⟩
    | pause =>
      exact ⟨by decide, (.pause, .pause), mem_privileged.mpr (Or.inr (Or.inl ⟨rfl, h⟩)), rfl⟩
    | uriSet =>
      have hkind : k = .multiAsset := of_decide_eq_true h
      exact ⟨by decide, (.setUri, .uriSet),
        mem_privileged.mpr (Or.inr (Or.inr (Or.inr ⟨rfl, hkind⟩))), rfl⟩
  · rintro ⟨hadmin, p, hp, rfl⟩
    rcases mem_privileged.mp hp with ⟨rfl, h⟩ | ⟨rfl, h⟩ | ⟨rfl, -⟩ | ⟨rfl, h⟩
    · exact h
    · exact h
    · exact absurd rfl hadmin
    · exact decide_eq_true h

/-- The constructor grants administration and all roles, or nothing. -/
lemma grants_blueprintFor (n : Normalized) (k : Kind) : Layout.grants (n.blueprintFor k) =
    if n.access = .roles then .admin :: n.capabilities k else [] := by
  have hgrants : ∀ (amounts : List String) (cs : List Capability),
      (amounts.map Statement.mintSupply ++ cs.map Statement.grantRole).filterMap
        Layout.granted? = cs := by
    intro amounts cs
    have hmints : (amounts.map Statement.mintSupply).filterMap Layout.granted? = [] := by
      simp [Layout.granted?]
    have hgrants : Layout.granted? ∘ Statement.grantRole = some := rfl
    rw [List.filterMap_append, hmints, List.filterMap_map, hgrants, List.filterMap_some,
      List.nil_append]
  have hmint : (if k = .fungible then n.initialSupply.toList.map Statement.mintSupply else []) =
      (if k = .fungible then n.initialSupply.toList else []).map Statement.mintSupply := by
    split_ifs <;> rfl
  have hgrant : (if n.access = .roles then
      (Capability.admin :: n.capabilities k).map Statement.grantRole else []) =
      (if n.access = .roles then .admin :: n.capabilities k else []).map Statement.grantRole := by
    split_ifs <;> rfl
  rw [Layout.grants, blueprintFor, constructorBody, hmint, hgrant]
  exact hgrants _ _

/-- **Access is enforced** in every blueprint. -/
lemma enforced_blueprintFor (n : Normalized) (k : Kind) : n.access.Enforced (n.blueprintFor k) := by
  have hgrants := grants_blueprintFor n k
  cases haccess : n.access with
  | roles =>
    have hroles : (n.blueprintFor k).roles = n.capabilities k := by
      rw [blueprintFor, haccess]
      rfl
    have hguard : ∀ m ∈ (n.blueprintFor k).methods, m.guard = .role m.kind.capability := by
      intro m hm
      rw [guard_of_mem_methods hm, haccess]
      rfl
    rw [haccess, if_pos rfl] at hgrants
    have hmem : ∀ m ∈ (n.blueprintFor k).methods,
        m.kind.capability = .admin ∨ m.kind.capability ∈ n.capabilities k := by
      intro m hm
      by_cases hadmin : m.kind.capability = .admin
      · exact Or.inl hadmin
      · exact Or.inr (mem_capabilities_iff.mpr ⟨hadmin, m, hm, rfl⟩)
    -- the chain, the guards with what they need, and the declared roles
    refine ⟨?_, ?_, fun m hm => ⟨_, hguard m hm, ?_, ?_⟩, ?_, ?_, fun c => ?_, ?_⟩
    · exact mem_chain_of_mem_accessComponents (by simp [haccess, Blueprint.accessComponents])
    · exact not_mem_chain (Or.inl rfl) (by simp [haccess, Blueprint.accessComponents])
    · rw [hroles]
      exact hmem m hm
    · rw [← Layout.mem_grants, hgrants]
      exact (hmem m hm).elim (fun h => h ▸ List.mem_cons_self) (List.mem_cons_of_mem _)
    · rw [hroles]
      exact (by decide : Capability.ofFeatures.Nodup).filter _
    · rw [hroles]
      exact List.filter_sublist
    · rw [hroles, mem_capabilities_iff]
      refine and_congr_right fun _ => exists_congr fun m => and_congr_right fun hm => ?_
      rw [hguard m hm, Guard.role.injEq]
    · rw [hgrants, hroles]
  | owner =>
    rw [haccess, if_neg (by decide)] at hgrants
    refine ⟨?_, ?_, ?_, fun m hm => ?_, ?_, hgrants⟩
    · exact mem_chain_of_mem_accessComponents (by simp [haccess, Blueprint.accessComponents])
    · exact not_mem_chain (Or.inr rfl) (by simp [haccess, Blueprint.accessComponents])
    · refine List.mem_filterMap.mpr ⟨.ownable, ?_, rfl⟩
      exact mem_chain_of_mem_accessComponents (by simp [haccess, Blueprint.accessComponents])
    · rw [guard_of_mem_methods hm, haccess]
      rfl
    · rw [blueprintFor, haccess]
      rfl
  | unguarded =>
    rw [haccess, if_neg (by decide)] at hgrants
    refine ⟨?_, ?_, fun m hm => ?_, ?_, hgrants⟩
    · exact not_mem_chain (Or.inl rfl) (by simp [haccess, Blueprint.accessComponents])
    · exact not_mem_chain (Or.inr rfl) (by simp [haccess, Blueprint.accessComponents])
    · rw [guard_of_mem_methods hm, haccess]
      rfl
    · rw [blueprintFor, haccess]
      rfl

end Normalized

/-! ## Sources -/

/-- What a source has to say for an access model, outside literals. -/
structure Access.Written (access : Access) (b : Blueprint) (ts : List Token) : Prop where
  /-- A role that is asked for is built in or declared once. -/
  asked : ∀ args ∈ calls "onlyRole" ts, ∃ role, args = [word role] ∧
    (role = "DEFAULT_ADMIN_ROLE" ∨ (constants ts).count role = 1)
  /-- A role that is granted, to the sender, is built in or declared once. -/
  granted : ∀ args ∈ calls "_grantRole" ts, ∃ role,
    args = [word role, mark ',', word "msg", mark '.', word "sender"] ∧
      (role = "DEFAULT_ADMIN_ROLE" ∨ (constants ts).count role = 1)
  /-- A role that is declared is granted once, and something asks for it. -/
  declared : ∀ role ∈ constants ts,
    (calls "_grantRole" ts).count [word role, mark ',', word "msg", mark '.', word "sender"] = 1 ∧
      [word role] ∈ calls "onlyRole" ts
  /-- The grants stand in the one constructor. -/
  creation : ∃ c, constructors ts = [c] ∧ calls "_grantRole" c.body = calls "_grantRole" ts
  /-- A privileged function has the modifier of its guard and nothing else behind its parameters. -/
  guarded : ∀ d ∈ functions ts, ∀ kind, d.name ∈ Layout.functionNames kind →
    Reader.past (mark ')') d.header =
      word "public" :: Layout.guardTokens (access.guard kind.capability)
  /-- Every privileged method has a function. -/
  methods : ∀ m ∈ b.methods, ∃ d ∈ functions ts, d.name ∈ Layout.functionNames m.kind
  /-- Only access by roles has to do with roles. -/
  roles : access ≠ .roles →
    calls "onlyRole" ts = [] ∧ calls "_grantRole" ts = [] ∧ constants ts = []
  /-- Only access by ownership has to do with an owner. -/
  owner : access ≠ .owner → word "onlyOwner" ∉ ts
  /-- The contract inherits the chain. -/
  parents : ∃ name, contracts ts = [(name, listing (b.chain.map Component.name))]

namespace Layout

lemma eq_of_mem_functionNames {kind kind' : MethodKind} {name : String}
    (h : name ∈ functionNames kind) (h' : name ∈ functionNames kind') : kind = kind' := by
  have hclosed : ∀ name ∈ functionNames kind, name ∈ functionNames kind' → kind = kind' := by
    cases kind <;> cases kind' <;> decide
  exact hclosed name h h'

variable {layout : Kind} {b : Blueprint} {n : Normalized}

/-- What a text asks for are the roles that guard methods. -/
lemma mem_calls_onlyRole (h : b.Sound) {args : List Token} :
    args ∈ calls "onlyRole" (tokensOf (file layout b n).text) ↔
      ∃ m ∈ b.methods, ∃ c, m.guard = .role c ∧ args = [word c.role] := by
  rw [onlyRole_file h]
  simp only [List.mem_flatMap]
  constructor
  · rintro ⟨m, hm, r, -, hargs⟩
    refine ⟨m, hm, ?_⟩
    cases hguard : m.guard with
    | role c =>
      rw [hguard] at hargs
      exact ⟨c, rfl, List.mem_singleton.mp hargs⟩
    | _ =>
      rw [hguard] at hargs
      exact absurd hargs List.not_mem_nil
  · rintro ⟨m, hm, c, hguard, rfl⟩
    obtain ⟨r, hr⟩ := List.exists_mem_of_ne_nil _ (methodFunctions_ne_nil layout b m)
    refine ⟨m, hm, r, hr, ?_⟩
    rw [hguard]
    exact List.mem_singleton_self _

/-- The functions of privileged methods are known by their names. -/
lemma exists_method_of_mem_functionRoutines {r : Routine} {kind : MethodKind}
    (hr : r ∈ functionRoutines layout b n) (hname : r.declaration.name ∈ functionNames kind) :
    ∃ m ∈ b.methods, m.kind = kind ∧ r ∈ methodFunctions layout b m := by
  rcases List.mem_append.mp hr with hr | hr
  · rcases List.mem_append.mp hr with hr | hr
    · -- a fixed function
      have hfixed : ∀ name ∈ ["decimals", "_baseURI"], name ∉ functionNames kind := by
        cases kind <;> decide
      exact absurd hname (hfixed _ (name_fixed hr))
    · -- a function of a privileged method, and the name tells its kind
      obtain ⟨m, hm, hr⟩ := List.mem_flatMap.mp hr
      refine ⟨m, hm, ?_, hr⟩
      obtain ⟨name, parameters, body, wrapped, rfl, hm', -⟩ := guardedBy_method r hr
      exact eq_of_mem_functionNames hm' hname
  · -- an override
    obtain ⟨o, -, rfl⟩ := List.mem_map.mp hr
    have hhook : ∀ hook : Hook, hook.method ∉ functionNames kind := by
      intro hook
      cases hook <;> cases kind <;> decide
    exact absurd hname (hhook o.hook)

/-- They have the guards of their methods. -/
lemma past_header_of_mem_functions (h : b.Sound) {d : Declaration} {kind : MethodKind}
    (hd : d ∈ functions (tokensOf (file layout b n).text)) (hname : d.name ∈ functionNames kind) :
    ∃ m ∈ b.methods, m.kind = kind ∧
      Reader.past (mark ')') d.header = word "public" :: guardTokens m.guard := by
  rw [functions_file h] at hd
  obtain ⟨r, hr, rfl⟩ := List.mem_map.mp hd
  obtain ⟨m, hm, hkind, hr⟩ := exists_method_of_mem_functionRoutines hr hname
  exact ⟨m, hm, hkind, (guardedBy_method r hr).past_header⟩

lemma exists_function_of_mem_methods (h : b.Sound) {m : Method} (hm : m ∈ b.methods) :
    ∃ d ∈ functions (tokensOf (file layout b n).text), d.name ∈ functionNames m.kind := by
  obtain ⟨r, hr⟩ := List.exists_mem_of_ne_nil _ (methodFunctions_ne_nil layout b m)
  obtain ⟨name, parameters, body, wrapped, heq, hname, -⟩ := guardedBy_method r hr
  refine ⟨r.declaration, ?_, ?_⟩
  · rw [functions_file h]
    exact List.mem_map_of_mem (List.mem_append_left _
      (List.mem_append_right _ (List.mem_flatMap.mpr ⟨m, hm, hr⟩)))
  · rw [heq]
    exact hname

/-- The constants of a text have one line each. -/
lemma count_constants (h : b.Sound) (hnodup : b.roles.Nodup) {c : Capability} (hc : c ∈ b.roles) :
    (constants (tokensOf (file layout b n).text)).count c.role = 1 := by
  rw [constants_file h]
  refine List.count_eq_one_of_mem ?_ (List.mem_map_of_mem hc)
  exact hnodup.map fun _ _ => Capability.role_injective

/-- **A blueprint that enforces its access model is written so.** -/
theorem written_file (h : b.Sound) {access : Access} (henforced : access.Enforced b)
    (hguard : ∀ m ∈ b.methods, m.guard = access.guard m.kind.capability) :
    access.Written b (tokensOf (file layout b n).text) where
  asked args hargs := by
    obtain ⟨m, hm, c, hc, rfl⟩ := (mem_calls_onlyRole h).mp hargs
    refine ⟨c.role, rfl, ?_⟩
    by_cases hroles : access = .roles
    · subst hroles
      obtain ⟨c', hc', hrole, -⟩ := henforced.guarded m hm
      obtain rfl : c = c' := Guard.role.inj (hc.symm.trans hc')
      rcases hrole with rfl | hrole
      · exact Or.inl rfl
      · exact Or.inr (count_constants h henforced.nodup hrole)
    · exact absurd hc ((henforced.of_ne_roles hroles).1 m hm c)
  granted args hargs := by
    rw [grantRole_file h] at hargs
    obtain ⟨c, hc, rfl⟩ := List.mem_map.mp hargs
    refine ⟨c.role, rfl, ?_⟩
    by_cases hroles : access = .roles
    · subst hroles
      rw [henforced.grants] at hc
      rcases List.mem_cons.mp hc with rfl | hc
      · exact Or.inl rfl
      · exact Or.inr (count_constants h henforced.nodup hc)
    · rw [(henforced.of_ne_roles hroles).2.2] at hc
      exact absurd hc List.not_mem_nil
  declared role hrole := by
    rw [constants_file h] at hrole
    obtain ⟨c, hc, rfl⟩ := List.mem_map.mp hrole
    by_cases hroles : access = .roles
    · subst hroles
      obtain ⟨-, m, hm, hguardedBy⟩ := (henforced.used c).mp hc
      refine ⟨?_, (mem_calls_onlyRole h).mpr ⟨m, hm, c, hguardedBy, rfl⟩⟩
      -- a grant tells its role, so no two grants of a blueprint look the same
      have hnodup : ((grants b).map fun c => grantTokens c.role).Nodup := by
        rw [henforced.grants]
        refine (List.nodup_cons.mpr ⟨henforced.admin_not_mem, henforced.nodup⟩).map ?_
        intro c c' heq
        exact Capability.role_injective (Token.word.inj (List.cons.inj heq).1)
      have hmem : c ∈ grants b := henforced.grants ▸ List.mem_cons_of_mem _ hc
      rw [grantRole_file h]
      exact List.count_eq_one_of_mem hnodup (List.mem_map_of_mem hmem)
    · rw [(henforced.of_ne_roles hroles).2.1] at hc
      exact absurd hc List.not_mem_nil
  creation := by
    refine ⟨(Layout.creation layout b).declaration, constructors_file h, ?_⟩
    rw [grantRole_file h]
    exact (grantRole_body h).occurrences_eq
  guarded d hd kind hname := by
    obtain ⟨m, hm, rfl, hheader⟩ := past_header_of_mem_functions h hd hname
    rw [hheader, hguard m hm]
  methods m hm := exists_function_of_mem_methods h hm
  roles hroles := by
    obtain ⟨hguards, hdeclared, hgrants⟩ := henforced.of_ne_roles hroles
    refine ⟨List.eq_nil_iff_forall_not_mem.mpr fun args hargs => ?_, ?_, ?_⟩
    · obtain ⟨m, hm, c, hc, -⟩ := (mem_calls_onlyRole h).mp hargs
      exact hguards m hm c hc
    · rw [grantRole_file h, hgrants]
      rfl
    · rw [constants_file h, hdeclared]
      rfl
  owner howner := by
    refine onlyOwner_file h fun m hm heq => ?_
    rw [hguard m hm] at heq
    cases access with
    | roles => exact absurd heq (by simp [Access.guard])
    | owner => exact absurd rfl howner
    | unguarded => exact absurd heq (by simp [Access.guard])
  parents := ⟨_, contracts_file h⟩

end Layout

/-- **Access control is sound**, in every blueprint of a kind and in every source. -/
theorem access_enforced (k : Kind) :
    (∀ n : Normalized, n.standard = .known k →
      ∃ b, n.blueprint = .ok b ∧ n.access.Enforced b) ∧
    ∀ spec : Spec, spec.standard = .known k → ∃ b text, spec.normalize.blueprint = .ok b ∧
      spec.generate = .ok text ∧ spec.access.Written b (tokensOf text) := by
  constructor
  · intro n hn
    refine ⟨n.blueprintFor k, ?_, n.enforced_blueprintFor k⟩
    rw [Normalized.blueprint, hn]
    rfl
  · intro spec hspec
    refine ⟨spec.normalize.blueprintFor k, _, ?_, Spec.generate_known hspec, ?_⟩
    · rw [Normalized.blueprint, Spec.normalize_standard, hspec]
      rfl
    · exact Layout.written_file (Spec.sound_blueprintFor spec k)
        (spec.normalize.enforced_blueprintFor k) fun m hm => Normalized.guard_of_mem_methods hm

/-- Many assets with roles, and a name that looks like a grant. -/
def accessExample : Spec :=
  { Spec.named (.known .multiAsset) "_grantRole(MINTER_ROLE, msg.sender);" "M" with
    features := { mintable := true }, roleBased := true }

/-- Two roles are declared, and each is granted once. -/
theorem access_enforced_multiAsset :
    ∃ b text, accessExample.normalize.blueprint = .ok b ∧ b.roles = [.mint, .uriSet] ∧
      Layout.grants b = [.admin, .mint, .uriSet] ∧ accessExample.generate = .ok text ∧
      Access.Written .roles b (tokensOf text) := by
  obtain ⟨b, hb, henforced⟩ := (access_enforced .multiAsset).1 accessExample.normalize rfl
  obtain ⟨b', text, hb', htext, hwritten⟩ := (access_enforced .multiAsset).2 accessExample rfl
  cases hb
  cases hb'
  exact ⟨_, text, rfl, rfl, henforced.grants, htext, hwritten⟩

end TokenLaunch
