/-
# Supply and decimals agree

The supply that a fungible token mints is written in smallest units, so it means something only
together with the decimals that the contract reports.  The decimals come to the source, to what is
known of the contract and to the supply on three ways; they are the same on all of them, and the
supply divided by the unit is the quantity that was asked for (`Spec.supply_agrees`).  What is no
such quantity is not minted at all.
-/
import TokenLaunch.Proofs.Source.Functions

namespace TokenLaunch

open Solidity
open Token (ofChars word mark)

namespace Solidity

/-! ## Reading what is minted -/

/-- What a call that gives something to the sender says after the sender, up to the end of the
statement. -/
def Reader.toSender? : List Token → Option (List Token)
  | .mark '(' :: .word object :: .mark '.' :: .word field :: ts =>
    if object = "msg" ∧ field = "sender" then some (upTo (.mark ';') ts) else none
  | _ => none

/-- What a source mints to the sender, statement by statement. -/
def supplied : List Token → List (List Token) :=
  occurrences (word "_mint") Reader.toSender?

/-- What stands after the sender in the statement that mints an amount. -/
def supplyTokens (amount : String) : List Token :=
  [mark ',', word amount, mark ')']

/-- The number of decimals that a source reports: what the override returns, or as many as there
are without an override. -/
def reportedDecimals (ts : List Token) : ℕ :=
  match (functions ts).filter (·.name = "decimals") with
  | ⟨_, _, .word _ :: .word places :: _⟩ :: _ => Nat.ofDigitChars 10 places.toList 0
  | _ => Layout.defaultDecimals.toNat

lemma Reader.exists_of_toSender? {ts args : List Token} (h : toSender? ts = some args) :
    ∃ rest, ts = mark '(' :: word "msg" :: rest := by
  unfold toSender? at h
  split at h
  · split_ifs at h with hsender
    exact ⟨_, by rw [hsender.1]⟩
  · cases h

/-- Where the sender is not mentioned before a curly bracket, nothing is minted to the sender. -/
lemma reads_toSender_of_not_mem {key : Token} {ts : List Token} (hkey : key ≠ mark '}')
    (h : word "msg" ∉ ts) : Reads key Reader.toSender? (ts ++ [mark '}']) [] := by
  -- a call of the sender would have to begin before the bracket and to end after it
  have hread : ∀ us rest, word "msg" ∉ us → Reader.toSender? (us ++ mark '}' :: rest) = none := by
    intro us rest hus
    rw [Option.eq_none_iff_forall_ne_some]
    intro args hargs
    obtain ⟨more, hmore⟩ := Reader.exists_of_toSender? hargs
    rcases us with _ | ⟨t, _ | ⟨u, us⟩⟩
    · simp at hmore
    · simp at hmore
    · simp_all
  intro rest
  rw [List.append_assoc, List.singleton_append]
  induction ts with
  | nil => rw [List.nil_append, occurrences_cons, if_neg hkey.symm]
  | cons t ts ih =>
    have hts := List.not_mem_of_not_mem_cons h
    rw [List.cons_append, occurrences_cons, hread ts rest hts, ih hts]
    simp

end Solidity

/-! ## What a layout mints -/

namespace Layout

variable {layout : Kind} {b : Blueprint} {n : Normalized}

lemma isRoutineWord_mint : IsRoutineWord "_mint" := by
  decide

/-- The amount that a statement mints to the sender. -/
def supply? : Statement → Option String
  | .mintSupply amount => some amount
  | .grantRole _ => none

lemma tokens_mintSupply (m : ℕ) : (statement (.mintSupply m.repr)).tokens =
    word "_mint" :: ([mark '(', word "msg", mark '.', word "sender"] ++ supplyTokens m.repr ++
      [mark ';']) := by
  have hbefore : ofChars "_mint(msg.sender, ".toList =
      [word "_mint", mark '(', word "msg", mark '.', word "sender", mark ','] :=
    Token.ofChars_spelled rfl (by decide)
  have hafter : ofChars ");".toList = [mark ')', mark ';'] := Token.ofChars_spelled rfl (by decide)
  rw [statement, tokens_number m (by decide) (by decide), hbefore, hafter]
  rfl

lemma supplied_statement (h : b.Sound) {s : Statement} (hs : s ∈ b.constructorBody) :
    Reads (word "_mint") Reader.toSender? (statement s).tokens
      ((supply? s).map supplyTokens).toList := by
  cases s with
  | grantRole c =>
    have hgrant : word "_mint" ∉ (statement (.grantRole c)).tokens := by
      rw [tokens_grantRole]
      cases c <;> decide
    exact reads_of_not_mem hgrant
  | mintSupply amount =>
    obtain ⟨m, rfl⟩ := h.amounts amount hs
    have hamount : "_mint" ≠ m.repr := (repr_ne (c := 'm') (by decide) (by decide)).symm
    have hend : mark ';' ∉ supplyTokens m.repr := by simp [supplyTokens]
    have hnot : word "_mint" ∉ [mark '(', word "msg", mark '.', word "sender"] ++
        supplyTokens m.repr ++ [mark ';'] := by
      simp [supplyTokens, hamount]
    rw [tokens_mintSupply]
    refine reads_key_cons (x := some (supplyTokens m.repr)) hnot fun rest => ?_
    simp only [List.cons_append, List.append_assoc, List.nil_append]
    rw [Reader.toSender?, if_pos ⟨rfl, rfl⟩, Reader.upTo_append hend]

/-- The body of the constructor mints what the blueprint says. -/
lemma supplied_body (h : b.Sound) :
    Reads (word "_mint") Reader.toSender? (creation layout b).bodyTokens
      ((b.constructorBody.filterMap supply?).map supplyTokens) := by
  have hread := reads_flatMap fun s hs => supplied_statement h (s := s) hs
  rw [Routine.bodyTokens, creation, List.flatMap_map, List.map_filterMap,
    List.filterMap_eq_flatMap_toList]
  exact hread

lemma supplied_creation (h : b.Sound) :
    Reads (word "_mint") Reader.toSender? (creation layout b).tokens
      ((b.constructorBody.filterMap supply?).map supplyTokens) := by
  have hhead : word "_mint" ∉ Head.creation.opening ++ Head.creation.parameters := by decide
  have hqualifiers : word "_mint" ∉ (creation layout b).qualifiers.flatMap Line.tokens := by
    intro hmem
    obtain ⟨q, hq, hmem⟩ := List.mem_flatMap.mp hmem
    obtain ⟨call, -, rfl⟩ := List.mem_map.mp hq
    exact isRoutineWord_mint.not_mem_constructorCall (by decide) call hmem
  exact Routine.reads_tokens hhead (reads_of_not_mem hqualifiers) (supplied_body h)

/-! ### Functions do not know the sender -/

lemma FunctionLine.not_mem_sender {line : Line} (h : FunctionLine line) :
    word "msg" ∉ line.tokens := by
  have hcode : ∀ s ∈ functionCode, word "msg" ∉ ofChars s.toList := by
    intro s hs
    simp only [functionCode, List.mem_cons, List.not_mem_nil, or_false] at hs
    casesm* _ ∨ _
    all_goals
      subst s
      exact not_mem_spelled rfl (by decide)
  exact h.word_not_mem (by decide) (fun s hs _ => hcode s hs) ⟨'m', by decide, rfl⟩ (by decide)

lemma sender_not_mem_head : ∀ h ∈ functionHeads,
    word "msg" ∉ (Head.function h.1 h.2).opening ++ (Head.function h.1 h.2).parameters := by
  intro h hh
  simp only [functionHeads, List.mem_cons, List.not_mem_nil, or_false] at hh
  casesm* _ ∨ _
  all_goals
    subst h
    exact not_mem_head (by decide) rfl (by decide)

lemma IsFunction.reads_nothing {r : Routine} (h : IsFunction r) :
    Reads (word "_mint") Reader.toSender? r.tokens [] := by
  obtain ⟨p, hp, hhead⟩ := h.head
  have hsplit : r.tokens = (r.head.opening ++ r.head.parameters ++
      r.qualifiers.flatMap Line.tokens ++ mark '{' :: r.bodyTokens) ++ [mark '}'] := by
    simp [Routine.tokens, Routine.headerTokens]
  have hopening := sender_not_mem_head p hp
  -- some of the functions mint, but none of them to the sender
  rw [hsplit]
  refine reads_toSender_of_not_mem (by decide) ?_
  rw [hhead]
  simp only [List.mem_append, List.mem_cons, not_or] at hopening ⊢
  refine ⟨⟨hopening, fun hmem => ?_⟩, by simp, fun hmem => ?_⟩
  · obtain ⟨q, hq, hmem⟩ := List.mem_flatMap.mp hmem
    exact (h.qualifiers q hq).not_mem_sender hmem
  · obtain ⟨line, hline, hmem⟩ := List.mem_flatMap.mp hmem
    exact (h.body line hline).not_mem_sender hmem

/-- **What is minted to the sender** is what the blueprint has the constructor mint. -/
theorem supplied_file (h : b.Sound) :
    supplied (tokensOf (file layout b n).text) =
      (b.constructorBody.filterMap supply?).map supplyTokens := by
  have hnone : ((functionRoutines layout b n).flatMap fun _ => ([] : List (List Token))) = [] := by
    simp
  rw [supplied, isRoutineWord_mint.occurrences_file h (supplied_creation h)
    fun r hr => (isFunction r hr).reads_nothing, hnone, List.append_nil]

/-! ## What a layout reports -/

/-- The function that reports a number of decimals. -/
def decimalsDeclaration (places : ℕ) : Declaration :=
  ⟨"decimals", [mark '(', mark ')', word "public", word "pure", word "override", word "returns",
    mark '(', word "uint8", mark ')'], [word "return", word places.repr, mark ';']⟩

lemma declaration_decimals (d : UInt8) :
    (decimalsFunction d).declaration = decimalsDeclaration d.toNat := by
  have hheader : (decimalsFunction d).headerTokens = (decimalsDeclaration d.toNat).header := by
    have hclosed : (decimalsFunction 0).headerTokens = (decimalsDeclaration 0).header := by decide
    exact hclosed
  have hreturn : ofChars "return ".toList = [word "return"] := Token.ofChars_spelled rfl (by decide)
  have hend : ofChars ";".toList = [mark ';'] := by decide
  have hbody : (decimalsFunction d).bodyTokens = (decimalsDeclaration d.toNat).body := by
    rw [Routine.bodyTokens, decimalsFunction, List.flatMap_singleton,
      tokens_number d.toNat (by decide) (by decide), hreturn, hend]
    rfl
  rw [Routine.declaration, hheader, hbody]
  rfl

/-- **The decimals are overridden** by a fungible layout, unless they are what they would be
anyway. -/
theorem decimals_file (h : b.Sound) :
    (functions (tokensOf (file layout b n).text)).filter (·.name = "decimals") =
      if layout = .fungible ∧ n.decimals ≠ defaultDecimals then
        [decimalsDeclaration n.decimals.toNat]
      else [] := by
  have hmethods : ((b.methods.flatMap (methodFunctions layout b)).map Routine.declaration).filter
      (·.name = "decimals") = [] := by
    have hnames : ∀ kind, "decimals" ∉ functionNames kind := by
      intro kind
      cases kind <;> decide
    rw [List.filter_eq_nil_iff]
    simp only [List.forall_mem_map, List.mem_flatMap, decide_eq_true_eq]
    rintro r ⟨m, -, hr⟩ hdecimals
    obtain ⟨name, parameters, body, wrapped, rfl, hname, -⟩ := guardedBy_method r hr
    exact hnames m.kind (hdecimals ▸ hname)
  have hoverrides : ((b.overrides.map (overrideFunction layout)).map Routine.declaration).filter
      (·.name = "decimals") = [] := by
    have hnames : ∀ hook : Hook, hook.method ≠ "decimals" := by
      intro hook
      cases hook <;> decide
    rw [List.filter_eq_nil_iff]
    simp only [List.forall_mem_map, decide_eq_true_eq]
    exact fun o _ => hnames o.hook
  rw [functions_file h, functionRoutines, List.map_append, List.map_append, List.filter_append,
    List.filter_append, hmethods, hoverrides, List.append_nil, List.append_nil]
  cases layout with
  | fungible =>
    by_cases hd : n.decimals = defaultDecimals
    · simp [fixedRoutines, hd]
    · have hname : (decimalsDeclaration n.decimals.toNat).name = "decimals" := rfl
      simp [fixedRoutines, hd, declaration_decimals, hname]
  | uniqueAsset =>
    have hname : (baseUriFunction n.baseMetadataUri).declaration.name ≠ "decimals" := by
      have hbase : (baseUriFunction n.baseMetadataUri).declaration.name = "_baseURI" := rfl
      rw [hbase]
      decide
    simp [fixedRoutines, hname]
  | multiAsset => simp [fixedRoutines]

/-- The decimals of a fungible contract can be read in its text. -/
theorem reportedDecimals_file (h : b.Sound) :
    reportedDecimals (tokensOf (file .fungible b n).text) = n.decimals.toNat := by
  rw [reportedDecimals, decimals_file h]
  split_ifs with hd
  · simp [decimalsDeclaration, Nat.toList_repr, Nat.ofDigitChars_ten_toDigits]
  · have hdefault : n.decimals = defaultDecimals := by simpa using hd
    rw [hdefault]

end Layout

/-- The constructor of a fungible contract mints the supply, no other constructor mints. -/
lemma Normalized.supply_constructorBody (n : Normalized) (k : Kind) :
    ((n.blueprintFor k).constructorBody.filterMap Layout.supply?) =
      if k = .fungible then n.initialSupply.toList else [] := by
  have hsupply : ∀ amounts : List String,
      (amounts.map Statement.mintSupply).filterMap Layout.supply? = amounts := by
    intro amounts
    simp [List.filterMap_map, Layout.supply?, Function.comp_def]
  have hroles : (if n.access = .roles then
      (Capability.admin :: n.capabilities k).map Statement.grantRole else []).filterMap
        Layout.supply? = [] := by
    split_ifs
    · simp [Layout.supply?]
    · rfl
  rw [blueprintFor, constructorBody, List.filterMap_append, hroles, List.append_nil]
  split_ifs
  · exact hsupply _
  · rfl

/-! ## What a spec asks for -/

namespace Spec

open Quantity

/-- The decimals that a token is to have: those of its spec, but no more than a 256-bit word can
scale by. -/
def wantedDecimals (spec : Spec) : ℕ :=
  min spec.decimals.toNat 77

/-- The spec asks for a number of smallest units that a 256-bit word holds. -/
structure AsksFor (spec : Spec) (units : ℕ) : Prop where
  isNumber : IsNumber (counted spec.initialSupply)
  scaled : number (counted spec.initialSupply) * 10 ^ spec.wantedDecimals = units
  fits : units < 2 ^ 256

variable {spec : Spec} {k : Kind}

lemma AsksFor.unique {a b : ℕ} (ha : spec.AsksFor a) (hb : spec.AsksFor b) : a = b := by
  have hcast : (a : ℚ) = b := ha.scaled.symm.trans hb.scaled
  exact_mod_cast hcast

lemma toNat_effectiveDecimals (spec : Spec) :
    spec.effectiveDecimals.toNat = spec.wantedDecimals := by
  have hmax : maxDecimals.toNat = 77 := rfl
  unfold effectiveDecimals wantedDecimals
  split_ifs with h
  · rw [UInt8.lt_iff_toNat_lt, hmax] at h
    rw [hmax, min_eq_right h.le]
  · rw [UInt8.lt_iff_toNat_lt, hmax, not_lt] at h
    rw [min_eq_left h]

/-- A blank text denotes no number. -/
lemma not_isNumber_of_isBlankText {text : String} (h : Text.isBlankText text = true) :
    ¬ IsNumber (counted text) := by
  have hblank : ∀ c ∈ text.toList, Text.isBlank c = true := by
    simpa [Text.isBlankText] using h
  have htrim : (Text.trim text).toList = [] := by
    rw [Text.toList_trim, Text.trimChars, List.dropWhile_eq_nil_iff.mpr hblank, Text.dropEnd_nil]
  rintro ⟨-, -, c, hc, -⟩
  rw [counted, htrim] at hc
  cases hc

/-- The supply becomes a literal if and only if a number of units is asked for. -/
lemma supplyLiteral?_eq_some (spec : Spec) (amount : String) :
    supplyLiteral? spec.initialSupply spec.effectiveDecimals = some amount ↔
      ∃ units, spec.AsksFor units ∧ amount = units.repr := by
  have hsmall : 10 ^ spec.effectiveDecimals.toNat < wordLimit := by
    rw [tenPow_lt_wordLimit, toNat_effectiveDecimals, wantedDecimals]
    omega
  rw [supplyLiteral?]
  constructor
  · intro h
    split_ifs at h
    cases hscale : scale spec.initialSupply spec.effectiveDecimals with
    | error e => simp [hscale, Except.toOption] at h
    | ok s =>
      simp only [hscale, Except.toOption, Option.some.injEq] at h
      obtain ⟨units, hunits, rfl⟩ := exists_repr Word.exact hscale
      obtain ⟨hnumber, -, -, hfits⟩ := (scales Word.exact).accepted.mp ⟨_, hscale⟩
      rw [hunits] at hfits
      rw [unitsOf, toNat_effectiveDecimals] at hunits
      exact ⟨units, ⟨hnumber, hunits, by exact_mod_cast hfits⟩, h.symm⟩
  · rintro ⟨units, ⟨hnumber, hscaled, hfits⟩, rfl⟩
    rw [← toNat_effectiveDecimals] at hscaled
    have hplaces := (places_le_iff hnumber _).mpr ⟨units, hscaled⟩
    obtain ⟨m, hm, hanswer⟩ := scaleWith_of_places_le Word.exact hnumber hplaces
    have hunits : m = units := by
      have hcast : (m : ℚ) = units := hm.symm.trans hscaled
      exact_mod_cast hcast
    rw [hunits, if_pos ⟨hsmall, hfits⟩] at hanswer
    have hblank : Text.isBlankText spec.initialSupply ≠ true :=
      fun h => not_isNumber_of_isBlankText h hnumber
    rw [if_neg hblank, scale, hanswer]
    rfl

/-! ## What a spec gets -/

/-- How the supply and the decimals of a fungible contract fit together. -/
structure Supplied (spec : Spec) (c : Contract) : Prop where
  /-- What is known of the contract tells its decimals. -/
  bundle : c.decimals.map UInt8.toNat = some spec.wantedDecimals
  /-- The source overrides the decimals, unless there are eighteen. -/
  override : (functions (tokensOf c.source)).filter (·.name = "decimals") =
    if spec.wantedDecimals = 18 then [] else [Layout.decimalsDeclaration spec.wantedDecimals]
  /-- So these are the decimals that the source reports. -/
  reported : reportedDecimals (tokensOf c.source) = spec.wantedDecimals
  /-- The amount that is asked for is minted by one statement, the first of the constructor. -/
  minted : ∀ units, spec.AsksFor units →
    supplied (tokensOf c.source) = [supplyTokens units.repr] ∧
      ∃ d rest, constructors (tokensOf c.source) = [d] ∧
        d.body = word "_mint" :: ([mark '(', word "msg", mark '.', word "sender"] ++
          supplyTokens units.repr ++ [mark ';']) ++ rest ∧
        supplied d.body = [supplyTokens units.repr]
  /-- Nothing is minted if nothing is asked for. -/
  unminted : (∀ units, ¬ spec.AsksFor units) → supplied (tokensOf c.source) = []
  /-- An amount that is minted is written as a numeral, and in the unit that the source reports it
  is the quantity that is asked for. -/
  quantity : ∀ amount, supplyTokens amount ∈ supplied (tokensOf c.source) →
    IsNumeral amount (number (counted spec.initialSupply) * 10 ^ spec.wantedDecimals) ∧
      (Nat.ofDigitChars 10 amount.toList 0 : ℚ) / 10 ^ reportedDecimals (tokensOf c.source) =
        number (counted spec.initialSupply)

/-- A contract without supply and decimals. -/
structure Unsupplied (c : Contract) : Prop where
  bundle : c.decimals = none
  override : (functions (tokensOf c.source)).filter (·.name = "decimals") = []
  unminted : supplied (tokensOf c.source) = []

/-- The source of a spec mints the supply of a fungible token. -/
lemma supplied_source (spec : Spec) (k : Kind) :
    supplied (tokensOf (Layout.file k (spec.normalize.blueprintFor k) spec.normalize).text) =
      (if k = .fungible then spec.normalize.initialSupply.toList else []).map supplyTokens := by
  rw [Layout.supplied_file (sound_blueprintFor spec k), Normalized.supply_constructorBody]

section Fungible

variable (hstandard : spec.standard = .known .fungible)

include hstandard

/-- The supply of a fungible token is the number of units that is asked for. -/
lemma initialSupply_eq_some {amount : String} :
    spec.normalize.initialSupply = some amount ↔
      ∃ units, spec.AsksFor units ∧ amount = units.repr := by
  have hfungible : spec.isFungible = true := by
    rw [isFungible, hstandard]
    rfl
  rw [normalize, if_pos hfungible, supplyLiteral?_eq_some]

lemma supplied_of_asksFor {units : ℕ} (h : spec.AsksFor units) :
    supplied (tokensOf (spec.normalize.contractFor .fungible).source) =
      [supplyTokens units.repr] := by
  have hsupplied := supplied_source spec .fungible
  rw [if_pos rfl, (initialSupply_eq_some hstandard).mpr ⟨units, h, rfl⟩] at hsupplied
  exact hsupplied

lemma exists_asksFor_of_mem_supplied {args : List Token}
    (h : args ∈ supplied (tokensOf (spec.normalize.contractFor .fungible).source)) :
    ∃ units, spec.AsksFor units ∧ args = supplyTokens units.repr := by
  have hsupplied := supplied_source spec .fungible
  rw [if_pos rfl] at hsupplied
  obtain ⟨amount, hamount, rfl⟩ := List.mem_map.mp (hsupplied ▸ h)
  obtain ⟨units, hunits, rfl⟩ :=
    (initialSupply_eq_some hstandard).mp (Option.mem_toList.mp hamount)
  exact ⟨units, hunits, rfl⟩

/-- The constructor of a fungible contract starts with the statement that mints the supply, and no
other of its statements mints to the sender. -/
lemma body_creation {units : ℕ} (h : spec.AsksFor units) :
    (∃ rest, (Layout.creation .fungible (spec.normalize.blueprintFor .fungible)).bodyTokens =
        word "_mint" :: ([mark '(', word "msg", mark '.', word "sender"] ++
          supplyTokens units.repr ++ [mark ';']) ++ rest) ∧
      supplied (Layout.creation .fungible (spec.normalize.blueprintFor .fungible)).bodyTokens =
        [supplyTokens units.repr] := by
  have hsupply : spec.normalize.initialSupply = some units.repr :=
    (initialSupply_eq_some hstandard).mpr ⟨units, h, rfl⟩
  constructor
  · obtain ⟨more, hbody⟩ : ∃ more, (spec.normalize.blueprintFor .fungible).constructorBody =
        .mintSupply units.repr :: more := by
      rw [Normalized.blueprintFor, Normalized.constructorBody, if_pos rfl, hsupply]
      exact ⟨_, rfl⟩
    rw [Routine.bodyTokens, Layout.creation, hbody, List.map_cons, List.flatMap_cons,
      Layout.tokens_mintSupply]
    exact ⟨_, rfl⟩
  · rw [supplied, (Layout.supplied_body (sound_blueprintFor spec .fungible)).occurrences_eq,
      Normalized.supply_constructorBody, if_pos rfl, hsupply]
    rfl

/-- The contract of a fungible token has the decimals and the supply of its spec. -/
lemma supplied_contractFor : Supplied spec (spec.normalize.contractFor .fungible) := by
  have hplaces : spec.normalize.decimals.toNat = spec.wantedDecimals :=
    toNat_effectiveDecimals spec
  have hreported : reportedDecimals (tokensOf (spec.normalize.contractFor .fungible).source) =
      spec.wantedDecimals := by
    rw [← hplaces]
    exact Layout.reportedDecimals_file (sound_blueprintFor spec .fungible)
  constructor
  case bundle => simp [Normalized.contractFor, hplaces]
  case reported => exact hreported
  case override =>
    have hdefault : spec.normalize.decimals = Layout.defaultDecimals ↔
        spec.wantedDecimals = 18 := by
      rw [← hplaces, ← UInt8.toNat_inj]
      rfl
    have hdecimals : (functions (tokensOf (spec.normalize.contractFor .fungible).source)).filter
        (·.name = "decimals") = _ := Layout.decimals_file (sound_blueprintFor spec .fungible)
    simpa only [true_and, ne_eq, hdefault, ite_not, hplaces] using hdecimals
  case minted =>
    intro units h
    obtain ⟨⟨rest, hbody⟩, honly⟩ := body_creation hstandard h
    exact ⟨supplied_of_asksFor hstandard h, _, rest,
      Layout.constructors_file (sound_blueprintFor spec .fungible), hbody, honly⟩
  case unminted =>
    intro hnone
    refine List.eq_nil_iff_forall_not_mem.mpr fun args hargs => ?_
    obtain ⟨units, h, -⟩ := exists_asksFor_of_mem_supplied hstandard hargs
    exact hnone units h
  case quantity =>
    intro amount hmem
    obtain ⟨units, h, htokens⟩ := exists_asksFor_of_mem_supplied hstandard hmem
    obtain rfl : amount = units.repr := by
      simpa [supplyTokens] using htokens
    have hnumeral : IsNumeral units.repr
        (number (counted spec.initialSupply) * 10 ^ spec.wantedDecimals) := by
      rw [h.scaled]
      exact isNumeral_repr units
    refine ⟨hnumeral, ?_⟩
    rw [hnumeral.value, hreported]
    exact mul_div_cancel_right₀ _ (by positivity)

end Fungible

/-- A contract of another kind has neither decimals nor a supply. -/
lemma unsupplied_contractFor (spec : Spec) (hk : k ≠ .fungible) :
    Unsupplied (spec.normalize.contractFor k) where
  bundle := by simp [Normalized.contractFor, hk]
  override := by
    have hdecimals : (functions (tokensOf (spec.normalize.contractFor k).source)).filter
        (·.name = "decimals") = _ := Layout.decimals_file (sound_blueprintFor spec k)
    rwa [if_neg fun h => hk h.1] at hdecimals
  unminted := by
    have hsupplied := supplied_source spec k
    rw [if_neg hk] at hsupplied
    exact hsupplied

/-- **Supply and decimals agree.**  A fungible contract has the decimals of its spec on all ways,
and mints what it is asked for in that unit or nothing; a contract of another kind has neither
decimals nor a supply, whatever its spec says. -/
theorem supply_agrees (spec : Spec) (k : Kind) (hstandard : spec.standard = .known k) :
    ∃ c, spec.contract = .ok c ∧ spec.generate = .ok c.source ∧
      (k = .fungible → Supplied spec c) ∧ (k ≠ .fungible → Unsupplied c) := by
  refine ⟨_, contract_known hstandard, generate_known hstandard, ?_, unsupplied_contractFor spec⟩
  rintro rfl
  exact supplied_contractFor hstandard

/-- One and a half tokens with two decimals are a hundred and fifty units. -/
theorem supply_agrees_cents :
    ∃ c, ({ named (.known .fungible) "Coin" "C" with
        initialSupply := " 1_.50 ", decimals := 2 } : Spec).contract = .ok c ∧
      supplied (tokensOf c.source) = [supplyTokens "150"] ∧
      reportedDecimals (tokensOf c.source) = 2 := by
  obtain ⟨c, hc, -, hsupplied, -⟩ := supply_agrees
    { named (.known .fungible) "Coin" "C" with initialSupply := " 1_.50 ", decimals := 2 }
    .fungible rfl
  have hcounted : counted " 1_.50 " = ['1', '.', '5', '0'] := by decide
  have hnumber : number ['1', '.', '5', '0'] * 10 ^ 2 = ((150 : ℕ) : ℚ) := by
    have hdigits : Nat.ofDigitChars 10 (['1', '.', '5', '0'].filter Char.isDigit) 0 = 150 := by
      decide
    have hpoint : (behindPoint ['1', '.', '5', '0']).length = 2 := by decide
    rw [number, hdigits, hpoint]
    norm_num
  have hasks : ({ named (.known .fungible) "Coin" "C" with
      initialSupply := " 1_.50 ", decimals := 2 } : Spec).AsksFor 150 := by
    refine ⟨?_, ?_, by norm_num⟩
    · change IsNumber (counted " 1_.50 ")
      rw [hcounted]
      decide
    · change number (counted " 1_.50 ") * 10 ^ 2 = ((150 : ℕ) : ℚ)
      rw [hcounted, hnumber]
  have h := hsupplied rfl
  exact ⟨c, hc, (h.minted 150 hasks).1, h.reported⟩

end Spec

end TokenLaunch
