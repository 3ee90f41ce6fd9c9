/-
# Tokens with their literals

Among the tokens of a text a literal shows as its two quotes, whatever it says.  Here what the
literals say is put back: the lexemes of a text are its tokens, with a literal in place of every two
quotes that stand one behind the other (`lexemesOf`).

Tokens that are put together from parts take their literals part by part, if each part has a pair of
quotes for each of its literals (`Paired`).  Words are counted among lexemes as among tokens
(`count_fill`), so a text that declares one constructor has one constructor header, and the calls in
it are read with their arguments (`Layout.constructorCalls_file`).
-/
import TokenLaunch.Proofs.Construction
import TokenLaunch.Proofs.Source.Decoding
import TokenLaunch.Proofs.WellFormed

namespace TokenLaunch
namespace Solidity

open Token (word mark)

/-- A token of the code, or a literal by what stands between its quotes. -/
inductive Lexeme
  /-- A token. -/
  | token (t : Token)
  /-- A literal. -/
  | literal (said : List Char)
deriving DecidableEq

namespace Lexeme

/-- Put literals back: the next one takes the place of the next two quotes. -/
def fill : List Token → List (List Char) → List Lexeme
  | .mark '"' :: .mark '"' :: ts, said :: later => literal said :: fill ts later
  | t :: ts, saids => token t :: fill ts saids
  | [], _ => []

/-- Tokens that have a pair of quotes for each of the literals, whatever follows. -/
def Paired (ts : List Token) (saids : List (List Char)) : Prop :=
  ∀ us later, fill (ts ++ us) (saids ++ later) = fill ts saids ++ fill us later

variable {ts us : List Token} {saids later : List (List Char)}

lemma fill_cons {t : Token} (h : t ≠ mark '"') (ts : List Token) (saids : List (List Char)) :
    fill (t :: ts) saids = token t :: fill ts saids := by
  rw [fill]
  intros
  contradiction

/-- Without quotes there is no place for a literal. -/
lemma fill_append_of_not_mem (h : mark '"' ∉ ts) (us : List Token) (saids : List (List Char)) :
    fill (ts ++ us) saids = ts.map token ++ fill us saids := by
  induction ts with
  | nil => rfl
  | cons t ts ih =>
    rw [List.cons_append, fill_cons (List.ne_of_not_mem_cons h).symm,
      ih (List.not_mem_of_not_mem_cons h)]
    rfl

lemma fill_of_not_mem (h : mark '"' ∉ ts) : fill ts saids = ts.map token := by
  have hfill := fill_append_of_not_mem h [] saids
  rwa [List.append_nil, fill, List.append_nil] at hfill

lemma paired_of_not_mem (h : mark '"' ∉ ts) : Paired ts [] := by
  intro us later
  rw [fill_of_not_mem h]
  exact fill_append_of_not_mem h us later

lemma paired_quotes (said : List Char) : Paired [mark '"', mark '"'] [said] :=
  fun _ _ => rfl

lemma Paired.append (hts : Paired ts saids) (hus : Paired us later) :
    Paired (ts ++ us) (saids ++ later) := by
  intro vs last
  rw [List.append_assoc, List.append_assoc, hts, hus, hts, List.append_assoc]

lemma paired_flatMap {α : Type} {xs : List α} {f : α → List Token} {g : α → List (List Char)}
    (h : ∀ x ∈ xs, Paired (f x) (g x)) : Paired (xs.flatMap f) (xs.flatMap g) := by
  induction xs with
  | nil => exact paired_of_not_mem List.not_mem_nil
  | cons x xs ih =>
    obtain ⟨hx, hxs⟩ := List.forall_mem_cons.mp h
    exact hx.append (ih hxs)

/-- Parts take their literals one by one. -/
lemma fill_flatMap {α : Type} {xs : List α} {f : α → List Token} {g : α → List (List Char)}
    (h : ∀ x ∈ xs, Paired (f x) (g x)) :
    fill (xs.flatMap f) (xs.flatMap g) = xs.flatMap fun x => fill (f x) (g x) := by
  induction xs with
  | nil => rfl
  | cons x xs ih =>
    obtain ⟨hx, hxs⟩ := List.forall_mem_cons.mp h
    rw [List.flatMap_cons, List.flatMap_cons, hx, ih hxs, List.flatMap_cons]

/-- Parts with commas between them take their literals one by one as well. -/
lemma fill_intercalate {α : Type} {xs : List α} {f : α → List Token} {g : α → List (List Char)}
    (h : ∀ x ∈ xs, Paired (f x) (g x)) :
    Paired ([mark ','].intercalate (xs.map f)) (xs.flatMap g) ∧
      fill ([mark ','].intercalate (xs.map f)) (xs.flatMap g) =
        [token (mark ',')].intercalate (xs.map fun x => fill (f x) (g x)) := by
  match xs with
  | [] => exact ⟨paired_of_not_mem List.not_mem_nil, rfl⟩
  | [x] => simpa using h x (by simp)
  | x :: y :: xs =>
    obtain ⟨hx, hxs⟩ := List.forall_mem_cons.mp h
    obtain ⟨hpaired, hfill⟩ := fill_intercalate hxs
    have hcomma : Paired [mark ','] [] := paired_of_not_mem (by decide)
    have hjoin : [mark ','].intercalate ((x :: y :: xs).map f) =
        f x ++ ([mark ','] ++ [mark ','].intercalate ((y :: xs).map f)) := by
      simp [List.intercalate_cons_cons]
    have hliterals : (x :: y :: xs).flatMap g = g x ++ ([] ++ (y :: xs).flatMap g) := rfl
    rw [hjoin, hliterals]
    refine ⟨hx.append (hcomma.append hpaired), ?_⟩
    rw [hx, hcomma, hfill]
    simp [List.intercalate_cons_cons, fill_of_not_mem]

lemma mem_of_mem_fill {t : Token} (h : token t ∈ fill ts saids) : t ∈ ts := by
  induction ts, saids using fill.induct with
  | case1 ts said later ih =>
    rw [fill, List.mem_cons] at h
    exact List.mem_cons_of_mem _ (List.mem_cons_of_mem _ (ih (h.resolve_left (by simp))))
  | case2 u ts saids hnot ih =>
    rw [fill, List.mem_cons] at h
    · rcases h with h | h
      · rw [token.inj h]
        exact List.mem_cons_self
      · exact List.mem_cons_of_mem _ (ih h)
    · exact hnot
  | case3 saids => simp [fill] at h

/-- Putting literals back leaves the words. -/
lemma count_fill (name : String) (ts : List Token) (saids : List (List Char)) :
    (fill ts saids).count (token (word name)) = ts.count (word name) := by
  induction ts, saids using fill.induct with
  | case1 ts said later ih => simpa [fill] using ih
  | case2 t ts saids hnot ih =>
    rw [fill, List.count_cons, List.count_cons, ih]
    · simp
    · exact hnot
  | case3 saids => rfl

end Lexeme

/-- The lexemes of a source text. -/
def lexemesOf (text : String) : List Lexeme :=
  Lexeme.fill (tokensOf text) (literalsOf text)

/-! ## Reading constructor headers -/

namespace Lexeme

/-- The headers of the constructors that a source declares: what stands between the word for it and
the next opening brace. -/
def constructorHeaders (xs : List Lexeme) : List (List Lexeme) :=
  (xs.splitOn (token (word "constructor"))).tail.map fun rest =>
    (rest.splitOn (token (mark '{'))).headD []

/-- An argument, if it is a string or the deploying account. -/
def argument? : List Lexeme → Option Argument
  | [literal said] => (Literal.decode? said).map fun value => .text (String.ofList value)
  | xs =>
    if xs = [token (word "msg"), token (mark '.'), token (word "sender")] then some .sender
    else none

/-- Arguments with commas between them. -/
def arguments? (xs : List Lexeme) : Option (List Argument) :=
  (xs.splitOn (token (mark ','))).mapM argument?

/-- A call: a name, right behind it an opening bracket, and what stands up to the closing one. -/
def call? : Lexeme → List Lexeme → Option (String × Option (List Argument))
  | token (.word name), token (.mark '(') :: xs =>
    some (name, arguments? ((xs.splitOn (token (mark ')'))).headD []))
  | _, _ => none

/-- The calls in a list of lexemes, each with its arguments. -/
def calls : List Lexeme → List (String × Option (List Argument))
  | [] => []
  | x :: xs => (call? x xs).toList ++ calls xs

/-- A text with one constructor has one constructor header. -/
lemma constructorHeaders_append {front header back : List Lexeme}
    (hfront : token (word "constructor") ∉ front)
    (hback : token (word "constructor") ∉ header ++ token (mark '{') :: back)
    (hheader : token (mark '{') ∉ header) :
    constructorHeaders
        (front ++ token (word "constructor") :: (header ++ token (mark '{') :: back)) =
      [header] := by
  rw [constructorHeaders, List.splitOn_append_cons_self_of_not_mem hfront,
    List.splitOn_eq_singleton hback, List.tail_cons, List.map_singleton,
    List.splitOn_append_cons_self_of_not_mem hheader, List.headD_cons]

lemma calls_cons (x : Lexeme) (xs : List Lexeme) :
    calls (x :: xs) = (call? x xs).toList ++ calls xs := rfl

/-- There is no call without an opening bracket. -/
lemma call?_of_head? {x : Lexeme} {xs : List Lexeme} (h : token (mark '(') ∉ xs.head?) :
    call? x xs = none := by
  unfold call?
  split
  · exact absurd rfl h
  · rfl

/-- There are no calls among arguments. -/
lemma calls_arguments {xs : List Lexeme} (h : token (mark '(') ∉ xs) (rest : List Lexeme) :
    calls (xs ++ token (mark ')') :: rest) = calls rest := by
  induction xs with
  | nil => rfl
  | cons x xs ih =>
    have hxs : token (mark '(') ∉ xs := List.not_mem_of_not_mem_cons h
    have hhead : token (mark '(') ∉ (xs ++ token (mark ')') :: rest).head? := by
      cases xs with
      | nil => simp
      | cons y ys => simpa [eq_comm] using List.ne_of_not_mem_cons hxs
    rw [List.cons_append, calls_cons, call?_of_head? hhead, ih hxs]
    rfl

/-- A call is read with its arguments. -/
lemma calls_append {xs : List Lexeme} (name : String) (hopen : token (mark '(') ∉ xs)
    (hclose : token (mark ')') ∉ xs) (rest : List Lexeme) :
    calls (token (word name) :: token (mark '(') :: (xs ++ token (mark ')') :: rest)) =
      (name, arguments? xs) :: calls rest := by
  have hbracket : call? (token (mark '(')) (xs ++ token (mark ')') :: rest) = none := rfl
  rw [calls_cons, calls_cons, hbracket, calls_arguments hopen, call?,
    List.splitOn_append_cons_self_of_not_mem hclose]
  rfl

end Lexeme

end Solidity

/-! ## The constructor of a file -/

namespace Layout

open Solidity
open Token (word mark)
open Lexeme (Paired fill token literal)

/-- What stands between the quotes of literals with these values. -/
def bodies (values : List String) : List (List Char) :=
  values.map fun value => Literal.body value.toList

/-- An argument of a constructor call. -/
def argumentLexemes : Argument → List Lexeme
  | .text value => [literal (Literal.body value.toList)]
  | .sender => [token (word "msg"), token (mark '.'), token (word "sender")]

/-- Arguments of a constructor call. -/
def argumentsLexemes (arguments : List Argument) : List Lexeme :=
  [token (mark ',')].intercalate (arguments.map argumentLexemes)

lemma bodies_eq_flatMap (values : List String) :
    bodies values = values.flatMap fun value => [Literal.body value.toList] :=
  List.map_eq_flatMap

lemma bodies_append (vs ws : List String) : bodies (vs ++ ws) = bodies vs ++ bodies ws :=
  List.map_append

lemma bodies_flatMap {α : Type} (xs : List α) (f : α → List String) :
    bodies (xs.flatMap f) = xs.flatMap fun x => bodies (f x) :=
  List.map_flatMap

/-- The arguments of a call take the strings among them. -/
lemma fill_arguments (arguments : List Argument) :
    Paired ([mark ','].intercalate (arguments.map argumentTokens))
        (bodies (arguments.filterMap Argument.text?)) ∧
      fill ([mark ','].intercalate (arguments.map argumentTokens))
        (bodies (arguments.filterMap Argument.text?)) = argumentsLexemes arguments := by
  have hpaired : ∀ a ∈ arguments, Paired (argumentTokens a) (bodies a.text?.toList) := by
    intro a _
    cases a with
    | text value => exact Lexeme.paired_quotes _
    | sender => exact Lexeme.paired_of_not_mem (by decide)
  have hfill : ∀ a : Argument, fill (argumentTokens a) (bodies a.text?.toList) =
      argumentLexemes a := by
    intro a
    cases a <;> rfl
  have htexts : bodies (arguments.filterMap Argument.text?) =
      arguments.flatMap fun a => bodies a.text?.toList := by
    rw [List.filterMap_eq_flatMap_toList, bodies_flatMap]
  rw [htexts, argumentsLexemes, ← List.map_congr_left fun a _ => hfill a]
  exact Lexeme.fill_intercalate hpaired

/-- A constructor call. -/
def callLexemes (call : ConstructorCall) : List Lexeme :=
  token (word call.target.name) :: token (mark '(') ::
    (argumentsLexemes call.arguments ++ [token (mark ')')])

lemma fill_constructorCall (call : ConstructorCall) :
    Paired (constructorCall call).tokens (bodies call.texts) ∧
      fill (constructorCall call).tokens (bodies call.texts) = callLexemes call := by
  obtain ⟨hpaired, hfill⟩ := fill_arguments call.arguments
  have hname : Paired [word call.target.name, mark '('] [] :=
    Lexeme.paired_of_not_mem (by simp)
  have hclose : Paired [mark ')'] [] := Lexeme.paired_of_not_mem (by decide)
  have htokens : (constructorCall call).tokens = [word call.target.name, mark '('] ++
      ([mark ','].intercalate (call.arguments.map argumentTokens) ++ [mark ')']) :=
    tokens_constructorCall call
  have htexts : bodies call.texts = [] ++ (bodies call.texts ++ []) := by simp
  rw [htokens, htexts]
  refine ⟨hname.append (hpaired.append hclose), ?_⟩
  rw [hname, ConstructorCall.texts, hpaired, hfill]
  rfl

variable {layout : Kind} {b : Blueprint} {n : Normalized}

/-- What stands between the word for the constructor and its body. -/
def headerLexemes (b : Blueprint) : List Lexeme :=
  token (mark '(') :: token (mark ')') :: b.constructorCalls.flatMap callLexemes

lemma fill_header (layout : Kind) (b : Blueprint) :
    Paired (creation layout b).headerTokens
      (bodies (b.constructorCalls.flatMap ConstructorCall.texts)) ∧
    fill (creation layout b).headerTokens
      (bodies (b.constructorCalls.flatMap ConstructorCall.texts)) = headerLexemes b := by
  have hround : Paired [mark '(', mark ')'] [] := Lexeme.paired_of_not_mem (by decide)
  have hcalls : ∀ call ∈ b.constructorCalls,
      Paired (constructorCall call).tokens (bodies call.texts) :=
    fun call _ => (fill_constructorCall call).1
  have htokens : (creation layout b).headerTokens = [mark '(', mark ')'] ++
      b.constructorCalls.flatMap fun call => (constructorCall call).tokens := by
    rw [Routine.headerTokens, creation, List.flatMap_map]
    rfl
  have htexts : bodies (b.constructorCalls.flatMap ConstructorCall.texts) =
      [] ++ b.constructorCalls.flatMap fun call => bodies call.texts := by
    rw [bodies_flatMap, List.nil_append]
  rw [htokens, htexts]
  refine ⟨hround.append (Lexeme.paired_flatMap hcalls), ?_⟩
  rw [hround, Lexeme.fill_flatMap hcalls,
    List.flatMap_congr fun call _ => (fill_constructorCall call).2]
  rfl

/-- What stands in front of the constructor. -/
def frontTokens (layout : Kind) (b : Blueprint) (n : Normalized) : List Token :=
  SourceFile.marker ++ b.imports.flatMap (fun _ => SourceFile.importTokens) ++
    (file layout b n).declarationTokens ++
      ((roleMembers b).flatMap Member.tokens ++ (stateMembers layout).flatMap Member.tokens)

lemma paired_imports (paths : List String) :
    Paired (paths.flatMap fun _ => SourceFile.importTokens) (bodies paths) := by
  have himport : ∀ said, Paired SourceFile.importTokens [said] := fun _ _ _ => rfl
  rw [bodies_eq_flatMap]
  exact Lexeme.paired_flatMap fun path _ => himport _

lemma paired_declarationTokens (f : SourceFile) : Paired f.declarationTokens [] := by
  refine Lexeme.paired_of_not_mem fun hmem => ?_
  simp only [SourceFile.declarationTokens, List.mem_cons, List.mem_append, reduceCtorEq,
    false_or, List.not_mem_nil, or_false] at hmem
  rcases hmem with hmem | hmem
  · rcases mem_listing hmem with hcomma | ⟨_, _, hword⟩
    · exact absurd hcomma (by decide)
    · cases hword
  · exact absurd hmem (by decide)

lemma paired_roleMembers (b : Blueprint) :
    Paired ((roleMembers b).flatMap Member.tokens) (bodies (b.roles.map Capability.role)) := by
  have hrole : ∀ name said, Paired (Member.nameHashTokens name) [said] := fun _ _ _ _ => rfl
  have hnames : ∀ name ∈ b.roles.map Capability.role, IsName name :=
    List.forall_mem_map.mpr fun c _ => c.isName_role
  unfold roleMembers
  split_ifs with hempty
  · rw [List.isEmpty_iff.mp hempty]
    exact Lexeme.paired_of_not_mem List.not_mem_nil
  · rw [List.flatMap_singleton, Member.tokens_nameHashes hnames, bodies_eq_flatMap]
    exact Lexeme.paired_flatMap fun name _ => hrole name _

lemma paired_stateMembers (layout : Kind) :
    Paired ((stateMembers layout).flatMap Member.tokens) [] := by
  refine Lexeme.paired_of_not_mem ?_
  cases layout <;> decide

/-- The literals in front of the constructor are the imports and the roles. -/
lemma paired_front : Paired (frontTokens layout b n)
    (bodies (b.imports ++ b.roles.map Capability.role)) := by
  have hmarker : Paired SourceFile.marker [] := Lexeme.paired_of_not_mem (by decide)
  have hfront := ((hmarker.append (paired_imports b.imports)).append
    (paired_declarationTokens (file layout b n))).append
      ((paired_roleMembers b).append (paired_stateMembers layout))
  rw [List.nil_append, List.append_nil, List.append_nil, ← bodies_append] at hfront
  exact hfront

/-- The tokens of a text are what stands in front of the constructor, the constructor's header, and
the rest. -/
lemma exists_tokens_file (layout : Kind) (n : Normalized) (h : b.Sound) : ∃ back,
    tokensOf (file layout b n).text = frontTokens layout b n ++ ([word "constructor"] ++
      ((creation layout b).headerTokens ++ ([mark '{'] ++ back))) := by
  obtain ⟨rest, hmembers⟩ : ∃ rest, (file layout b n).members =
      roleMembers b ++ stateMembers layout ++ .routine (creation layout b) :: rest :=
    ⟨_, by simp only [file, members, List.append_assoc, List.singleton_append]; rfl⟩
  have hcreation : (Member.routine (creation layout b)).tokens = word "constructor" ::
      ((creation layout b).headerTokens ++ mark '{' ::
        ((creation layout b).bodyTokens ++ [mark '}'])) :=
    Member.tokens_routine (plain_creation h)
  refine ⟨(creation layout b).bodyTokens ++ mark '}' :: (rest.flatMap Member.tokens ++ [mark '}']),
    ?_⟩
  rw [SourceFile.tokens_text (plain_file h), hmembers, List.flatMap_append, List.flatMap_append,
    List.flatMap_cons, hcreation, frontTokens]
  simp only [List.append_assoc, List.cons_append, List.nil_append]
  rfl

/-- The lexemes of a text, with the constructor's header among them. -/
lemma exists_lexemes_file (layout : Kind) (n : Normalized) (h : b.Sound) : ∃ front back,
    lexemesOf (file layout b n).text =
      front ++ token (word "constructor") :: (headerLexemes b ++ token (mark '{') :: back) := by
  obtain ⟨back, htokens⟩ := exists_tokens_file layout n h
  have hword : Paired [word "constructor"] [] := Lexeme.paired_of_not_mem (by decide)
  have hbrace : Paired [mark '{'] [] := Lexeme.paired_of_not_mem (by decide)
  obtain ⟨hheader, hfill⟩ := fill_header layout b
  -- the constructor's own literals are among those of the file in their place
  have hliterals : literalsOf (file layout b n).text =
      bodies (b.imports ++ b.roles.map Capability.role) ++
        ([] ++ (bodies (b.constructorCalls.flatMap ConstructorCall.texts) ++
          ([] ++ bodies ((functionRoutines layout b n).flatMap
            fun r => (Member.routine r).literals)))) := by
    rw [SourceFile.text, literalsOf_text (plain_file h).unquoted, literals_file]
    simp only [bodies, List.map_append, List.append_assoc, List.nil_append]
  refine ⟨fill (frontTokens layout b n) (bodies (b.imports ++ b.roles.map Capability.role)),
    fill back (bodies ((functionRoutines layout b n).flatMap
      fun r => (Member.routine r).literals)), ?_⟩
  rw [lexemesOf, htokens, hliterals, paired_front, hword, hheader, hfill, hbrace]
  rfl

/-- No bracket stands among arguments, and they are read as what literals keep of them. -/
lemma arguments?_argumentsLexemes {arguments : List Argument} (h : arguments ≠ []) :
    Lexeme.arguments? (argumentsLexemes arguments) = some (arguments.map Argument.kept) := by
  have hargument : ∀ a, Lexeme.argument? (argumentLexemes a) = some a.kept := by
    intro a
    cases a with
    | sender => rfl
    | text value => rw [argumentLexemes, Lexeme.argument?, Literal.decode?_body]; rfl
  have hcomma : ∀ xs ∈ arguments.map argumentLexemes, token (mark ',') ∉ xs := by
    refine List.forall_mem_map.mpr fun a _ => ?_
    cases a <;> simp [argumentLexemes]
  have hmap : ∀ as : List Argument,
      (as.map argumentLexemes).mapM Lexeme.argument? = some (as.map Argument.kept) := by
    intro as
    induction as with
    | nil => rfl
    | cons a as ih => simp [List.mapM_cons, hargument, ih]
  rw [Lexeme.arguments?, argumentsLexemes, List.splitOn_intercalate _ hcomma (by simpa using h),
    hmap]

lemma not_mem_argumentsLexemes {c : Char} (hc : c ∉ [',', '.']) (arguments : List Argument) :
    token (mark c) ∉ argumentsLexemes arguments := by
  simp only [List.mem_cons, List.not_mem_nil, or_false, not_or] at hc
  intro hmem
  obtain ⟨xs, hxs, hx⟩ := List.mem_flatten.mp hmem
  -- in an argument, or a comma between two of them
  rcases eq_or_mem_of_mem_intersperse hxs with rfl | hxs
  · exact hc.1 (by simpa using hx)
  · obtain ⟨a, -, rfl⟩ := List.mem_map.mp hxs
    cases a with
    | text value => simp [argumentLexemes] at hx
    | sender => exact hc.2 (by simpa [argumentLexemes] using hx)

/-- The calls in a header. -/
lemma calls_headerLexemes (harguments : ∀ call ∈ b.constructorCalls, call.arguments ≠ []) :
    Lexeme.calls (headerLexemes b) =
      b.constructorCalls.map fun call => (call.target.name, some call.kept.arguments) := by
  have hcalls : ∀ calls : List ConstructorCall, (∀ call ∈ calls, call.arguments ≠ []) →
      Lexeme.calls (calls.flatMap callLexemes) =
        calls.map fun call => (call.target.name, some call.kept.arguments) := by
    intro calls h
    induction calls with
    | nil => rfl
    | cons call calls ih =>
      obtain ⟨hcall, hrest⟩ := List.forall_mem_cons.mp h
      have happend : (call :: calls).flatMap callLexemes =
          token (word call.target.name) :: token (mark '(') ::
            (argumentsLexemes call.arguments ++ token (mark ')') ::
              calls.flatMap callLexemes) := by
        simp [callLexemes]
      rw [happend, Lexeme.calls_append _ (not_mem_argumentsLexemes (by decide) _)
        (not_mem_argumentsLexemes (by decide) _), arguments?_argumentsLexemes hcall, ih hrest]
      rfl
  exact hcalls b.constructorCalls harguments

/-- **A text has one constructor header**, in which every call is read with what literals keep of
its arguments. -/
theorem constructorCalls_file (layout : Kind) (n : Normalized) (h : b.Sound)
    (harguments : ∀ call ∈ b.constructorCalls, call.arguments ≠ []) :
    ∃ header, Lexeme.constructorHeaders (lexemesOf (file layout b n).text) = [header] ∧
      Lexeme.calls header =
        b.constructorCalls.map fun call => (call.target.name, some call.kept.arguments) := by
  obtain ⟨front, back, hlexemes⟩ := exists_lexemes_file layout n h
  have hcount : (lexemesOf (file layout b n).text).count (token (word "constructor")) = 1 := by
    rw [lexemesOf, Lexeme.count_fill]
    exact (wellFormed_file h).constructor.1
  have hbrace : token (mark '{') ∉ headerLexemes b := by
    have hquiet : mark '{' ∉ (creation layout b).headerTokens :=
      (plain_creation h).quiet_header _ (by decide)
    rw [← (fill_header layout b).2]
    exact fun hmem => hquiet (Lexeme.mem_of_mem_fill hmem)
  -- the one that is there leaves none for the rest
  rw [hlexemes, List.count_append, List.count_cons_self] at hcount
  refine ⟨headerLexemes b, ?_, calls_headerLexemes harguments⟩
  rw [hlexemes]
  refine Lexeme.constructorHeaders_append (List.count_eq_zero.mp ?_) (List.count_eq_zero.mp ?_)
    hbrace
  · omega
  · omega

end Layout
end TokenLaunch
