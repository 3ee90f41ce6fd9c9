/-
# Names of contracts

A contract's name is its symbol with the suffix of its kind behind it.  The symbol is cleared of
what cannot stand in an identifier before the suffix follows, while the rule is about the name as a
whole: all but letters, digits and underscores goes, and an underscore comes in front if a digit
would be first (`Identifier.reduced`).  The two agree because a suffix is an identifier itself
(`Identifier.ofSymbol_eq_reduced`).  So the name is an identifier, it is the name of no component,
and clearing a symbol twice is clearing it once (`Identifier.ofSymbol_fresh`).
-/
import TokenLaunch.Proofs.Source.Layout

namespace TokenLaunch
namespace Solidity
namespace Identifier

/-! ## The rule -/

/-- A decimal digit. -/
def IsDigit (c : Char) : Prop := '0' ≤ c ∧ c ≤ '9'

instance (c : Char) : Decidable (IsDigit c) := inferInstanceAs (Decidable (_ ∧ _))

/-- A letter of ASCII, a digit or an underscore. -/
def IsWordCharacter (c : Char) : Prop :=
  ('A' ≤ c ∧ c ≤ 'Z') ∨ ('a' ≤ c ∧ c ≤ 'z') ∨ IsDigit c ∨ c = '_'

instance (c : Char) : Decidable (IsWordCharacter c) :=
  inferInstanceAs (Decidable (_ ∨ _ ∨ _ ∨ _))

/-- The first character of a text is a digit. -/
def StartsWithDigit : List Char → Prop
  | [] => False
  | c :: _ => IsDigit c

instance : (cs : List Char) → Decidable (StartsWithDigit cs)
  | [] => inferInstanceAs (Decidable False)
  | c :: _ => inferInstanceAs (Decidable (IsDigit c))

@[simp] lemma not_startsWithDigit_nil : ¬ StartsWithDigit [] := id

@[simp] lemma startsWithDigit_cons {c : Char} {cs : List Char} :
    StartsWithDigit (c :: cs) ↔ IsDigit c := Iff.rfl

/-- A text that can name something. -/
structure IsIdentifier (cs : List Char) : Prop where
  ne_nil : cs ≠ []
  word : ∀ c ∈ cs, IsWordCharacter c
  head : ¬ StartsWithDigit cs

/-- A text without the characters that cannot stand in an identifier, and behind an underscore if a
digit comes first then. -/
def reduced (cs : List Char) : List Char :=
  let kept := cs.filter fun c => decide (IsWordCharacter c)
  if StartsWithDigit kept then '_' :: kept else kept

lemma isUpper_iff {c : Char} : c.isUpper = true ↔ 'A' ≤ c ∧ c ≤ 'Z' :=
  decide_eq_true_iff

lemma isLower_iff {c : Char} : c.isLower = true ↔ 'a' ≤ c ∧ c ≤ 'z' :=
  Bool.and_eq_true_iff.trans (and_congr decide_eq_true_iff decide_eq_true_iff)

lemma isDigit_iff {c : Char} : c.isDigit = true ↔ IsDigit c :=
  Bool.and_eq_true_iff.trans (and_congr decide_eq_true_iff decide_eq_true_iff)

lemma isAlphanum_iff {c : Char} :
    c.isAlphanum = true ↔ (c.isUpper = true ∨ c.isLower = true) ∨ c.isDigit = true :=
  Bool.or_eq_true_iff.trans (or_congr Bool.or_eq_true_iff Iff.rfl)

lemma isPart_iff {c : Char} : isPart c = true ↔ IsWordCharacter c := by
  rw [isPart, Bool.or_eq_true_iff, isAlphanum_iff, isUpper_iff, isLower_iff, isDigit_iff,
    beq_iff_eq, IsWordCharacter, or_assoc, or_assoc]

lemma filter_isPart (cs : List Char) :
    cs.filter isPart = cs.filter fun c => decide (IsWordCharacter c) := by
  refine List.filter_congr fun c _ => ?_
  rw [Bool.eq_iff_iff, isPart_iff, decide_eq_true_iff]

/-- A symbol is cleared by the rule. -/
lemma stem_eq_reduced (cs : List Char) : stem cs = reduced cs := by
  rw [stem, filter_isPart, reduced]
  cases cs.filter fun c => decide (IsWordCharacter c) with
  | nil => simp [guardDigit]
  | cons c kept => simp [guardDigit, isDigit_iff]

/-! ## Cleared texts -/

variable {cs ds : List Char}

lemma reduced_nil : reduced [] = [] := rfl

/-- What is left of a text is an identifier, if anything is left. -/
lemma isIdentifier_reduced (h : reduced cs ≠ []) : IsIdentifier (reduced cs) := by
  have hkept : ∀ c ∈ cs.filter (fun c => decide (IsWordCharacter c)), IsWordCharacter c :=
    fun c hc => of_decide_eq_true (List.mem_filter.mp hc).2
  refine ⟨h, ?_, ?_⟩
  · rw [reduced]
    split_ifs
    · exact List.forall_mem_cons.mpr ⟨by decide, hkept⟩
    · exact hkept
  · rw [reduced]
    split_ifs with hdigit
    · show ¬ IsDigit '_'
      decide
    · exact hdigit

/-- Before an identifier, it makes no difference whether a text is cleared alone or with it. -/
lemma IsIdentifier.reduced_append (h : IsIdentifier ds) (cs : List Char) :
    reduced (cs ++ ds) = reduced cs ++ ds := by
  have hkept : ds.filter (fun c => decide (IsWordCharacter c)) = ds :=
    List.filter_eq_self.mpr fun c hc => decide_eq_true (h.word c hc)
  rw [reduced, reduced, List.filter_append, hkept]
  cases cs.filter fun c => decide (IsWordCharacter c) with
  | nil =>
    -- the identifier comes first, and does not begin with a digit
    simp [h.head]
  | cons c kept => by_cases hdigit : IsDigit c <;> simp [hdigit]

/-- An identifier needs no clearing. -/
lemma IsIdentifier.reduced_eq (h : IsIdentifier cs) : reduced cs = cs := by
  simpa [reduced_nil] using h.reduced_append []

lemma reduced_reduced (cs : List Char) : reduced (reduced cs) = reduced cs := by
  by_cases h : reduced cs = []
  · rw [h, reduced_nil]
  · exact (isIdentifier_reduced h).reduced_eq

/-! ## Contracts -/

lemma isIdentifier_suffix (k : Kind) : IsIdentifier k.catalogue.suffix.toList := by
  cases k <;> exact ⟨by decide, by decide, by decide⟩

/-- The rule for the symbol is the rule for the name. -/
lemma ofSymbol_eq_reduced (symbol : String) (k : Kind) :
    (ofSymbol symbol k.catalogue.suffix).toList =
      reduced (symbol ++ k.catalogue.suffix).toList := by
  rw [toList_ofSymbol, stem_eq_reduced, String.toList_append,
    (isIdentifier_suffix k).reduced_append]

/-- No component's name ends with the suffix of a kind. -/
lemma ofSymbol_ne_name (symbol : String) (k : Kind) (c : Component) :
    ofSymbol symbol k.catalogue.suffix ≠ c.name := by
  have hsuffix : ∀ k ∈ Kind.all, ∀ c ∈ Component.all,
      ¬ k.catalogue.suffix.toList <:+ c.name.toList := by decide
  exact ofSymbol_ne (hsuffix k (Kind.mem_all k) c (Component.mem_all c))

/-- A symbol that has been cleared makes the same name. -/
lemma ofSymbol_ofSymbol (symbol suffix : String) :
    ofSymbol (ofSymbol symbol "") suffix = ofSymbol symbol suffix := by
  rw [← String.toList_inj, toList_ofSymbol, toList_ofSymbol, toList_ofSymbol, String.toList_empty,
    List.append_nil, stem_eq_reduced, stem_eq_reduced, reduced_reduced]

/-- **Every symbol makes a name of its contract's own.**  Whatever the symbol is, the name is an
identifier, made of symbol and suffix by the rule for the name as a whole; it is the name of no
component, so that no contract inherits from itself; and a symbol that has been cleared of what
cannot stand there makes the same name. -/
theorem ofSymbol_fresh (symbol : String) (k : Kind) :
    IsIdentifier (ofSymbol symbol k.catalogue.suffix).toList ∧
      (ofSymbol symbol k.catalogue.suffix).toList =
        reduced (symbol ++ k.catalogue.suffix).toList ∧
      (∀ c : Component, ofSymbol symbol k.catalogue.suffix ≠ c.name) ∧
      (∀ n : Normalized, (n.sourceFile k).name ∉ (n.sourceFile k).parents) ∧
      ofSymbol (ofSymbol symbol "") k.catalogue.suffix = ofSymbol symbol k.catalogue.suffix := by
  have hrule := ofSymbol_eq_reduced symbol k
  refine ⟨?_, hrule, ofSymbol_ne_name symbol k, fun n hmem => ?_, ofSymbol_ofSymbol symbol _⟩
  · have hne : (ofSymbol symbol k.catalogue.suffix).toList ≠ [] := by
      rw [toList_ofSymbol]
      exact List.append_ne_nil_of_right_ne_nil _ (isIdentifier_suffix k).ne_nil
    rw [hrule] at hne ⊢
    exact isIdentifier_reduced hne
  · obtain ⟨c, -, hc⟩ := List.mem_map.mp hmem
    exact ofSymbol_ne_name n.symbol k c hc.symm

end Identifier
end Solidity
end TokenLaunch
