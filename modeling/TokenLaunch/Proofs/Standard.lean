/-
# What a standard is called

A text is read as a kind exactly if it is one of the spellings of that kind, with its letters in any
case and with any blanks around it (`Kind.read?_eq_some_iff`); so neither the case nor the blanks
make a difference.  A text that is read as no kind is kept as it stands, blanks included.  Since the
name of a kind is one of its spellings, and a text that is kept was read as no kind, what is written
for a standard is read as that standard, any number of times (`Standard.lasts_ofText`).

Contracts are made for the standards with a kind, and for them always (`Standard.Served`).  For every
other standard each stage refuses, and reports the text as it was given (`Standard.Refused`).
-/
import Mathlib.Logic.Function.Iterate
import TokenLaunch.Proofs.Source.Contract
import TokenLaunch.Proofs.Spec.Spelling
import TokenLaunch.Proofs.Text.Variant

namespace TokenLaunch

/-! ## Spellings -/

namespace Kind

open Text

variable {k : Kind} {raw s t : String}

/-- A text is read as a kind if it is one of its spellings, once it is trimmed and small. -/
lemma read?_eq_some_iff_mem : read? raw = some k ↔ lowerCase (trim raw) ∈ k.spellings := by
  constructor
  · intro h
    simpa using List.find?_some h
  · intro h
    have hall : ∀ k ∈ all, ∀ s ∈ k.spellings,
        all.find? (fun l => l.spellings.contains s) = some k := by decide
    exact hall k (mem_all k) _ h

/-- **A text is read as a kind if it is a variant of one of its spellings.** -/
theorem read?_eq_some_iff : read? raw = some k ↔ ∃ s ∈ k.spellings, Variant s raw := by
  have hsmall : ∀ k ∈ all, ∀ s ∈ k.spellings, lowerCase s = s ∧ lowerCase (trim s) = s := by
    decide
  rw [read?_eq_some_iff_mem]
  constructor
  · intro h
    exact ⟨_, h, variant_of_lowerCase_eq (hsmall k (mem_all k) _ h).1⟩
  · rintro ⟨s, hs, hvariant⟩
    rw [hvariant.lowerCase_trim_eq, (hsmall k (mem_all k) s hs).2]
    exact hs

lemma read?_congr (h : Variant s t) : read? t = read? s := by
  rw [read?, read?, h.lowerCase_trim_eq]

end Kind

/-! ## Saving and loading -/

namespace Standard

variable {raw : String} {k : Kind}

/-- A standard lasts if it stays the same when it is written and read any number of times, be it on
its own, in a spec or in a record.  Of a record nothing else changes either, if its time is
proper. -/
structure Lasts (s : Standard) : Prop where
  alone : ∀ n, (fun s : Standard => ofText s.text)^[n] s = s
  inSpec : ∀ spec : Spec, spec.standard = s → ∀ n,
    (·.bind fun spec => SpecFile.Format.json.spec? spec.toJson.pretty)^[n] (some spec) = some spec
  inRecord : ∀ r : Record, r.standard = s → ∀ n,
    ∃ r', (·.bind fun r => Record.parse? r.text)^[n] (some r) = some r' ∧ r'.standard = s ∧
      (r.deployedAt.IsProper → r' = r)

/-- What is read back once is read back any number of times. -/
lemma iterate_bind {α : Type} {f : α → Option α} {a : α} (h : f a = some a) (n : ℕ) :
    (·.bind f)^[n] (some a) = some a := by
  refine Function.iterate_fixed ?_ n
  rw [Option.bind_some, h]

/-- What a text is read as lasts. -/
lemma lasts_ofText (raw : String) : Lasts (ofText raw) where
  alone := Function.iterate_fixed (ofText_text_iff.mpr ⟨raw, rfl⟩)
  inSpec spec h := by
    have hback : SpecFile.Format.json.spec? spec.toJson.pretty = some spec := by
      rw [SpecFile.Format.spec?, Json.parse?_pretty spec.isReadable_toJson, Option.bind_some,
        Spec.ofJson?_toJson, Option.some_inj, Spec.setStandard_eq_iff, ofText_text_iff]
      exact ⟨raw, h.symm⟩
    exact iterate_bind hback
  inRecord r h n := by
    cases n with
    | zero => exact ⟨r, rfl, h, fun _ => rfl⟩
    | succ n =>
      -- the time is settled once it was read
      have hback : Record.parse? r.reread.text = some r.reread := by
        rw [Record.parse?_text, Record.reread_reread]
      refine ⟨r.reread, ?_, ?_, fun hproper => Record.reread_eq_iff.mpr ⟨⟨raw, h.symm⟩, hproper⟩⟩
      · rw [Function.iterate_succ_apply, Option.bind_some, Record.parse?_text]
        exact iterate_bind (f := fun r => Record.parse? r.text) hback n
      · rw [Record.standard_reread, h, ofText_text_iff.mpr ⟨raw, rfl⟩]

/-! ## Making contracts -/

/-- Whatever the rest is, each stage accepts the standard, and a contract comes out of them. -/
structure Served (s : Standard) : Prop where
  blueprint : ∀ n : Normalized, n.standard = s → ∃ b, n.blueprint = .ok b
  source : ∀ b n, ∃ text, Layout.source s b n = .ok text
  contract : ∀ spec : Spec, spec.standard = s → ∃ b c, spec.normalize.blueprint = .ok b ∧
    Layout.source s b spec.normalize = .ok c.source ∧ spec.generate = .ok c.source ∧
      spec.contract = .ok c

lemma served_known (k : Kind) : Served (.known k) where
  blueprint n h := by
    rw [Normalized.blueprint, h]
    exact ⟨_, rfl⟩
  source b n := ⟨_, rfl⟩
  contract spec h := by
    have hblueprint := Spec.blueprint_known h
    have hcontract := Spec.contract_known h
    have hgenerate : spec.generate = .ok (spec.normalize.contractFor k).source := by
      rw [Spec.generate_eq_map_contract, hcontract]
      rfl
    refine ⟨_, _, hblueprint, ?_, hgenerate, hcontract⟩
    -- the second stage is all that is left of making the source
    rw [← hgenerate, Spec.generate_eq_bind, hblueprint, h]
    rfl

/-- A standard is written as a text, and whatever the rest is, each stage refuses it and reports
this text. -/
structure Refused (s : Standard) (raw : String) : Prop where
  text : s.text = raw
  inSpec : ∀ spec : Spec, spec.standard = s →
    ∃ ms, spec.toJson = .object ms ∧ ms.lookup "standard" = some (.string raw)
  inRecord : ∀ r : Record, r.standard = s → r.members.lookup "standard" = some (.string raw)
  blueprint : ∀ n : Normalized, n.standard = s → n.blueprint = .error ⟨raw⟩
  source : ∀ b n, Layout.source s b n = .error ⟨raw⟩
  generate : ∀ spec : Spec, spec.standard = s → spec.generate = .error ⟨raw⟩
  contract : ∀ spec : Spec, spec.standard = s → spec.contract = .error ⟨raw⟩

lemma blueprint_unrecognized {n : Normalized} (h : n.standard = .unrecognized raw) :
    n.blueprint = .error ⟨raw⟩ := by
  rw [Normalized.blueprint, h]
  rfl

lemma refused_unrecognized (raw : String) : Refused (.unrecognized raw) raw where
  text := rfl
  inSpec spec h := by
    refine ⟨_, rfl, ?_⟩
    rw [h]
    rfl
  inRecord r h := by
    have hmember : r.members.lookup "standard" = some (.string r.standard.text) := rfl
    rw [hmember, h, text_unrecognized]
  blueprint _ h := blueprint_unrecognized h
  source _ _ := rfl
  generate spec h := by
    -- already the first stage refuses
    rw [Spec.generate_eq_bind, blueprint_unrecognized h]
    rfl
  contract _ h := Spec.contract_unrecognized h

/-- **A text names a standard for good.**  What it is read as lasts, however often it is written and
read.  It is read as a kind exactly if it is a variant of one of the kind's spellings, so all its
variants are read as the same kind, and then contracts are made, whatever else the spec says.  If it
is read as no kind, it is written as it was given, and no contract is made: each stage reports the
text as it was given. -/
theorem ofText_settled (raw : String) :
    Lasts (ofText raw) ∧
    (∀ k, ofText raw = .known k ↔ ∃ s ∈ k.spellings, Text.Variant s raw) ∧
    (∀ t, Text.Variant raw t → ∀ k, ofText t = .known k ↔ ofText raw = .known k) ∧
    ((ofText raw).isRecognized = true → Served (ofText raw)) ∧
    ((ofText raw).isRecognized = false → Refused (ofText raw) raw) := by
  refine ⟨lasts_ofText raw, fun k => ?_, fun t ht k => ?_, ?_⟩
  · rw [ofText_eq_known_iff, Kind.read?_eq_some_iff]
  · rw [ofText_eq_known_iff, ofText_eq_known_iff, Kind.read?_congr ht]
  · cases hs : ofText raw with
    | known k => exact ⟨fun _ => served_known k, fun h => absurd h (by simp)⟩
    | unrecognized t =>
      obtain ⟨rfl, -⟩ := ofText_eq_unrecognized_iff.mp hs
      exact ⟨fun h => absurd h (by simp), fun _ => refused_unrecognized raw⟩

/-- Capital letters and blanks beyond ASCII make no difference to a spelling; blanks inside a text
do, and those around it are reported with it. -/
theorem ofText_settled_asset :
    ofText "\u2003Multi-ASSET\u00A0" = .known .multiAsset ∧
    (∃ text, (Spec.named (ofText "multi-asset") "Nova" "N").generate = .ok text) ∧
    (Spec.named (ofText " multi asset\t") "Nova" "N").generate = .error ⟨" multi asset\t"⟩ ∧
    (fun s : Standard => ofText s.text)^[3] (ofText " multi asset\t") =
      ofText " multi asset\t" := by
  have hvariant : Text.Variant "multi-asset" "\u2003Multi-ASSET\u00A0" :=
    ⟨['\u2003'], "Multi-ASSET".toList, ['\u00A0'], by decide,
      Text.forall₂_sameLetter_iff.mpr (by decide), by decide, by decide⟩
  obtain ⟨-, -, hvariants, hserved, -⟩ := ofText_settled "multi-asset"
  obtain ⟨hlasts, -, -, -, hrefused⟩ := ofText_settled " multi asset\t"
  refine ⟨(hvariants _ hvariant .multiAsset).mpr (by decide), ?_, ?_, hlasts.alone 3⟩
  · obtain ⟨_, c, -, -, hgenerate, -⟩ :=
      (hserved (by decide)).contract (Spec.named (ofText "multi-asset") "Nova" "N") rfl
    exact ⟨c.source, hgenerate⟩
  · exact (hrefused (by decide)).generate _ rfl

end Standard
end TokenLaunch
