/-
# The source of a spec, delivered

The source of a spec goes to the standard output, or into a file if the command line names one.
Into a file goes the source and nothing else.  On the standard output it stands behind a warning if
the spec has no name or no symbol, so what is written there is the source exactly if the spec is
ready (`Program.generate_delivered`); of a spec without a name it is not
(`Program.generate_warns`).

The two ways are ways of one command line: where a file may be named, and is not, it can be named
right behind the name of the command, and nothing else that the command line says is changed
(`CommandLine.parse_out`).
-/
import TokenLaunch.Command.Program
import TokenLaunch.Proofs.Command.Arguments
import TokenLaunch.Proofs.Source.Contract
import TokenLaunch.Proofs.Storage.Disk

namespace TokenLaunch

/-! ## Naming a file -/

namespace CommandLine

open Arguments

/-- The grammar of `generate`. -/
def generateGrammar : Grammar (SpecSource × Option Path) where
  parameters :=
    help ::
    { long := "out", effect := once Prod.snd (fun p t => (t.1, some p)) anyPath } ::
    specParameters.map fun p => p.within Prod.fst fun s t => (s, t.2)
  operand := some noOperand

lemma generate_eq (args : List String) : generate args =
    (read generateGrammar args ({}, none)).map fun r => .generate r.1.1 r.1.2 := rfl

/-- A file that is named goes past all options, as long as no other file is named. -/
lemma follows_generateGrammar (path : Path) : ∀ p ∈ generateGrammar.parameters,
    p.effect.Follows (fun t => (t.1, some path)) fun t => t.2 = none := by
  intro p hp
  rcases List.mem_cons.mp hp with rfl | hp
  · exact trivial
  rcases List.mem_cons.mp hp with rfl | hp
  · -- the file would be named twice
    intro text t t' ht hnone
    rcases t with ⟨s, _ | path'⟩
    · obtain rfl := Option.some.inj ht
      cases hnone
    · cases ht
  · obtain ⟨p, -, rfl⟩ := List.mem_map.mp hp
    exact Effect.follows_within (f := fun t : SpecSource × Option Path => (t.1, some path)) Prod.fst
      (fun s t => (s, t.2)) (fun _ => rfl) (fun _ _ => rfl) (fun _ _ h => h) p.effect

/-- A file can be named in front of the other options. -/
lemma generate_cons_out {args : List String} {source : SpecSource}
    (h : generate args = .ok (.generate source none)) (path : String) :
    generate (("--out=" ++ path) :: args) = .ok (.generate source (some ⟨path⟩)) := by
  rw [generate_eq] at h
  rcases hread : read generateGrammar args ({}, none) with reason | ⟨⟨s, out⟩, rest⟩
  · rw [hread] at h
    cases h
  · rw [hread] at h
    obtain ⟨rfl, rfl⟩ : s = source ∧ out = none := by simpa [Except.map] using h
    have hrest := (read_follows (follows_generateGrammar ⟨path⟩)
      (fun take htake text => by
        obtain rfl := Option.some.inj htake
        exact fun _ _ => nofun) hread rfl).2
    have harg : ("--out=" ++ path).toList = '-' :: '-' :: ("out=".toList ++ path.toList) := by
      rw [String.toList_append]
      rfl
    have hoption : readOption generateGrammar.parameters '-' ("out=".toList ++ path.toList)
        ({}, none) = .ok (.done ({}, some ⟨path⟩)) := by
      have hname : ("out=".toList ++ path.toList).takeWhile (fun c => c != '=') = "out".toList := rfl
      have hvalue : (("out=".toList ++ path.toList).dropWhile fun c => c != '=').tail? =
          some path.toList := rfl
      have hout : generateGrammar.parameters.find? (fun p => p.long == "out") = some
          { long := "out", effect := once Prod.snd (fun p t => (t.1, some p)) anyPath } := rfl
      rw [readOption, if_pos (beq_self_eq_true '-'), readLong]
      simp only [hname, hvalue, String.ofList_toList, hout, Option.map_some, once]
      rfl
    rw [generate_eq, read_cons_done harg (fun _ => List.cons_ne_nil _ _) hoption, hrest]
    rfl

section Others

variable {env : Environment} {args : List String} {source : SpecSource} {out : Option Path}

lemma map_ne_generate {α : Type} (x : Except Stop α) {f : α → Request}
    (hf : ∀ a, f a ≠ .generate source out) : x.map f ≠ .ok (.generate source out) := by
  cases x with
  | error reason => exact nofun
  | ok a => exact fun h => hf a (Except.ok.inj h)

/-- A command on tokens asks for no source. -/
lemma tokens_ne_generate : tokens args ≠ .ok (.generate source out) := by
  unfold tokens
  split
  · exact nofun
  · exact nofun
  · split
    case h_6 => exact nofun
    case h_7 => exact nofun
    all_goals exact map_ne_generate _ fun _ => nofun

/-- A launch asks for no source. -/
lemma deploy_ne_generate : deploy env args ≠ .ok (.generate source out) := by
  unfold deploy
  dsimp only
  split
  · exact nofun
  · split
    · split <;> exact nofun
    · exact nofun

end Others

/-- The commands that ask for a source. -/
lemma name_of_request {env : Environment} {name : String} {args : List String}
    {source : SpecSource} {out : Option Path}
    (h : request env name args = .ok (.generate source out)) :
    name = "generate" ∨ name = "gen" := by
  unfold request at h
  split at h
  · exact .inl rfl
  · exact .inr rfl
  case h_5 => exact absurd h deploy_ne_generate
  case h_6 => exact absurd h tokens_ne_generate
  case h_9 => cases h
  case h_10 => cases h
  all_goals exact absurd h (map_ne_generate _ fun _ => nofun)

/-- **A file can be named.**  Where a command line asks for a source on the standard output, the
same command line with a file named right behind the name of the command asks for the same source in
that file, and nothing else is changed. -/
theorem parse_out {env : Environment} {args : List String} {i : Invocation} {source : SpecSource}
    (hparse : parse env args = .ok i) (hrequest : i.request = .generate source none) :
    ∃ front name rest, args = front ++ name :: rest ∧ ∀ path : String,
      parse env (front ++ name :: ("--out=" ++ path) :: rest) =
        .ok { i with request := .generate source (some ⟨path⟩) } := by
  unfold parse at hparse
  split at hparse
  · cases hparse
  · cases hparse
  · next g name rest hread =>
    obtain ⟨front, rfl, hfront⟩ := exists_front_of_read rfl hread
    refine ⟨front, name, rest, rfl, fun path => ?_⟩
    split at hparse
    · cases hparse
    · next r hr =>
      -- the options before the command decide the rest of the invocation
      have hr' : r = .generate source none := by
        rw [← hrequest]
        split at hparse
        · split at hparse <;> cases hparse
          rfl
        · cases hparse
          rfl
      subst hr'
      have hname := name_of_request hr
      have hgenerate (args : List String) : request env name args = generate args := by
        rcases hname with rfl | rfl <;> rfl
      rw [hgenerate] at hr
      rw [parse, hfront]
      simp only [hgenerate, generate_cons_out hr]
      split at hparse
      · split at hparse <;> cases hparse
        simp [*]
      · cases hparse
        simp [*]

end CommandLine

/-! ## The two ways -/

namespace Request

variable {spec : Spec} {source : SpecSource} {text : String} {d d' : Disk} {p : Path}

/-- The source stands alone exactly if there is nothing to warn of. -/
lemma warnings_append_eq_iff : warnings spec ++ text = text ↔ spec.readiness = .ready := by
  rw [String.append_eq_right_iff]
  unfold warnings
  split <;> simp_all [Output.line]

section

variable (hspec : source.resolve d = .ok spec) (htext : spec.generate = .ok text)
include hspec htext

lemma runGenerate_output :
    runGenerate source none d = .wrote d (warnings spec ++ text) := by
  simp only [runGenerate, hspec, htext]

lemma runGenerate_file (hwrite : d.write p text.toByteArray = .ok d') :
    ∃ output, runGenerate source (some p) d =
      .wrote (d.remember (.write p text.toByteArray) d') output := by
  have hperform := Disk.perform_write.mpr ⟨d', hwrite, rfl⟩
  simp only [runGenerate, hspec, htext, hperform]
  exact ⟨_, rfl⟩

lemma runGenerate_refused {e : Refusal} (hwrite : d.write p text.toByteArray = .error e) :
    runGenerate source (some p) d = .failed d (warnings spec) (.io e) := by
  have hperform : d.perform (.write p text.toByteArray) = .error e := by
    simp only [Disk.perform, hwrite]
    rfl
  simp only [runGenerate, hspec, htext, hperform]

end
end Request

namespace Program

variable {w : Surroundings} {args : List String} {i : Invocation} {x : Settings × Path}
  {source : SpecSource} {out : Option Path} {spec : Spec} {k : Kind}

/-- Once the settings are read, nothing but the disk matters to the source of a spec. -/
lemma run_generate (hparse : CommandLine.parse w.environment args = .ok i)
    (hrequest : i.request = .generate source out)
    (hprepared : i.prepare w.environment w.disk = .ok x) :
    run args w = .ofPerformed (Request.runGenerate source out w.disk) := by
  rw [run, hparse]
  simp only [Invocation.run, hprepared, hrequest, Request.run]

/-- How a source reaches the user whose command line asks for it. -/
structure Delivered (args : List String) (w : Surroundings) (out : Option Path) (spec : Spec)
    (text : String) : Prop where
  /-- On the standard output it stands behind the warnings about the spec. -/
  printed : out = none → run args w = ⟨0, Request.warnings spec ++ text, "", w.disk, 0⟩
  /-- So it is all of the output exactly if the spec is ready. -/
  printed_iff : out = none → ((run args w).output = text ↔ spec.readiness = .ready)
  /-- The same command line, with a file named behind the name of the command, leaves just the
  source in that file, and so what would be the output exactly if the spec is ready. -/
  redirected : out = none → ∃ front name rest, args = front ++ name :: rest ∧
    ∀ path d, w.disk.write ⟨path⟩ text.toByteArray = .ok d →
      let ending := run (front ++ name :: ("--out=" ++ path) :: rest) w
      ending.code = 0 ∧ ending.disk.read ⟨path⟩ = .ok text.toByteArray ∧
        (ending.disk.read ⟨path⟩ = .ok (run args w).output.toByteArray ↔ spec.readiness = .ready)
  /-- A file that is named holds just the source. -/
  written : ∀ p d, out = some p → w.disk.write p text.toByteArray = .ok d →
    (run args w).code = 0 ∧ (run args w).disk.read p = .ok text.toByteArray
  /-- If it cannot be written, the command fails and changes nothing. -/
  refused : ∀ p e, out = some p → w.disk.write p text.toByteArray = .error e →
    (run args w).code = 1 ∧ (run args w).disk = w.disk

/-- **A source is delivered.**  Where a command line asks for the source of a spec of a kind, and the
settings can be read, there is such a source, and it is delivered. -/
theorem generate_delivered (hparse : CommandLine.parse w.environment args = .ok i)
    (hrequest : i.request = .generate source out)
    (hprepared : i.prepare w.environment w.disk = .ok x)
    (hspec : source.resolve w.disk = .ok spec) (hkind : spec.standard = .known k) :
    ∃ text, spec.generate = .ok text ∧ Delivered args w out spec text := by
  obtain ⟨text, htext⟩ : ∃ text, spec.generate = .ok text := ⟨_, Spec.generate_known hkind⟩
  have hrun := run_generate hparse hrequest hprepared
  have hprinted : out = none →
      run args w = ⟨0, Request.warnings spec ++ text, "", w.disk, 0⟩ := by
    rintro rfl
    rw [hrun, Request.runGenerate_output hspec htext]
    rfl
  have hready : out = none → ((run args w).output = text ↔ spec.readiness = .ready) := by
    intro hout
    rw [hprinted hout]
    exact Request.warnings_append_eq_iff
  refine ⟨text, htext, ?_⟩
  constructor
  case printed => exact hprinted
  case printed_iff => exact hready
  case redirected =>
    rintro rfl
    obtain ⟨front, name, rest, hargs, hparse'⟩ := CommandLine.parse_out hparse hrequest
    refine ⟨front, name, rest, hargs, fun path d hwrite => ?_⟩
    obtain ⟨output, hfile⟩ := Request.runGenerate_file hspec htext hwrite
    have hrun' := run_generate (hparse' path) rfl hprepared
    rw [hfile] at hrun'
    have hread : (run (front ++ name :: ("--out=" ++ path) :: rest) w).disk.read ⟨path⟩ =
        .ok text.toByteArray := by
      rw [hrun']
      exact (Disk.read_remember _ _ _ _).trans (Disk.read_write hwrite)
    refine ⟨by rw [hrun']; rfl, hread, ?_⟩
    rw [hread, Except.ok.injEq, String.toByteArray_inj, eq_comm]
    exact hready rfl
  case written =>
    rintro p d rfl hwrite
    obtain ⟨output, hfile⟩ := Request.runGenerate_file hspec htext hwrite
    rw [hrun, hfile]
    exact ⟨rfl, (Disk.read_remember _ _ _ _).trans (Disk.read_write hwrite)⟩
  case refused =>
    rintro p e rfl hwrite
    rw [hrun, Request.runGenerate_refused hspec htext hwrite]
    exact ⟨rfl, rfl⟩

/-- A user with a home directory and an empty disk. -/
def newcomer : Surroundings where
  environment name := if name = "HOME" then some "/home/user" else none
  disk := {}
  stamp := ⟨"", .epoch⟩
  entropy _ := 0

theorem generate_delivered_nova :
    ∃ text, (Spec.named (.known .fungible) "Nova" "NOVA").generate = .ok text ∧
      (run ["generate", "--name", "Nova", "--symbol=NOVA"] newcomer).output = text ∧
      ∃ front name rest,
        ["generate", "--name", "Nova", "--symbol=NOVA"] = front ++ name :: rest ∧ ∀ path d,
          newcomer.disk.write ⟨path⟩ text.toByteArray = .ok d →
          (run (front ++ name :: ("--out=" ++ path) :: rest) newcomer).disk.read ⟨path⟩ =
            .ok text.toByteArray := by
  have hparse : CommandLine.parse newcomer.environment
      ["generate", "--name", "Nova", "--symbol=NOVA"] = .ok ⟨none, none, .table,
        .generate { overrides := { name := some "Nova", symbol := some "NOVA" } } none⟩ := by
    decide +kernel
  have hspec : SpecSource.resolve { overrides := { name := some "Nova", symbol := some "NOVA" } }
      newcomer.disk = .ok (Spec.named (.known .fungible) "Nova" "NOVA") := rfl
  obtain ⟨text, htext, hdelivered⟩ := generate_delivered hparse rfl rfl hspec rfl
  obtain ⟨front, name, rest, hargs, hfile⟩ := hdelivered.redirected rfl
  exact ⟨text, htext, (hdelivered.printed_iff rfl).mpr (by decide +kernel), front, name, rest, hargs,
    fun path d hwrite => (hfile path d hwrite).2.1⟩

/-- Of a spec without a name the source is not all of the output. -/
theorem generate_warns :
    CommandLine.parse newcomer.environment ["generate"] =
        .ok ⟨none, none, .table, .generate {} none⟩ ∧
      SpecSource.resolve {} newcomer.disk = .ok {} ∧ ({} : Spec).standard = .known .fungible ∧
      ∃ text, ({} : Spec).generate = .ok text ∧ (run ["generate"] newcomer).code = 0 ∧
        (run ["generate"] newcomer).output = "⚠ token name is empty\n" ++ text ∧
        (run ["generate"] newcomer).output ≠ text := by
  have hparse : CommandLine.parse newcomer.environment ["generate"] =
      .ok ⟨none, none, .table, .generate {} none⟩ := by decide +kernel
  obtain ⟨text, htext⟩ : ∃ text, ({} : Spec).generate = .ok text := ⟨_, Spec.generate_known rfl⟩
  have hunready : ({} : Spec).readiness = .missingName := by decide +kernel
  have hrun : run ["generate"] newcomer =
      .ofPerformed (.wrote newcomer.disk (Request.warnings {} ++ text)) := by
    rw [run_generate hparse rfl rfl, Request.runGenerate_output rfl htext]
  refine ⟨hparse, rfl, rfl, text, htext, ?_⟩
  rw [hrun]
  refine ⟨rfl, ?_, fun houtput => ?_⟩
  · have hwarnings : Request.warnings {} = "⚠ token name is empty\n" := by
      simp only [Request.warnings, hunready]
      rfl
    rw [← hwarnings]
    rfl
  · exact absurd (hunready.symm.trans (Request.warnings_append_eq_iff.mp houtput)) nofun

end Program
end TokenLaunch
