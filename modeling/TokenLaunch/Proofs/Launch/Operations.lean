/-
# A simulated failure disturbs nothing

An executor may be asked for anything in any order, and it answers one operation after the other
(`Executor.answers`).  The simulated executor refuses the operations of the phase that it is told to
fail in, and draws no word for them; every other operation draws as many words as belong to its
phase (`perform_simulated_of_eq`, `perform_simulated_of_ne`).  So what it answers to the others is
what it would answer if the refused ones had not been asked for, operations that draw nothing may
stand anywhere, and a receipt is made of the words that follow those drawn before it
(`Executor.Simulated.sparing`).
-/
import TokenLaunch.Proofs.Hex
import TokenLaunch.Proofs.Launch.Draws

namespace TokenLaunch

/-! ## Operations -/

namespace Executor

/-- What an executor may be asked for. -/
inductive Operation
  | compile (source : String)
  | estimateGas
  | confirm
  | deploy
  | verify (address source : String)
deriving DecidableEq

/-- The phase that an operation belongs to. -/
def Operation.phase : Operation → Phase
  | compile _ => .compile
  | estimateGas => .estimateGas
  | confirm => .confirm
  | deploy => .deploy
  | verify _ _ => .verify

end Executor

/-- What a call asked for. -/
def Call.operation : Call → Executor.Operation
  | compile source _ => .compile source
  | estimateGas _ => .estimateGas
  | confirm _ => .confirm
  | deploy _ => .deploy
  | verify address source _ => .verify address source

namespace Executor

variable {σ : Type}

/-- Ask an executor for something. -/
def perform (ex : Executor σ) (s : σ) : Operation → Call × σ
  | .compile source => ((.compile source (ex.compile source s).1), (ex.compile source s).2)
  | .estimateGas => (.estimateGas (ex.estimateGas s).1, (ex.estimateGas s).2)
  | .confirm => (.confirm (ex.confirm s).1, (ex.confirm s).2)
  | .deploy => (.deploy (ex.deploy s).1, (ex.deploy s).2)
  | .verify address source =>
    (.verify address source (ex.verify address source s).1, (ex.verify address source s).2)

/-- Ask an executor for one thing after the other. -/
def answers (ex : Executor σ) : List Operation → σ → List Call
  | [], _ => []
  | op :: ops, s => (ex.perform s op).1 :: ex.answers ops (ex.perform s op).2

/-- The state that this leaves. -/
def after (ex : Executor σ) (ops : List Operation) (s : σ) : σ :=
  ops.foldl (fun s op => (ex.perform s op).2) s

variable (ex : Executor σ) (ops : List Operation) (s : σ)

lemma operation_perform (op : Operation) : (ex.perform s op).1.operation = op := by
  cases op <;> rfl

lemma phase_perform (op : Operation) : (ex.perform s op).1.phase = op.phase := by
  cases op <;> rfl

lemma answers_cons (op : Operation) : ex.answers (op :: ops) s =
    (ex.perform s op).1 :: ex.answers ops (ex.perform s op).2 := rfl

lemma after_cons (op : Operation) :
    ex.after (op :: ops) s = ex.after ops (ex.perform s op).2 := rfl

lemma answers_append (later : List Operation) :
    ex.answers (ops ++ later) s = ex.answers ops s ++ ex.answers later (ex.after ops s) := by
  induction ops generalizing s with
  | nil => rfl
  | cons op ops ih =>
    rw [List.cons_append, answers_cons, answers_cons, ih, after_cons, List.cons_append]

lemma after_append (later : List Operation) :
    ex.after (ops ++ later) s = ex.after later (ex.after ops s) :=
  List.foldl_append

lemma map_operation_answers : (ex.answers ops s).map Call.operation = ops := by
  induction ops generalizing s with
  | nil => rfl
  | cons op ops ih => rw [answers_cons, List.map_cons, operation_perform, ih]

lemma length_answers : (ex.answers ops s).length = ops.length := by
  have hlength := congrArg List.length (ex.map_operation_answers ops s)
  rwa [List.length_map] at hlength

end Executor

/-! ## What the simulated executor answers -/

namespace Executor

open Simulated (words)

variable (ws : Words) {failAt : Option Phase} (s : Simulated) {op : Operation}

/-- An operation of the phase to fail in is refused, and nothing is drawn. -/
lemma perform_simulated_of_eq (h : failAt = some op.phase) :
    ((simulated ws failAt).perform s op).1.failure? = some (Simulated.failure op.phase) ∧
      ((simulated ws failAt).perform s op).2 = s := by
  subst h
  cases op <;> simp [perform, simulated, Simulated.unlessFailing, Operation.phase, Call.failure?]

/-- Any other operation is done as if there were no phase to fail in, and the words are drawn that
belong to its phase. -/
lemma perform_simulated_of_ne (h : failAt ≠ some op.phase) :
    (simulated ws failAt).perform s op = (simulated ws none).perform s op ∧
      ((simulated ws failAt).perform s op).2 = ⟨s.drawn + words op.phase⟩ := by
  cases op <;> rw [Operation.phase] at h <;>
    simp [perform, simulated, Simulated.unlessFailing, Operation.phase, words, Nat.add_assoc, h]

/-- Operations of other phases than the one to fail in. -/
def others (failAt : Option Phase) (ops : List Operation) : List Operation :=
  ops.filter fun op => failAt ≠ some op.phase

/-- The number of words that operations draw. -/
def wordsFor (failAt : Option Phase) (ops : List Operation) : ℕ :=
  ((others failAt ops).map fun op => words op.phase).sum

lemma others_cons_of_eq (h : failAt = some op.phase) (ops : List Operation) :
    others failAt (op :: ops) = others failAt ops := by
  simp [others, h]

lemma others_cons_of_ne (h : failAt ≠ some op.phase) (ops : List Operation) :
    others failAt (op :: ops) = op :: others failAt ops := by
  simp [others, h]

/-- **The refused operations leave no trace** in the answers to the others, nor in the state. -/
theorem answers_others (ops : List Operation) :
    ((simulated ws failAt).answers ops s).filter (fun call => failAt ≠ some call.phase) =
        (simulated ws none).answers (others failAt ops) s ∧
      (simulated ws failAt).after ops s = (simulated ws none).after (others failAt ops) s := by
  induction ops generalizing s with
  | nil => exact ⟨rfl, rfl⟩
  | cons op ops ih =>
    by_cases h : failAt = some op.phase
    · obtain ⟨-, hstate⟩ := perform_simulated_of_eq ws s h
      rw [answers_cons, after_cons, hstate, others_cons_of_eq h, List.filter_cons_of_neg]
      · exact ih s
      · simp [phase_perform, h]
    · obtain ⟨hsame, -⟩ := perform_simulated_of_ne ws s h
      obtain ⟨hanswers, hafter⟩ := ih ((simulated ws none).perform s op).2
      rw [answers_cons, after_cons, hsame, others_cons_of_ne h, answers_cons, after_cons,
        ← hanswers, hafter, List.filter_cons_of_pos]
      · exact ⟨rfl, rfl⟩
      · simp [phase_perform, h]

/-- Every operation of the phase to fail in is refused. -/
lemma failure?_of_mem_answers {ops : List Operation} {call : Call}
    (hcall : call ∈ (simulated ws failAt).answers ops s) (h : failAt = some call.phase) :
    call.failure? = some (Simulated.failure call.phase) := by
  induction ops generalizing s with
  | nil => cases hcall
  | cons op ops ih =>
    rcases List.mem_cons.mp hcall with rfl | hcall
    · rw [phase_perform] at h ⊢
      exact (perform_simulated_of_eq ws s h).1
    · exact ih _ hcall

/-- The words that are drawn are counted. -/
lemma drawn_after (ops : List Operation) :
    (simulated ws failAt).after ops s = ⟨s.drawn + wordsFor failAt ops⟩ := by
  induction ops generalizing s with
  | nil => rfl
  | cons op ops ih =>
    by_cases h : failAt = some op.phase
    · rw [after_cons, (perform_simulated_of_eq ws s h).2, ih, wordsFor, wordsFor,
        others_cons_of_eq h]
    · rw [after_cons, (perform_simulated_of_ne ws s h).2, ih, wordsFor, wordsFor,
        others_cons_of_ne h, List.map_cons, List.sum_cons, Nat.add_assoc]

/-- The phases in which no word is drawn. -/
def quietPhases : List Phase := [.compile, .confirm, .verify]

/-- Operations that draw no word leave the state as it is. -/
lemma after_quiet (failAt : Option Phase) {ops : List Operation}
    (h : ∀ op ∈ ops, op.phase ∈ quietPhases) :
    (simulated ws failAt).after ops s = s := by
  have hquiet : ∀ p ∈ quietPhases, words p = 0 := by decide
  have hnone : wordsFor failAt ops = 0 := by
    refine List.sum_eq_zero fun n hn => ?_
    obtain ⟨op, hop, rfl⟩ := List.mem_map.mp hn
    exact hquiet _ (h op (List.mem_filter.mp hop).1)
  rw [drawn_after, hnone, Nat.add_zero]

end Executor

/-! ## Receipts -/

/-- A text that is `0x` and so many small hexadecimal digits, which are read as these bytes. -/
def OnChain (size : ℕ) (text : String) (bytes : List UInt8) : Prop :=
  ∃ digits, text.toList = '0' :: 'x' :: digits ∧ digits.length = size ∧
    (∀ c ∈ digits, c ∈ Hex.smallDigits) ∧ Hex.toBytes? digits = some bytes

lemma onChain_onChain {size : ℕ} {bytes : List UInt8} (h : 2 * bytes.length = size) :
    OnChain size (Executor.Simulated.onChain bytes) bytes :=
  ⟨Hex.ofBytes bytes, String.toList_ofList, (Hex.length_ofBytes bytes).trans h,
    fun _ hc => Hex.mem_smallDigits hc, Hex.toBytes?_ofBytes bytes⟩

/-- A well-formed receipt whose address and transaction are read as these bytes, one behind the
other. -/
def Receipt.MadeOf (r : Receipt) (bytes : List UInt8) : Prop :=
  ∃ xs ys, OnChain 40 r.address xs ∧ OnChain 64 r.transaction ys ∧ xs ++ ys = bytes

namespace Executor

variable (ws : Words) {failAt : Option Phase} (s : Simulated)

/-- A deployment that is not refused answers with a receipt made of the next words. -/
lemma perform_deploy (h : failAt ≠ some .deploy) :
    ∃ receipt, ((simulated ws failAt).perform s .deploy).1 = .deploy (.ok receipt) ∧
      receipt.MadeOf (ws.bytes s.drawn 52) := by
  have hsize : 52 = Simulated.addressSize + Simulated.transactionSize := rfl
  have haddress : OnChain 40 (Simulated.onChain (ws.bytes s.drawn Simulated.addressSize))
      (ws.bytes s.drawn Simulated.addressSize) :=
    onChain_onChain (by rw [Words.length_bytes]; rfl)
  have htransaction : OnChain 64
      (Simulated.onChain (ws.bytes (s.drawn + Simulated.addressSize) Simulated.transactionSize))
      (ws.bytes (s.drawn + Simulated.addressSize) Simulated.transactionSize) :=
    onChain_onChain (by rw [Words.length_bytes]; rfl)
  have hanswer : ((simulated ws failAt).perform s .deploy).1 = .deploy (.ok
      { address := Simulated.onChain (ws.bytes s.drawn Simulated.addressSize)
        transaction := Simulated.onChain
          (ws.bytes (s.drawn + Simulated.addressSize) Simulated.transactionSize) }) := by
    simp [perform, simulated, Simulated.unlessFailing, h]
  refine ⟨_, hanswer, _, _, haddress, htransaction, ?_⟩
  rw [hsize, ws.bytes_add]

/-! ## Failing in a phase -/

/-- An executor that draws from a stream, from this state on, and fails in a phase or in none. -/
structure Simulated.Sparing (ws : Words) (failAt : Option Phase) (s : Simulated) : Prop where
  /-- Every operation of the phase to fail in is refused, each time. -/
  refused : ∀ ops, ∀ call ∈ (simulated ws failAt).answers ops s, failAt = some call.phase →
    call.failure? = some (Simulated.failure call.phase)
  /-- Every operation is answered, in its place. -/
  answered : ∀ ops, ((simulated ws failAt).answers ops s).map Call.operation = ops
  /-- The others are answered as by an executor that never fails and is asked for them only, and the
  same words are left for what follows. -/
  others : ∀ ops, ((simulated ws failAt).answers ops s).filter
        (fun call => failAt ≠ some call.phase) =
      (simulated ws none).answers (ops.filter fun op => failAt ≠ some op.phase) s ∧
    (simulated ws failAt).after ops s =
      (simulated ws none).after (ops.filter fun op => failAt ≠ some op.phase) s
  /-- Operations that draw nothing change no other answer, wherever they stand. -/
  quiet : ∀ front ops back, (∀ op ∈ ops, op.phase ∈ [.compile, .confirm, .verify]) →
    ∃ before between behind,
      (simulated ws failAt).answers (front ++ ops ++ back) s = before ++ between ++ behind ∧
        (simulated ws failAt).answers (front ++ back) s = before ++ behind ∧
          before.map Call.operation = front ∧ between.map Call.operation = ops ∧
            behind.map Call.operation = back
  /-- A deployment that is not refused answers with a well-formed receipt, which is made of the
  words that follow those drawn before. -/
  receipts : failAt ≠ some .deploy → ∀ front back, ∃ receipt,
    ((simulated ws failAt).answers (front ++ .deploy :: back) s)[front.length]? =
        some (.deploy (.ok receipt)) ∧
      receipt.MadeOf (ws.bytes (s.drawn + wordsFor failAt front) 52)

/-- **A simulated failure draws nothing and disturbs no other call.** -/
theorem Simulated.sparing (seed : UInt64) (failAt : Option Phase) (s : Simulated) :
    Simulated.Sparing (.ofSeed seed) failAt s where
  refused _ _ hcall h := failure?_of_mem_answers _ s hcall h
  answered ops := map_operation_answers _ ops s
  others ops := answers_others _ s ops
  quiet front ops back hquiet := by
    have hstay := after_quiet (.ofSeed seed) ((simulated (.ofSeed seed) failAt).after front s)
      failAt hquiet
    have hops := (simulated (.ofSeed seed) failAt).map_operation_answers ops
      ((simulated (.ofSeed seed) failAt).after front s)
    refine ⟨_, _, _, ?_, answers_append _ front s back, map_operation_answers _ front s, hops,
      map_operation_answers _ back _⟩
    rw [List.append_assoc, answers_append, answers_append, hstay, List.append_assoc]
  receipts h front back := by
    obtain ⟨receipt, hanswer, hbytes⟩ :=
      perform_deploy (.ofSeed seed) ((simulated (.ofSeed seed) failAt).after front s) h
    rw [drawn_after] at hbytes
    refine ⟨receipt, ?_, hbytes⟩
    have hlength := length_answers (simulated (.ofSeed seed) failAt) front s
    rw [answers_append, answers_cons, hanswer, List.getElem?_append_right hlength.le, hlength,
      Nat.sub_self]
    rfl

end Executor
end TokenLaunch
