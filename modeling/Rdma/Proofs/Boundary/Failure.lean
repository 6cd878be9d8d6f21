import Rdma.Proofs.Boundary.Result

/-!
# Failed calls

What fails on the handle layer has changed nothing but the journal. Neither does the C boundary add
anything to it: the caller is told of the failure, and no structure of the caller's is written to.

* `pollCq_failed` — a poll that fails has written no completion;
* `failed_untouched` — a failed operation, and every call that it stands for.
-/

namespace Rdma.Boundary

variable {α : Type} {v : Verbs}

/-- A poll that fails, on its own arguments or later, has written no completion and changed nothing.
-/
theorem pollCq_failed (hspares : ∀ cq n, v.Spares (Verbs.perform (.pollCq cq n) v))
    (env : Environment) (cq : Handle) (array : Bool) (n : Int32)
    (hfailed : (pollCq env cq array n (.live v)).1.1 < 0) :
    (pollCq env cq array n (.live v)).1.2 = [] ∧
      (Library.live v).Untouched (pollCq env cq array n (.live v)).2 := by
  have hpolls : Polls v cq array n (.live v) (pollCq env cq array n (.live v)) :=
    pollCq_polls env cq array n (.live v)
  generalize pollCq env cq array n (.live v) = result at hpolls hfailed ⊢
  cases hpolls with
  | refused => exact ⟨rfl, .refl _⟩
  | polled _ _ hnumber =>
      -- the number of completions is not negative
      rw [Int32.lt_iff_toInt_lt, hnumber] at hfailed
      exact absurd hfailed (by simp)
  | failed _ hverb _ hafter =>
      have hsame := hspares cq n.toInt.toNat
      rw [hverb] at hsame
      exact ⟨rfl, (Library.untouched_live (hsame _ rfl)).trans hafter⟩

/-- While nobody closes, reads or writes the descriptors of channels, an operation that is done at
once and fails leaves everything but the journal as it was: handles, details and policy, all tables,
queues and counters of the fabric, tokens and memory. Whoever calls across the C boundary gets that
failure instead of an answer for the structures that were to be filled, and a poll that fails has put
nothing into its array. -/
theorem failed_untouched (policy : DependencyPolicy) (memory : Memory) (devices : List DeviceConfig)
    (ops : List Verbs.AnyOperation)
    (hissued : ((Verbs.fresh policy memory devices).performAll ops).issued < 2 ^ 56)
    (htokens : (Verbs.fresh policy memory devices).LeavesTokens ops) :
    let v := (Verbs.fresh policy memory devices).performAll ops
    (∀ {α : Type} (op : Verbs.Operation α), op.inParts = false → ∀ e w,
      Verbs.perform op v = (.error e, w) → v.Untouched w ∧
        ∀ (call : Operation α) (env : Environment) (record : Option ResultRecord),
          call.asVerb = .ok op →
          (call.make env record (.live v)).1.outcome = .error e ∧
            (Library.live v).Untouched (call.make env record (.live v)).2) ∧
    ∀ env cq array n, (pollCq env cq array n (.live v)).1.1 < 0 →
      (pollCq env cq array n (.live v)).1.2 = [] ∧
        (Library.live v).Untouched (pollCq env cq array n (.live v)).2 := by
  intro v
  refine ⟨fun op hop e w hfailed => ?_, pollCq_failed fun cq n => ?_⟩
  · have hsame := Verbs.performAll_spares policy memory devices ops hissued htokens hop e
      (congrArg Prod.fst hfailed)
    refine ⟨?_, fun call env record hverb => ?_⟩
    · rwa [hfailed] at hsame
    · obtain ⟨houtcome, hafter⟩ := make_verb hverb env record v
      exact ⟨houtcome.trans (congrArg Prod.fst hfailed), (Library.untouched_live hsame).trans hafter⟩
  · exact Verbs.performAll_spares policy memory devices ops hissued htokens rfl

/-- Where no event waits none is fetched, and no token is taken. -/
theorem oneOfEach_untouched :
    let v := (Verbs.fresh .registry {} [{}]).performAll Verbs.oneOfEach
    let channel : Handle := .compose .completionChannel 3
    let fetch : Verbs.Operation (Handle × UInt64) := .getCqEvent channel
    let reply := (Operation.getCqEvent channel).make {} none (.live v)
    (Verbs.perform fetch v).1 = .error (.driver (.code .again)) ∧
      v.Untouched (Verbs.perform fetch v).2 ∧
      reply.1.outcome = .error (.driver (.code .again)) ∧ (Library.live v).Untouched reply.2 := by
  intro v channel fetch reply
  have hanswer : (Verbs.perform fetch v).1 = .error (.driver (.code .again)) := by decide +kernel
  have hsteps : (Verbs.fresh .registry {} [{}]).LeavesTokens Verbs.oneOfEach :=
    ⟨trivial, trivial, trivial, trivial, trivial, trivial, trivial, trivial⟩
  obtain ⟨hfailed, -⟩ := failed_untouched .registry {} [{}] Verbs.oneOfEach (by decide) hsteps
  obtain ⟨hsame, hcalls⟩ := hfailed fetch rfl _ _ (Prod.ext hanswer rfl)
  exact ⟨hanswer, hsame, hcalls (.getCqEvent channel) {} none rfl⟩

end Rdma.Boundary
