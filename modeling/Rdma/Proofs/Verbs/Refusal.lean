import Rdma.Proofs.Verbs.Custody
import Rdma.Proofs.Verbs.Image
import Rdma.Proofs.Verbs.Teardown

/-!
# Failed operations

A verb checks on two levels before it changes anything: the handle layer resolves handles, then the
provider makes its own checks. What fails at either level has changed nothing but the journal, and
what the provider did is never followed by a failure of the handle layer. The exceptions are posts,
of which the requests before the rejected one stay, and connecting, which takes three steps.

* `Spares` — an outcome that is no failure, or changed nothing;
* `perform_spares` — so are the outcomes of all other operations;
* `performAll_spares` — along all runs in which nobody tampers with descriptors.
-/

namespace Rdma.Verbs

open Fabric (Object)

variable {v w : Verbs} {α β : Type}

/-- Nothing changed but the journal. -/
def Untouched (v w : Verbs) : Prop := ∃ journal, w = { v with host := { v.host with journal } }

/-- If the outcome is a failure, nothing changed but the journal. -/
def Spares (v : Verbs) (r : Except VerbsError α × Verbs) : Prop :=
  ∀ e, r.1 = .error e → v.Untouched r.2

theorem Untouched.refl (v : Verbs) : v.Untouched v := ⟨v.host.journal, rfl⟩

theorem untouched_note (v : Verbs) (e : Event) : v.Untouched (v.note e) :=
  ⟨v.host.journal.add e, rfl⟩

theorem spares_ok (v : Verbs) (a : α) (w : Verbs) : v.Spares (.ok a, w) := by
  intro e h
  cases h

theorem spares_same (v : Verbs) (answer : Except VerbsError α) : v.Spares (answer, v) :=
  fun _ _ => .refl v

theorem spares_note (v : Verbs) (answer : Except VerbsError α) (e : Event) :
    v.Spares (answer, v.note e) :=
  fun _ _ => v.untouched_note e

/-! ## Verbs that only look -/

/-- Whatever it answers, the verb changes nothing. -/
def Looks (x : Verb α) : Prop := ∀ v, (x v).2 = v

theorem looks_read (f : Verbs → Except VerbsError α) : Looks (.read f) := fun _ => rfl

theorem looks_pure (a : α) : Looks (pure a : Verb α) := fun _ => rfl

theorem Looks.bind {x : Verb α} {f : α → Verb β} (hx : Looks x) (hf : ∀ a, Looks (f a)) :
    Looks (x >>= f) :=
  Step.bind_relates (R := fun v w : Verbs => w = v) (fun hv hw => hw.trans hv) hx hf

theorem Looks.map {x : Verb α} (hx : Looks x) (f : α → β) : Looks (f <$> x) :=
  hx.bind fun a => looks_pure (f a)

theorem Looks.spares {x : Verb α} (hx : Looks x) (v : Verbs) : v.Spares (x v) := by
  intro e _
  rw [hx]
  exact .refl v

theorem looks_native_read (f : Host → Except OsError α) : Looks (native (.read f)) := by
  intro v
  simp only [native, onHost, Step.read]
  cases f v.host <;> rfl

theorem looks_resolve_native {handle : Handle} {kind : ResourceKind}
    (f : NativeId → Host → Except OsError α) :
    Looks (resolve handle kind >>= fun id => native (.read (f id))) :=
  (looks_read _).bind fun id => looks_native_read (f id)

theorem looks_detailsOf (handle : Handle) (kind : ResourceKind) (select : Details → Option α) :
    Looks (detailsOf handle kind select) :=
  (looks_read _).bind fun _ => looks_read _

theorem looks_queryPort (ctx : Handle) (port : UInt8) : Looks (queryPort .soft ctx port) :=
  looks_resolve_native _

theorem looks_queryGid (ctx : Handle) (port index : UInt8) :
    Looks (queryGid .soft ctx port index) :=
  looks_resolve_native _

theorem looks_channelDescriptor (channel : Handle) : Looks (channelDescriptor .soft channel) :=
  looks_resolve_native _

theorem looks_endpoint (qp : Handle) (port : UInt8) : Looks (endpoint .soft qp port) :=
  ((looks_detailsOf qp _ _).map _).bind fun _ => (looks_read _).bind fun ctx =>
    (looks_queryPort ctx port).bind fun _ => (looks_queryGid ctx port 0).bind fun _ => looks_pure _

/-- The operations that only look. -/
def Operation.looks : Operation α → Bool
  | .deviceCount | .deviceNames | .deviceName _ | .queryDevice _ | .queryPort .. | .queryGid ..
  | .queryMr _ | .channelDescriptor _ | .cqCapacity _ | .qpNumber _ | .qpTransport _ | .qpState _
  | .endpoint .. => true
  | _ => false

theorem perform_looks {op : Operation α} (hop : op.looks = true) : Looks (perform op) := by
  cases op with
  | deviceCount | deviceNames | deviceName => exact fun _ => rfl
  | queryDevice => exact looks_resolve_native _
  | queryPort ctx port => exact looks_queryPort ctx port
  | queryGid ctx port index => exact looks_queryGid ctx port index
  | queryMr mr => exact looks_detailsOf mr _ _
  | channelDescriptor channel => exact looks_channelDescriptor channel
  | cqCapacity cq => exact looks_detailsOf cq _ _
  | qpNumber qp | qpTransport qp => exact (looks_detailsOf qp _ _).map _
  | qpState qp => exact looks_resolve_native _
  | endpoint qp port => exact looks_endpoint qp port
  | _ => cases hop

/-! ## Parts of verbs -/

section Parts

variable {handle : Handle} {kind : ResourceKind}

theorem spares_resolve {f : NativeId → Verb α}
    (hf : ∀ id, v.registry.resolve handle kind = some id → v.Spares (f id v)) :
    v.Spares ((resolve handle kind >>= f) v) :=
  resolve_cases (fun _ => spares_same v _) hf

/-- A provider that fails leaves the host as it was, but for the journal. -/
theorem spares_native {work : Native α}
    (hwork : ∀ cause k, work v.host = (.error cause, k) → ∃ journal, k = { v.host with journal }) :
    v.Spares (native work v) := by
  intro e he
  unfold native onHost at he ⊢
  cases hresult : work v.host with
  | mk answer k =>
      cases answer with
      | ok a => simp [hresult] at he
      | error cause =>
          obtain ⟨journal, rfl⟩ := hwork cause k hresult
          exact ⟨journal, rfl⟩

/-- Once an object was created, a handle is issued for it without fail. -/
theorem Bestows.spares {result : Except VerbsError Handle × Verbs} (hb : v.Bestows result) :
    v.Spares result := by
  cases hb with
  | refused e => exact spares_same v _
  | made => exact spares_ok v _ _

/-- Once an object was destroyed, its handle is revoked without fail. -/
theorem spares_destroy {work : NativeId → Native Unit}
    (hwork : ∀ (h : Host) id, h.Destroyed kind id (work id h)) (handle : Handle) :
    v.Spares (destroy handle kind work v) := by
  refine spares_resolve fun id _ => ?_
  simp only [Step.bind_apply, checkDependents_eq]
  by_cases hrefused : v.policy = .registry ∧ v.registry.dependents handle > 0
  · simp only [hrefused, and_self, if_true]
    exact spares_note v _ _
  · simp only [hrefused, if_false, destroyNative]
    have hd := hwork v.host id
    generalize work id v.host = result at hd
    cases hd with
    | absent => exact spares_same v _
    | inUse => exact spares_note v _ _
    | removed => exact spares_ok v () _

end Parts

/-! ## Events -/

/-- Where tokens count events, whoever gets no event has taken no token. -/
theorem spares_getCqEvent (hm : v.Mirror) (hh : v.host.Sound) {debts : NativeId → Debt}
    (hcounts : v.host.fabric.Counts debts) (channel : Handle) :
    v.Spares (getCqEvent .soft channel v) := by
  intro e he
  cases hr : v.registry.resolve channel .completionChannel with
  | none =>
      simp only [getCqEvent, Step.bind_apply, resolve, Step.read, hr]
      exact .refl v
  | some id =>
      simp only [getCqEvent, Step.bind_apply, resolve, Step.read, hr, native, onHost,
        Provider.soft] at he ⊢
      rcases v.host.waits_or_not hcounts id with hempty | ⟨c, event, rest, hc, hpending⟩
      · obtain ⟨cause, hfailed⟩ := Host.getCqEvent_of_empty hempty
        rw [hfailed]
        exact .refl v
      -- an event that waits is fetched, and its completion queue has a handle
      · rw [Host.getCqEvent_of_waiting hc (hcounts.tokens id c hc) hpending] at he
        obtain ⟨q, ho, -⟩ := hh.pending hc event (by simp [hpending])
        obtain ⟨cq, hcq⟩ := hm.handled ho
        simp [hm.reversed.2 hcq] at he

/-! ## All operations -/

/-- The operations that may fail half way: posts, and connecting. -/
def Operation.inParts : Operation α → Bool
  | .postSend .. | .postRecv .. | .postSrqRecv .. | .connectQp .. => true
  | _ => false

/-- Whoever fetches an event takes a token before it is known whether there is an event. -/
def Operation.fetches : Operation α → Bool
  | .getCqEvent _ => true
  | _ => false

/-- An operation that is done at once changes nothing if it fails. -/
theorem perform_spares (hh : v.host.Sound) {op : Operation α} (hop : op.inParts = false)
    (hfetch : op.fetches = true → v.Spares (perform op v)) : v.Spares (perform op v) := by
  have hdestroy {kind : ResourceKind} {work : NativeId → Native Unit}
      (hwork : ∀ (h : Host) id, h.Destroyed kind id (work id h)) (handle : Handle) :
      v.Spares (destroy handle kind work v) := spares_destroy hwork handle
  cases hlooks : op.looks with
  | true => exact (perform_looks hlooks).spares v
  | false =>
      cases op with
      | openDevice index => exact (openDevice_bestows hh index).spares
      | closeDevice ctx => exact hdestroy Host.closeDevice_destroyed ctx
      | allocPd ctx => exact (allocPd_bestows hh ctx).spares
      | deallocPd pd => exact hdestroy Host.deallocPd_destroyed pd
      | regMr pd addr length permission => exact (regMr_bestows hh pd addr length permission).spares
      | deregMr mr => exact hdestroy Host.deregMr_destroyed mr
      | createChannel ctx => exact (createChannel_bestows hh ctx).spares
      | destroyChannel channel => exact hdestroy Host.destroyChannel_destroyed channel
      | setChannelDescriptor => exact spares_resolve fun _ _ => spares_ok v () _
      | addChannelFlags channel mode =>
          intro e he
          simp only [perform, addChannelFlags, Step.bind_apply] at he ⊢
          have hlooked := looks_channelDescriptor channel v
          generalize channelDescriptor .soft channel v = result at hlooked he
          obtain ⟨answer, w⟩ := result
          obtain rfl : w = v := hlooked
          cases answer with
          | error cause => exact .refl w
          | ok descriptor => exact spares_resolve (fun _ _ => spares_ok w () _) e he
      | createCq ctx depth channel cookie vector =>
          exact (createCq_bestows hh ctx depth channel cookie vector).spares
      | destroyCq cq => exact hdestroy Host.destroyCq_destroyed cq
      | pollCq cq n =>
          refine spares_resolve fun id _ => spares_native fun cause k hfailed => ?_
          change Host.pollCq id n v.host = _ at hfailed
          unfold Host.pollCq at hfailed
          exact ⟨v.host.journal, Step.guarded_error hfailed⟩
      | reqNotifyCq cq solicitedOnly =>
          refine spares_resolve fun id _ => spares_native fun cause k hfailed => ?_
          change Host.reqNotifyCq id solicitedOnly v.host = _ at hfailed
          unfold Host.reqNotifyCq at hfailed
          exact ⟨v.host.journal, Step.guarded_error hfailed⟩
      | getCqEvent => exact hfetch rfl
      | ackCqEvents => exact spares_resolve fun _ _ => spares_ok v () _
      | createSrq pd init => exact (createSrq_bestows hh pd init).spares
      | destroySrq srq => exact hdestroy Host.destroySrq_destroyed srq
      | createQp pd init => exact (createQp_bestows hh pd init).spares
      | modifyQp qp attributes mask =>
          refine spares_resolve fun id _ => spares_native fun cause k hfailed => ?_
          rcases v.host.modifyQp_cases id attributes mask with
            ⟨cause', journal, hresult, -⟩ | ⟨q, target, -, -, hresult⟩
          · exact ⟨journal, (Prod.mk.inj (hfailed.symm.trans hresult)).2⟩
          · cases (Prod.mk.inj (hfailed.symm.trans hresult)).1
      | destroyQp qp => exact hdestroy Host.destroyQp_destroyed qp
      | plug | unplug | setMemory | setDescriptorsLeft => exact spares_ok v _ _
      | postSend | postRecv | postSrqRecv | connectQp => cases hop
      | _ => cases hlooks

/-- While nobody closes, reads or writes the descriptors of channels, an operation that is done at
once changes nothing if it fails, whatever happened before. -/
theorem performAll_spares (policy : DependencyPolicy) (memory : Memory)
    (devices : List DeviceConfig) (ops : List AnyOperation)
    (hissued : ((fresh policy memory devices).performAll ops).issued < 2 ^ 56)
    (htokens : (fresh policy memory devices).LeavesTokens ops) {op : Operation α}
    (hop : op.inParts = false) :
    ((fresh policy memory devices).performAll ops).Spares
      (perform op ((fresh policy memory devices).performAll ops)) := by
  have hm := reachable_mirror policy memory devices ops hissued
  have hh := (performAll_sound (fresh_sound policy memory devices) ops).1
  obtain ⟨debts, hcustody⟩ := performAll_custody (fresh_custody policy memory devices) htokens
  refine perform_spares hh hop fun hfetches => ?_
  cases op with
  | getCqEvent channel => exact spares_getCqEvent hm hh hcustody.counts channel
  | _ => cases hfetches

end Rdma.Verbs
