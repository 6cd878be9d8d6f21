import Rdma.Provider
import Rdma.Proofs.Engine.Relocation
import Rdma.Proofs.Fabric.Numbers

/-!
# Native verbs under other identities

Every native verb answers the same under other identities, up to the relocation, and leaves the same
behind. Only a verb that draws an identity needs the counter to be past the first that is moved
steadily.

* `Step.Along` — steps that go along with a change of the state;
* `allocPd_along` and the like — the native verbs.
-/

namespace Rdma

/-! ## Steps along a change of the state -/

namespace Step

variable {σ ε α α' β β' : Type}

/-- After the state is changed, the other step does and answers what the step does and answers
before. -/
def Along (change : σ → σ) (rename : α → α') (s : σ) (x : Step σ ε α) (x' : Step σ ε α') : Prop :=
  x' (change s) = ((x s).1.map rename, change (x s).2)

variable {change : σ → σ} {s : σ}

/-- Here the answer is the same. -/
theorem Along.same {x x' : Step σ ε α} (h : Along change id s x x') :
    x' (change s) = ((x s).1, change (x s).2) := by
  rw [h, Except.map_id]
  rfl

theorem along_same {x x' : Step σ ε α} (h : x' (change s) = ((x s).1, change (x s).2)) :
    Along change id s x x' :=
  h.trans (congrArg (·, change (x s).2) (congrFun Except.map_id (x s).1).symm)

theorem along_read {rename : α → α'} {f : σ → Except ε α} {f' : σ → Except ε α'}
    (hf : f' (change s) = (f s).map rename) : Along change rename s (.read f) (.read f') :=
  congrArg (·, change s) hf

theorem Along.bind {rename : α → α'} {rename' : β → β'} {x : Step σ ε α} {x' : Step σ ε α'}
    {f : α → Step σ ε β} {f' : α' → Step σ ε β'} (hx : Along change rename s x x')
    (hf : ∀ a t, x s = (.ok a, t) → Along change rename' t (f a) (f' (rename a))) :
    Along change rename' s (x >>= f) (x' >>= f') := by
  unfold Along at hx ⊢
  rw [bind_apply, bind_apply, hx]
  cases hresult : x s with
  | mk answer t =>
      cases answer with
      | error e => rfl
      | ok a => exact hf a t hresult

theorem along_guarded {rename : α → α'} {rename' : β → β'} {check : σ → Except ε α}
    {check' : σ → Except ε α'} {commit : α → σ → β × σ} {commit' : α' → σ → β' × σ}
    (hcheck : check' (change s) = (check s).map rename)
    (hcommit : ∀ a, check s = .ok a → commit' (rename a) (change s) =
      (rename' (commit a s).1, change (commit a s).2)) :
    Along change rename' s (.guarded check commit) (.guarded check' commit') := by
  unfold Along
  simp only [guarded, hcheck]
  cases hpassed : check s with
  | error e => rfl
  | ok a => exact congrArg (fun r : β' × σ => (Except.ok r.1, r.2)) (hcommit a hpassed)

/-- The checks come to the same. -/
theorem along_guarded_same {rename : β → β'} {check check' : σ → Except ε α}
    {commit : α → σ → β × σ} {commit' : α → σ → β' × σ} (hcheck : check' (change s) = check s)
    (hcommit : ∀ a, commit' a (change s) = (rename (commit a s).1, change (commit a s).2)) :
    Along change rename s (.guarded check commit) (.guarded check' commit') :=
  along_guarded (hcheck.trans (congrFun Except.map_id (check s)).symm) fun a _ => hcommit a

end Step

variable (m : Relocation)

def RegionGrant.moved (g : RegionGrant) : RegionGrant := { g with native := m.move g.native }

def CqGrant.moved (g : CqGrant) : CqGrant := { g with native := m.move g.native }

def QpGrant.moved (g : QpGrant) : QpGrant := { g with native := m.move g.native }

namespace Host

open Fabric (Channel CompletionQueue QueuePair SharedQueue)

variable (h : Host)

/-! ## Events of a completion queue that goes -/

theorem setDescriptor_moved (channel : NativeId) (descriptor : Descriptor) :
    (h.moved m).setDescriptor (m.move channel) descriptor =
      (h.setDescriptor channel descriptor).moved m :=
  h.updateChannel_moved m channel fun _ => by rfl

theorem drainTokens_moved (channel : NativeId) (n : Nat) :
    drainTokens (m.move channel) n (h.moved m) = (drainTokens channel n h).moved m := by
  induction n generalizing h with
  | zero => rfl
  | succ n ih =>
      simp only [drainTokens, moved_fabric, Fabric.channel?_moved]
      cases h.fabric.channels.find? channel with
      | none => rfl
      | some c =>
          simp only [Option.map_some, Channel.moved_descriptor]
          split
          · rfl
          cases c.descriptor.take with
          | ok descriptor => simp only [setDescriptor_moved, ih]
          | error cause => rfl

theorem dropEvents_moved (channel cq : NativeId) :
    dropEvents (m.move channel) (m.move cq) (h.moved m) = (dropEvents channel cq h).moved m := by
  simp only [dropEvents, moved_fabric, Fabric.channel?_moved]
  cases h.fabric.channels.find? channel with
  | none => rfl
  | some c =>
      -- the same events are dropped, as moving keeps queues apart
      have hkept : (c.pending.map (·.moved m)).filter (·.cq ≠ m.move cq) =
          (c.pending.filter (·.cq ≠ cq)).map (·.moved m) := by
        simp [List.filter_map, Function.comp_def]
      have hdropped :
          { h.moved m with
            fabric := (h.fabric.moved m).updateChannel (m.move channel) fun c' =>
              { c' with pending := (c.pending.filter (·.cq ≠ cq)).map (·.moved m) } } =
          { h with
            fabric := h.fabric.updateChannel channel fun c' =>
              { c' with pending := c.pending.filter (·.cq ≠ cq) } }.moved m :=
        h.updateChannel_moved m channel fun _ => rfl
      simp only [Option.map_some, Channel.moved_pending, hkept, List.length_map, hdropped]
      exact drainTokens_moved m _ channel _

/-! ## Native verbs -/

/-- The native verb answers the same under other identities, and does the same. -/
abbrev Along {ε α α' : Type} (rename : α → α') (x : Step Host ε α) (x' : Step Host ε α') : Prop :=
  Step.Along (moved m) rename h x x'

/-- What is done to the fabric only is done to the fabric under other identities. -/
theorem commit_moved {α : Type} {f f' : Fabric} (hf : f' = f.moved m) (a : α) :
    (a, { h.moved m with fabric := f' }) = (a, { h with fabric := f }.moved m) := by
  rw [hf]
  rfl

theorem closeDevice_along (ctx : NativeId) :
    h.Along m id (closeDevice ctx) (closeDevice (m.move ctx)) := by
  refine Step.along_guarded_same ?_ fun _ => commit_moved m h ?_ ()
  · simp only [moved_fabric, Fabric.context_moved, Fabric.contextUsage_moved]
  · simp only [moved_fabric, Fabric.moved, ← Table.erase_rekey]

theorem deviceName_moved (ctx : NativeId) :
    deviceName (m.move ctx) (h.moved m) = deviceName ctx h := by
  simp only [deviceName, moved_fabric, Fabric.context?_moved]

theorem along_same_read {ε α : Type} {f f' : Host → Except ε α} (hf : f' (h.moved m) = f h) :
    h.Along m id (.read f) (.read f') :=
  Step.along_read (hf.trans (congrFun Except.map_id (f h)).symm)

theorem queryDevice_along (ctx : NativeId) :
    h.Along m id (queryDevice ctx) (queryDevice (m.move ctx)) :=
  along_same_read m h (by simp only [moved_fabric, Fabric.context_moved])

theorem queryPort_along (ctx : NativeId) (port : UInt8) :
    h.Along m id (queryPort ctx port) (queryPort (m.move ctx) port) :=
  along_same_read m h (by simp only [moved_fabric, Fabric.contextWithPort_moved])

theorem queryGid_along (ctx : NativeId) (port index : UInt8) :
    h.Along m id (queryGid ctx port index) (queryGid (m.move ctx) port index) :=
  along_same_read m h (by simp only [moved_fabric, Fabric.contextWithPort_moved])

theorem deallocPd_along (pd : NativeId) :
    h.Along m id (deallocPd pd) (deallocPd (m.move pd)) := by
  refine Step.along_guarded_same ?_ fun _ => commit_moved m h ?_ ()
  · have hcontains : (h.fabric.moved m).pds.contains (m.move pd) = h.fabric.pds.contains pd :=
      h.fabric.pds.contains_rekey m.injective _ pd
    simp only [moved_fabric, hcontains, Fabric.pdUsage_moved]
  · simp only [moved_fabric, Fabric.moved, ← Table.erase_rekey]

theorem deregMr_along (mr : NativeId) :
    h.Along m id (deregMr mr) (deregMr (m.move mr)) := by
  refine Step.along_guarded_same ?_ fun _ => commit_moved m h ?_ ()
  · simp only [moved_fabric, Fabric.moved, Table.contains_rekey]
  · simp only [moved_fabric, Fabric.moved, ← Table.erase_rekey]

theorem destroyChannel_along (channel : NativeId) :
    h.Along m id (destroyChannel channel) (destroyChannel (m.move channel)) := by
  refine Step.along_guarded_same ?_ fun _ => commit_moved m h ?_ ()
  · simp [moved_fabric, Fabric.moved, Table.values_rekey, List.any_map, Function.comp_def]
  · simp only [moved_fabric, Fabric.moved, ← Table.erase_rekey]

theorem destroySrq_along (srq : NativeId) :
    h.Along m id (destroySrq srq) (destroySrq (m.move srq)) := by
  refine Step.along_guarded_same ?_ fun _ => commit_moved m h ?_ ()
  · simp [moved_fabric, Fabric.moved, Table.values_rekey, List.any_map, Function.comp_def]
  · simp only [moved_fabric, Fabric.moved, ← Table.erase_rekey]

theorem destroyCq_along (cq : NativeId) :
    h.Along m id (destroyCq cq) (destroyCq (m.move cq)) := by
  refine Step.along_guarded (h.fabric.checkCqUnused_moved m cq) fun q _ => ?_
  have herased (k : Host) :
      ((), { k.moved m with
        fabric := { (k.moved m).fabric with cqs := (k.moved m).fabric.cqs.erase (m.move cq) } }) =
        ((), { k with fabric := { k.fabric with cqs := k.fabric.cqs.erase cq } }.moved m) :=
    commit_moved m k (by simp only [moved_fabric, Fabric.moved, ← Table.erase_rekey]) ()
  simp only [CompletionQueue.moved_channel]
  cases q.channel with
  | none => exact herased h
  | some channel =>
      simp only [Option.map_some, dropEvents_moved]
      exact herased _

theorem channelDescriptor_along (channel : NativeId) :
    h.Along m id (channelDescriptor channel) (channelDescriptor (m.move channel)) := by
  refine along_same_read m h ?_
  simp only [moved_fabric, Fabric.channel?_moved]
  cases h.fabric.channels.find? channel <;> rfl

theorem queryQpState_along (qp : NativeId) :
    h.Along m id (queryQpState qp) (queryQpState (m.move qp)) := by
  refine along_same_read m h ?_
  simp only [moved_fabric, Fabric.qp?_moved]
  cases h.fabric.qps.find? qp <;> rfl

theorem pollCq_along (cq : NativeId) (n : Nat) :
    h.Along m id (pollCq cq n) (pollCq (m.move cq) n) := by
  refine Step.along_guarded_same ?_ fun taken => ?_
  · simp only [moved_fabric, Fabric.cq?_moved]
    cases h.fabric.cqs.find? cq <;> rfl
  · have hpolled : (h.moved m).updateCq (m.move cq)
          (fun q => { q with entries := q.entries.drop n }) =
        (h.updateCq cq fun q => { q with entries := q.entries.drop n }).moved m :=
      h.updateCq_moved m cq fun _ => rfl
    exact congrArg (fun k => (taken, k.note (.polled (m.move cq) taken))) hpolled

theorem reqNotifyCq_along (cq : NativeId) (solicitedOnly : Bool) :
    h.Along m id (reqNotifyCq cq solicitedOnly) (reqNotifyCq (m.move cq) solicitedOnly) := by
  refine Step.along_guarded_same ?_ fun _ => ?_
  · simp only [moved_fabric, Fabric.cq?_moved]
    cases h.fabric.cqs.find? cq with
    | none => rfl
    | some q => simp only [Option.map_some, CompletionQueue.moved_channel, Option.isNone_map]
  · have harmed : (h.moved m).updateCq (m.move cq)
          (fun q => { q with armed := some (q.armed ≠ some false && solicitedOnly) }) =
        (h.updateCq cq fun q =>
          { q with armed := some (q.armed ≠ some false && solicitedOnly) }).moved m :=
      h.updateCq_moved m cq fun _ => rfl
    exact congrArg (fun k => ((), k.note (.armed (m.move cq) solicitedOnly))) harmed

theorem ackCqEvents_moved (cq : NativeId) (n : UInt32) :
    ackCqEvents (m.move cq) n (h.moved m) = (ackCqEvents cq n h).moved m :=
  h.updateCq_moved m cq fun _ => by rfl

theorem getCqEvent_along (channel : NativeId) :
    h.Along m (·.moved m) (getCqEvent channel) (getCqEvent (m.move channel)) := by
  unfold Along Step.Along getCqEvent
  simp only [moved_fabric, Fabric.channel?_moved]
  cases h.fabric.channels.find? channel with
  | none => rfl
  | some c =>
      simp only [Option.map_some, Channel.moved_descriptor, Channel.moved_pending]
      cases c.descriptor.take with
      | error cause => rfl
      | ok descriptor =>
          cases c.pending with
          | nil => exact congrArg (Prod.mk _) (h.setDescriptor_moved m channel descriptor)
          | cons event rest =>
              have hfetched :
                  { h.moved m with
                    fabric := (h.fabric.moved m).updateChannel (m.move channel) fun c =>
                      { c with descriptor, pending := rest.map (·.moved m) } } =
                  { h with
                    fabric := h.fabric.updateChannel channel fun c =>
                      { c with descriptor, pending := rest } }.moved m :=
                h.updateChannel_moved m channel fun _ => rfl
              have hcounted (k : Host) : (k.moved m).updateCq (m.move event.cq)
                    (fun q => { q with unacknowledged := q.unacknowledged + 1 }) =
                  (k.updateCq event.cq fun q =>
                    { q with unacknowledged := q.unacknowledged + 1 }).moved m :=
                k.updateCq_moved m event.cq fun _ => rfl
              simp only [List.map_cons, hfetched, CqEvent.moved_cq, hcounted]
              rfl

theorem enterState_moved (qp : NativeId) (source target : QpState) :
    (h.moved m).enterState (m.move qp) source target = (h.enterState qp source target).moved m := by
  have hcleared : (h.moved m).updateQp (m.move qp) (·.cleared) =
      (h.updateQp qp (·.cleared)).moved m := h.updateQp_moved m qp fun _ => rfl
  unfold enterState
  split
  · exact congrArg (·.note (.queuesCleared (m.move qp))) hcleared
  · split
    · rfl
    · exact enterError_moved m h qp
  · rfl

theorem modifyQp_along (qp : NativeId) (attributes : QpAttributes) (mask : QpMask) :
    h.Along m id (modifyQp qp attributes mask) (modifyQp (m.move qp) attributes mask) := by
  refine Step.along_same ?_
  unfold modifyQp
  simp only [moved_fabric, Fabric.qp?_moved]
  cases h.fabric.qps.find? qp with
  | none => rfl
  | some q =>
      have htarget : Fabric.targetState (q.moved m) attributes mask =
          Fabric.targetState q attributes mask := rfl
      simp only [Option.map_some, QueuePair.moved_pd, QueuePair.moved_state,
        Fabric.contextOfPd_moved, htarget]
      split
      · rfl
      case h_2 device target _ =>
        have hmodified : (h.moved m).updateQp (m.move qp) (·.modified attributes mask target) =
            (h.updateQp qp (·.modified attributes mask target)).moved m :=
          h.updateQp_moved m qp fun _ => rfl
        simp only [hmodified, enterState_moved, progress_moved]
        split
        · rfl
        split <;> rfl

theorem destroyQp_along (qp : NativeId) :
    h.Along m id (destroyQp qp) (destroyQp (m.move qp)) := by
  refine Step.along_guarded (show _ = Except.map (fun q : QueuePair => q.moved m) _ from ?_)
    fun q _ => ?_
  · simp only [moved_fabric, Fabric.qp?_moved]
    cases h.fabric.qps.find? qp <;> rfl
  · have hgone : { h.fabric.moved m with
          qps := (h.fabric.moved m).qps.erase (m.move qp)
          qpNumbers := (h.fabric.moved m).qpNumbers.erase q.number } =
        { h.fabric with
          qps := h.fabric.qps.erase qp
          qpNumbers := h.fabric.qpNumbers.erase q.number }.moved m := by
      simp only [Fabric.moved, ← Table.erase_rekey, id_eq]
    simp only [moved_fabric, QueuePair.moved_number, hgone]
    exact congrArg (Prod.mk ()) (progress_moved m
      (({ h with
          fabric := { h.fabric with
            qps := h.fabric.qps.erase qp
            qpNumbers := h.fabric.qpNumbers.erase q.number } } : Host).note (.queuesCleared qp)))

/-! ## Posting -/

theorem acceptSend_moved (f : Fabric) (memory : Memory) (qp : QueuePair) (queued : Nat)
    (request : SendRequest) :
    (f.moved m).acceptSend memory (qp.moved m) queued request =
      f.acceptSend memory qp queued request := by
  have hcaptured (limit : UInt32) :
      (f.moved m).captureInline memory (m.move qp.pd) limit request =
        f.captureInline memory qp.pd limit request := by
    simp [Fabric.captureInline, Fabric.moved, Table.values_rekey, List.any_map, Function.comp_def,
      Fabric.Region.covers]
  simp only [Fabric.acceptSend, QueuePair.moved_caps, QueuePair.moved_pd, hcaptured]

theorem postSend_along (qp : NativeId) (requests : List SendRequest) :
    h.Along m id (postSend qp requests) (postSend (m.move qp) requests) := by
  refine Step.along_same ?_
  unfold postSend
  simp only [moved_fabric, moved_memory, Fabric.qp?_moved]
  cases h.fabric.qps.find? qp with
  | none => rfl
  | some q =>
      simp only [Option.map_some, QueuePair.moved_state, QueuePair.moved_sendQueue, acceptSend_moved]
      split
      · generalize accept _ 0 requests = result
        obtain ⟨accepted, rejection⟩ := result
        have hposted : (h.moved m).updateQp (m.move qp)
              (fun q => { q with sendQueue := q.sendQueue ++ accepted }) =
            (h.updateQp qp fun q => { q with sendQueue := q.sendQueue ++ accepted }).moved m :=
          h.updateQp_moved m qp fun _ => rfl
        have hnoted (k : Host) : accepted.foldl
              (fun k s => k.note (.sendAccepted (m.move qp) s.request)) (k.moved m) =
            (accepted.foldl (fun k s => k.note (.sendAccepted qp s.request)) k).moved m :=
          foldl_moved m k (fun _ _ => rfl) accepted
        simp only [hposted, hnoted]
        split <;> simp only [flush_moved, progress_moved]
      · rfl

theorem postRecv_along (qp : NativeId) (requests : List RecvRequest) :
    h.Along m id (postRecv qp requests) (postRecv (m.move qp) requests) := by
  refine Step.along_same ?_
  unfold postRecv
  simp only [moved_fabric, Fabric.qp?_moved]
  cases h.fabric.qps.find? qp with
  | none => rfl
  | some q =>
      simp only [Option.map_some, QueuePair.moved_state, QueuePair.moved_srq, Option.isSome_map,
        QueuePair.moved_caps, QueuePair.moved_recvQueue]
      split
      · rfl
      · generalize accept _ 0 requests = result
        obtain ⟨accepted, rejection⟩ := result
        have hposted : (h.moved m).updateQp (m.move qp)
              (fun q => { q with recvQueue := q.recvQueue ++ accepted }) =
            (h.updateQp qp fun q => { q with recvQueue := q.recvQueue ++ accepted }).moved m :=
          h.updateQp_moved m qp fun _ => rfl
        have hnoted (k : Host) : accepted.foldl
              (fun k r => k.note (.recvAccepted (.ofQp (m.move qp)) r)) (k.moved m) =
            (accepted.foldl (fun k r => k.note (.recvAccepted (.ofQp qp) r)) k).moved m :=
          foldl_moved m k (fun _ _ => rfl) accepted
        simp only [hposted, hnoted]
        split <;> simp only [flush_moved, progress_moved]

theorem postSrqRecv_along (srq : NativeId) (requests : List RecvRequest) :
    h.Along m id (postSrqRecv srq requests) (postSrqRecv (m.move srq) requests) := by
  refine Step.along_same ?_
  unfold postSrqRecv
  simp only [moved_fabric, Fabric.srq?_moved]
  cases h.fabric.srqs.find? srq with
  | none => rfl
  | some s =>
      simp only [Option.map_some, SharedQueue.moved_maxWr, SharedQueue.moved_maxSge,
        SharedQueue.moved_queue]
      generalize accept _ 0 requests = result
      obtain ⟨accepted, rejection⟩ := result
      let posted (k : Host) (id : NativeId) : Host :=
        { k with
          fabric := { k.fabric with
            srqs := k.fabric.srqs.modify id fun s => { s with queue := s.queue ++ accepted } } }
      have hposted : posted (h.moved m) (m.move srq) = (posted h srq).moved m :=
        congrArg (fun fabric => { h.moved m with fabric })
          (h.fabric.modifySrq_moved m srq fun _ => by rfl)
      have hnoted (k : Host) : accepted.foldl
            (fun k r => k.note (.recvAccepted (.shared (m.move srq)) r)) (k.moved m) =
          (accepted.foldl (fun k r => k.note (.recvAccepted (.shared srq) r)) k).moved m :=
        foldl_moved m k (fun _ _ => rfl) accepted
      have hran : ((accepted.foldl (fun k r => k.note (.recvAccepted (.shared (m.move srq)) r))
            (posted (h.moved m) (m.move srq))).progress) =
          ((accepted.foldl (fun k r => k.note (.recvAccepted (.shared srq) r))
            (posted h srq)).progress).moved m := by
        rw [hposted, hnoted, progress_moved]
      exact congrArg (Prod.mk _) hran

/-! ## Creating -/

section Creating

variable (hfirst : m.first ≤ h.fabric.nextId)

include hfirst

theorem allocPd_along (ctx : NativeId) :
    h.Along m m.move (allocPd ctx) (allocPd (m.move ctx)) := by
  refine Step.along_guarded_same ?_ fun _ => commit_moved m h ?_ (m.move h.fabric.nextId)
  · have hcount : (h.fabric.moved m).pds.count (·.context = m.move ctx) =
        h.fabric.pds.count (·.context = ctx) := by
      simp [Fabric.moved, Table.count_rekey, Function.comp_def]
    simp only [moved_fabric, Fabric.context_moved, hcount]
  · simp only [moved_fabric, Fabric.allocId, Fabric.moved, ← Table.insert_rekey, m.steady _ hfirst,
      Fabric.ProtectionDomain.moved]

theorem regMr_along (pd : NativeId) (addr length : UInt64) (permission : Permission) :
    h.Along m (·.moved m) (regMr pd addr length permission)
      (regMr (m.move pd) addr length permission) := by
  refine Step.along_guarded_same (h.fabric.checkRegion_moved m pd addr length permission)
    fun _ => commit_moved m h ?_ _
  simp only [moved_fabric, Fabric.allocId, Fabric.allocKey, Fabric.moved, ← Table.insert_rekey,
    m.steady _ hfirst, Fabric.Region.moved]
  rfl

theorem createChannel_along (ctx : NativeId) :
    h.Along m m.move (createChannel ctx) (createChannel (m.move ctx)) := by
  refine Step.along_guarded_same ?_ fun _ => commit_moved m h ?_ (m.move h.fabric.nextId)
  · simp only [moved_fabric, Fabric.context_moved, moved_descriptorsLeft]
    rfl
  · simp only [moved_fabric, Fabric.allocId, Fabric.moved, ← Table.insert_rekey, m.steady _ hfirst,
      Fabric.Channel.moved, List.map_nil]

theorem createCq_along (ctx : NativeId) (depth : UInt32) (channel : Option NativeId)
    (cookie : UInt64) (vector : Int32) :
    h.Along m (·.moved m) (createCq ctx depth channel cookie vector)
      (createCq (m.move ctx) depth (channel.map m.move) cookie vector) := by
  refine Step.along_guarded_same (h.fabric.checkCq_moved m ctx depth channel vector)
    fun capacity => commit_moved m h ?_ _
  simp only [moved_fabric, Fabric.allocId, Fabric.moved, ← Table.insert_rekey, m.steady _ hfirst,
    Fabric.CompletionQueue.moved]

theorem createSrq_along (pd : NativeId) (init : SrqInit) :
    h.Along m m.move (createSrq pd init) (createSrq (m.move pd) init) := by
  refine Step.along_guarded_same (h.fabric.checkSrq_moved m pd init) fun _ =>
    commit_moved m h ?_ (m.move h.fabric.nextId)
  simp only [moved_fabric, Fabric.allocId, Fabric.moved, ← Table.insert_rekey, m.steady _ hfirst,
    Fabric.SharedQueue.moved]

/-- Queue pair numbers come from a counter that identities have no part in. -/
theorem createQp_along (pd : NativeId) (init : NativeQpInit) :
    h.Along m (·.moved m) (createQp pd init) (createQp (m.move pd) (init.moved m)) := by
  let alongside (grant : UInt32 × Fabric) : UInt32 × Fabric := (grant.1, grant.2.moved m)
  refine Step.along_guarded (show _ = Except.map alongside _ from ?_) fun grant hgrant => ?_
  · simp only [moved_fabric, Fabric.checkQp_moved, Fabric.allocQpNumber?_moved]
    cases h.fabric.checkQp pd init with
    | error cause => rfl
    | ok => cases h.fabric.allocQpNumber? <;> rfl
  · obtain ⟨number, f⟩ := grant
    have hfound : h.fabric.allocQpNumber? = some (number, f) := by
      obtain ⟨⟨⟩, -, hnumber⟩ := bind_eq_ok.1 hgrant
      cases ha : h.fabric.allocQpNumber? with
      | none => simp [ha] at hnumber
      | some grant => simpa [ha] using hnumber
    obtain ⟨-, nextQpNumber, rfl, -⟩ := Fabric.allocQpNumber?_eq_some hfound
    refine commit_moved m h ?_ _
    simp only [Fabric.allocId, Fabric.moved, ← Table.insert_rekey, m.steady _ hfirst,
      Fabric.QueuePair.moved, NativeQpInit.moved, id_eq]

end Creating

end Host

end Rdma
