import Rdma.Proofs.Host.Journal
import Rdma.Proofs.Verbs.Teardown

/-!
# The policies agree

It makes no difference who decides whether a resource may be destroyed. Two handle layers that differ
in policy and journal only (`Alike`) answer every operation alike, up to the reason of a refusal, and
are alike afterwards (`Agree`). Verbs that do not destroy answer the same to the letter, for they look
at neither (`Respects`).

* `perform_agree` — the step;
* `performAll_alike` — the run;
* `policies_agree` — two fresh handle layers.
-/

namespace Rdma.Verbs

/-- The handle layers differ in policy and journal at most. -/
structure Alike (v w : Verbs) : Prop where
  registry : v.registry = w.registry
  details : v.details = w.details
  host : v.host.Alike w.host

/-- The same value, or failures of the same status, and handle layers alike afterwards. -/
structure Agree {α : Type} (r s : Except VerbsError α × Verbs) : Prop where
  answer : r.1.mapError VerbsError.status = s.1.mapError VerbsError.status
  alike : r.2.Alike s.2

variable {v w : Verbs} {α β : Type}

theorem Alike.note (ha : v.Alike w) (e e' : Event) : (v.note e).Alike (w.note e') :=
  ⟨ha.registry, ha.details, ha.host.fabric, ha.host.memory, ha.host.descriptorsLeft⟩

/-! ## Verbs that respect likeness -/

/-- The verb answers the same on handle layers that are alike, and leaves them alike. -/
def Respects (x : Verb α) : Prop :=
  ∀ v w : Verbs, v.Alike w → (x v).1 = (x w).1 ∧ (x v).2.Alike (x w).2

theorem respects_pure (a : α) : Respects (pure a : Verb α) :=
  fun _ _ ha => ⟨rfl, ha⟩

theorem respects_throw (e : VerbsError) : Respects (throw e : Verb α) :=
  fun _ _ ha => ⟨rfl, ha⟩

theorem respects_read {f : Verbs → Except VerbsError α} (hf : ∀ {v w}, v.Alike w → f v = f w) :
    Respects (.read f) := fun _ _ ha => ⟨hf ha, ha⟩

theorem Respects.bind {x : Verb α} {f : α → Verb β} (hx : Respects x) (hf : ∀ a, Respects (f a)) :
    Respects (x >>= f) := by
  intro v w ha
  obtain ⟨hanswer, hafter⟩ := hx v w ha
  rw [Step.bind_apply, Step.bind_apply]
  generalize x v = r, x w = s at hanswer hafter
  obtain ⟨answer, v'⟩ := r
  obtain ⟨answer', w'⟩ := s
  obtain rfl : answer = answer' := hanswer
  cases answer with
  | ok a => exact hf a v' w' hafter
  | error e => exact ⟨rfl, hafter⟩

theorem Respects.map {x : Verb α} (hx : Respects x) (f : α → β) : Respects (f <$> x) :=
  hx.bind fun a => respects_pure (f a)

theorem Respects.refuse {c : Prop} [Decidable c] {e : VerbsError} {f : Unit → Verb α}
    (hf : Respects (f ())) : Respects (if c then throw e >>= f else f ()) := by
  split
  · exact respects_throw e
  · exact hf

theorem respects_onHost {ε : Type} (reason : ε → VerbsError) {work : Step Host ε α}
    (hb : Host.Blind work) : Respects (onHost reason work) := by
  intro v w ha
  obtain ⟨hanswer, hafter⟩ := hb.alike ha.host
  unfold onHost
  generalize work v.host = r, work w.host = s at hanswer hafter
  obtain ⟨answer, h⟩ := r
  obtain ⟨answer', k⟩ := s
  obtain rfl : answer = answer' := hanswer
  cases answer with
  | ok a => exact ⟨rfl, ha.registry, ha.details, hafter⟩
  | error cause => exact ⟨rfl, ha.registry, ha.details, hafter⟩

theorem respects_changeHost {change : Host → Host}
    (hb : ∀ h past, change (h.withPast past) = (change h).withPast past) :
    Respects (changeHost change) := by
  have hblind : Host.Blind (ε := VerbsError) (.update change) := fun h past =>
    congrArg (Prod.mk _) (hb h past)
  exact fun _ _ ha => ⟨rfl, ha.registry, ha.details, (hblind.alike ha.host).2⟩

theorem respects_resolve (handle : Handle) (kind : ResourceKind) :
    Respects (resolve handle kind) :=
  respects_read fun ha => by rw [ha.registry]

theorem respects_resolveOptional (handle : Handle) (kind : ResourceKind) :
    Respects (resolveOptional handle kind) := by
  unfold resolveOptional
  split
  · exact respects_pure none
  · exact (respects_resolve handle kind).map some

theorem respects_detailsOf (handle : Handle) (kind : ResourceKind)
    (select : Details → Option α) : Respects (detailsOf handle kind select) :=
  (respects_resolve handle kind).bind fun _ => respects_read fun ha => by rw [ha.details]

theorem respects_issue (kind : ResourceKind) (id : NativeId) (parents : List Handle) :
    Respects (issue kind id parents) := by
  intro v w ha
  unfold issue
  split
  · exact ⟨rfl, ha⟩
  · rw [ha.registry]
    exact ⟨rfl, rfl, ha.details, ha.host.fabric, ha.host.memory, ha.host.descriptorsLeft⟩

theorem respects_recordDetails (handle : Handle) (details : Details) :
    Respects (recordDetails handle details) :=
  fun _ _ ha => ⟨rfl, ha.registry, congrArg (·.insert handle details) ha.details, ha.host⟩

theorem respects_native {work : Native α} (hb : Host.Blind work) : Respects (native work) :=
  respects_onHost _ hb

theorem respects_resolve_native {handle : Handle} {kind : ResourceKind}
    {work : NativeId → Native α} (hb : ∀ id, Host.Blind (work id)) :
    Respects (resolve handle kind >>= fun id => native (work id)) :=
  (respects_resolve handle kind).bind fun id => respects_native (hb id)

theorem respects_resolve_posting {handle : Handle} {kind : ResourceKind} {work : NativeId → Posting}
    (hb : ∀ id, Host.Blind (work id)) :
    Respects (resolve handle kind >>= fun id => posting (work id)) :=
  (respects_resolve handle kind).bind fun id => respects_onHost _ (hb id)

/-! ## Verbs that create -/

theorem respects_openDevice (index : Nat) : Respects (openDevice .soft index) := by
  refine (respects_onHost .enumeration fun _ _ => rfl).bind fun devices => ?_
  cases devices[index]? with
  | none => exact respects_throw _
  | some device =>
      exact (respects_native (Host.openDevice_blind device)).bind fun id =>
        respects_issue .context id []

theorem respects_allocPd (ctx : Handle) : Respects (allocPd .soft ctx) :=
  (respects_resolve ctx .context).bind fun id =>
    (respects_native (Host.allocPd_blind id)).bind fun _ => respects_issue _ _ _

theorem respects_regMr (pd : Handle) (addr length : UInt64) (permission : Permission) :
    Respects (regMr .soft pd addr length permission) := by
  refine .refuse (.refuse ?_)
  exact (respects_resolve pd .protectionDomain).bind fun id =>
    (respects_native (Host.regMr_blind id addr length permission)).bind fun _ =>
      (respects_issue _ _ _).bind fun _ =>
        (respects_recordDetails _ _).bind fun _ => respects_pure _

theorem respects_createChannel (ctx : Handle) : Respects (createChannel .soft ctx) :=
  (respects_resolve ctx .context).bind fun id =>
    (respects_native (Host.createChannel_blind id)).bind fun _ => respects_issue _ _ _

theorem respects_createCq (ctx : Handle) (depth : UInt32) (channel : Handle) (cookie : UInt64)
    (vector : Int32) : Respects (createCq .soft ctx depth channel cookie vector) := by
  refine .refuse ?_
  exact (respects_resolve ctx .context).bind fun id =>
    (respects_resolveOptional channel .completionChannel).bind fun channelId =>
      (respects_native (Host.createCq_blind id depth channelId cookie vector)).bind fun _ =>
        (respects_issue _ _ _).bind fun _ =>
          (respects_recordDetails _ _).bind fun _ => respects_pure _

theorem respects_createSrq (pd : Handle) (init : SrqInit) : Respects (createSrq .soft pd init) :=
  (respects_resolve pd .protectionDomain).bind fun id =>
    (respects_native (Host.createSrq_blind id init)).bind fun _ => respects_issue _ _ _

theorem respects_createQp (pd : Handle) (init : QpInit) : Respects (createQp .soft pd init) := by
  unfold createQp
  cases Transport.ofCode? init.transport with
  | none => exact respects_throw _
  | some transport =>
      exact (respects_resolve pd .protectionDomain).bind fun id =>
        (respects_resolve init.sendCq .completionQueue).bind fun _ =>
          (respects_resolve init.recvCq .completionQueue).bind fun _ =>
            (respects_resolveOptional init.srq .sharedReceiveQueue).bind fun _ =>
              (respects_native (Host.createQp_blind id _)).bind fun _ =>
                (respects_issue _ _ _).bind fun _ =>
                  (respects_recordDetails _ _).bind fun _ => respects_pure _

/-! ## Verbs that work -/

theorem respects_deviceCount : Respects (.always (deviceCount .soft)) := fun _ _ ha =>
  ⟨by simp [Step.always, deviceCount, Provider.soft, Host.deviceList, Step.read, ha.host.fabric], ha⟩

theorem respects_deviceNames : Respects (.always (deviceNames .soft)) := fun _ _ ha =>
  ⟨by simp [Step.always, deviceNames, Provider.soft, Host.deviceList, Step.read, ha.host.fabric], ha⟩

theorem respects_deviceName (ctx : Handle) :
    Respects (.read fun v => .ok (deviceName .soft ctx v)) :=
  respects_read fun ha => by
    simp [deviceName, Provider.soft, Host.deviceName, ha.registry, ha.host.fabric]

theorem respects_unplug (name : String) : Respects (perform (.unplug name)) := fun _ _ ha =>
  ⟨by simp [perform, Step.always, Host.unplug, ha.host.fabric], ha.registry, ha.details,
    congrArg (·.unplug name) ha.host.fabric, ha.host.memory, ha.host.descriptorsLeft⟩

theorem respects_queryPort (ctx : Handle) (port : UInt8) : Respects (queryPort .soft ctx port) :=
  respects_resolve_native fun _ _ _ => rfl

theorem respects_queryGid (ctx : Handle) (port index : UInt8) :
    Respects (queryGid .soft ctx port index) :=
  respects_resolve_native fun _ _ _ => rfl

theorem respects_channelDescriptor (channel : Handle) :
    Respects (channelDescriptor .soft channel) :=
  respects_resolve_native fun _ _ _ => rfl

theorem respects_setChannelDescriptor (channel : Handle) (descriptor : Descriptor) :
    Respects (setChannelDescriptor channel descriptor) :=
  (respects_resolve channel .completionChannel).bind fun _ =>
    respects_changeHost fun _ _ => rfl

theorem respects_getCqEvent (channel : Handle) : Respects (getCqEvent .soft channel) :=
  (respects_resolve channel .completionChannel).bind fun id =>
    (respects_native (Host.getCqEvent_blind id)).bind fun _ =>
      respects_read fun ha => by rw [ha.registry]

theorem respects_qpDetails (qp : Handle) : Respects (qpDetails qp) := respects_detailsOf qp _ _

theorem respects_modifyQp (qp : Handle) (attributes : QpAttributes) (mask : QpMask) :
    Respects (modifyQp .soft qp attributes mask) :=
  respects_resolve_native fun id => Host.modifyQp_blind id attributes mask

theorem respects_endpoint (qp : Handle) (port : UInt8) : Respects (endpoint .soft qp port) :=
  ((respects_qpDetails qp).map _).bind fun _ =>
    (respects_read fun ha => by rw [ha.registry]).bind fun ctx =>
      (respects_queryPort ctx port).bind fun _ =>
        (respects_queryGid ctx port 0).bind fun _ => respects_pure _

theorem respects_connectQp (qp : Handle) (here remote : Endpoint) (access : Permission) :
    Respects (connectQp .soft qp here remote access) :=
  ((respects_qpDetails qp).map _).bind fun _ => (respects_modifyQp qp _ _).bind fun _ =>
    (respects_modifyQp qp _ _).bind fun _ => respects_modifyQp qp _ _

/-! ## All operations -/

theorem Respects.agree {x : Verb α} (hx : Respects x) (ha : v.Alike w) : Agree (x v) (x w) where
  answer := congrArg _ (hx v w ha).1
  alike := (hx v w ha).2

/-- Whoever refuses, the same is refused. -/
theorem destroy_agree (hv : v.Mirror) (hw : w.Mirror) (hfew : v.registry.nextSequence ≤ 2 ^ 56)
    (ha : v.Alike w) {kind : ResourceKind} {work : NativeId → Native Unit}
    (hwork : ∀ (h : Host) id, h.Destroyed kind id (work id h))
    (hblind : ∀ id, Host.Blind (work id)) (handle : Handle) :
    Agree (destroy handle kind work v) (destroy handle kind work w) := by
  have hd := destroy_destroyed hv hfew hwork handle
  have hd' := destroy_destroyed hw (ha.registry ▸ hfew) hwork handle
  -- what decides, the registry and the fabric, is the same on both sides
  generalize destroy handle kind work v = r, destroy handle kind work w = s at hd hd'
  cases hd with
  | unknown hnone =>
      rw [ha.registry] at hnone
      cases hd' with
      | unknown _ => exact ⟨rfl, ha⟩
      | busy _ hr _ _ | gone hr _ _ => simp [hnone] at hr
  | busy event hr hused he =>
      rw [ha.registry] at hr
      rw [ha.host.fabric] at hused
      cases hd' with
      | unknown hnone => simp [hnone] at hr
      | busy event' _ _ he' =>
          exact ⟨congrArg Except.error (he.trans he'.symm), ha.note event event'⟩
      | gone hr' hfree _ =>
          obtain rfl := Option.some.inj (hr.symm.trans hr')
          exact absurd hused hfree
  | @gone id _ hr hfree hdone =>
      -- the provider works on hosts that differ in the journal only
      have hafter := ((hblind id).alike ha.host).2
      rw [ha.registry] at hr
      rw [ha.host.fabric] at hfree
      cases hd' with
      | unknown hnone => simp [hnone] at hr
      | busy _ hr' hused _ =>
          obtain rfl := Option.some.inj (hr.symm.trans hr')
          exact absurd hused hfree
      | gone hr' _ hdone' =>
          obtain rfl := Option.some.inj (hr.symm.trans hr')
          rw [hdone, hdone'] at hafter
          refine ⟨rfl, ?_, ?_, hafter.fabric, hafter.memory, hafter.descriptorsLeft⟩
          · exact congrArg (fun r => (r.remove handle).2) ha.registry
          · exact congrArg (·.erase handle) ha.details

/-- Handle layers that are alike answer every operation alike. -/
theorem perform_agree (hv : v.Mirror) (hw : w.Mirror) (hfew : v.registry.nextSequence ≤ 2 ^ 56)
    (ha : v.Alike w) (op : Operation α) : Agree (perform op v) (perform op w) := by
  have hdestroy {kind : ResourceKind} {work : NativeId → Native Unit}
      (hwork : ∀ (h : Host) id, h.Destroyed kind id (work id h))
      (hblind : ∀ id, Host.Blind (work id)) (handle : Handle) :
      Agree (destroy handle kind work v) (destroy handle kind work w) :=
    destroy_agree hv hw hfew ha hwork hblind handle
  have hrespects {β : Type} {x : Verb β} (hx : Respects x) : Agree (x v) (x w) := hx.agree ha
  cases op with
  | deviceCount => exact hrespects respects_deviceCount
  | deviceNames => exact hrespects respects_deviceNames
  | openDevice index => exact hrespects (respects_openDevice index)
  | closeDevice ctx => exact hdestroy Host.closeDevice_destroyed Host.closeDevice_blind ctx
  | deviceName ctx => exact hrespects (respects_deviceName ctx)
  | queryDevice ctx => exact hrespects (respects_resolve_native fun _ _ _ => rfl)
  | queryPort ctx port => exact hrespects (respects_queryPort ctx port)
  | queryGid ctx port index => exact hrespects (respects_queryGid ctx port index)
  | allocPd ctx => exact hrespects (respects_allocPd ctx)
  | deallocPd pd => exact hdestroy Host.deallocPd_destroyed Host.deallocPd_blind pd
  | regMr pd addr length permission => exact hrespects (respects_regMr pd addr length permission)
  | queryMr mr => exact hrespects (respects_detailsOf mr _ _)
  | deregMr mr => exact hdestroy Host.deregMr_destroyed Host.deregMr_blind mr
  | createChannel ctx => exact hrespects (respects_createChannel ctx)
  | destroyChannel channel =>
      exact hdestroy Host.destroyChannel_destroyed Host.destroyChannel_blind channel
  | channelDescriptor channel => exact hrespects (respects_channelDescriptor channel)
  | setChannelDescriptor channel descriptor =>
      exact hrespects (respects_setChannelDescriptor channel descriptor)
  | addChannelFlags channel mode =>
      exact hrespects ((respects_channelDescriptor channel).bind fun descriptor =>
        respects_setChannelDescriptor channel (descriptor.addFlags mode))
  | createCq ctx depth channel cookie vector =>
      exact hrespects (respects_createCq ctx depth channel cookie vector)
  | cqCapacity cq => exact hrespects (respects_detailsOf cq _ _)
  | destroyCq cq => exact hdestroy Host.destroyCq_destroyed Host.destroyCq_blind cq
  | pollCq cq n => exact hrespects (respects_resolve_native fun id => Host.pollCq_blind id n)
  | reqNotifyCq cq solicitedOnly =>
      exact hrespects (respects_resolve_native fun id => Host.reqNotifyCq_blind id solicitedOnly)
  | getCqEvent channel => exact hrespects (respects_getCqEvent channel)
  | ackCqEvents cq n =>
      exact hrespects ((respects_resolve cq .completionQueue).bind fun _ =>
        respects_changeHost fun _ _ => rfl)
  | createSrq pd init => exact hrespects (respects_createSrq pd init)
  | destroySrq srq => exact hdestroy Host.destroySrq_destroyed Host.destroySrq_blind srq
  | postSrqRecv srq requests =>
      exact hrespects (respects_resolve_posting fun id => Host.postSrqRecv_blind id requests)
  | createQp pd init => exact hrespects (respects_createQp pd init)
  | modifyQp qp attributes mask => exact hrespects (respects_modifyQp qp attributes mask)
  | qpNumber qp => exact hrespects ((respects_qpDetails qp).map _)
  | qpTransport qp => exact hrespects ((respects_qpDetails qp).map _)
  | qpState qp => exact hrespects (respects_resolve_native fun _ _ _ => rfl)
  | endpoint qp port => exact hrespects (respects_endpoint qp port)
  | connectQp qp here remote access => exact hrespects (respects_connectQp qp here remote access)
  | destroyQp qp => exact hdestroy Host.destroyQp_destroyed Host.destroyQp_blind qp
  | postSend qp requests =>
      exact hrespects (respects_resolve_posting fun id => Host.postSend_blind id requests)
  | postRecv qp requests =>
      exact hrespects (respects_resolve_posting fun id => Host.postRecv_blind id requests)
  | plug device => exact hrespects (respects_changeHost fun _ _ => rfl)
  | unplug name => exact hrespects (respects_unplug name)
  | setMemory memory => exact hrespects (respects_changeHost fun _ _ => rfl)
  | setDescriptorsLeft left => exact hrespects (respects_changeHost fun _ _ => rfl)

/-- Handle layers that are alike stay so. -/
theorem performAll_alike (hv : v.Mirror) (hw : w.Mirror) (hh : v.host.Sound) (hh' : w.host.Sound)
    (ha : v.Alike w) (ops : List AnyOperation)
    (hfew : (v.performAll ops).registry.nextSequence ≤ 2 ^ 56) :
    (v.performAll ops).Alike (w.performAll ops) := by
  induction ops generalizing v w with
  | nil => exact ha
  | cons op rest ih =>
      have he := perform_effect hh op.2
      have he' := perform_effect hh' op.2
      have hle := Nat.le_trans (performAll_sound (he.sound hh) rest).2 hfew
      have hstep := (perform_agree hv hw (Nat.le_trans he.nextSequence_le hle) ha op.2).alike
      have hle' := hstep.registry ▸ hle
      exact ih (he.mirror hv hh hle) (he'.mirror hw hh' hle') (he.sound hh) (he'.sound hh') hstep
        hfew

/-! ## Destroying live handles -/

/-- No live handle has the handle on record as a parent, and if it names a completion queue then all
fetched events of that are acknowledged. -/
def Destroyable (v : Verbs) (handle : Handle) : Prop :=
  (∀ child entry, v.registry.entries.find? child = some entry → handle ∉ entry.parents) ∧
    ∀ id q, v.registry.resolve handle .completionQueue = some id →
      v.host.fabric.cqs.find? id = some q → q.unacknowledged = 0

/-- The operation that destroys a handle of a kind. -/
def destroyOf : ResourceKind → Handle → Operation Unit
  | .context, handle => .closeDevice handle
  | .protectionDomain, handle => .deallocPd handle
  | .memoryRegion, handle => .deregMr handle
  | .completionChannel, handle => .destroyChannel handle
  | .completionQueue, handle => .destroyCq handle
  | .sharedReceiveQueue, handle => .destroySrq handle
  | .queuePair, handle => .destroyQp handle

/-- Destroying a live handle succeeds if it is destroyable. Otherwise it is refused as busy, and
nothing but the journal changes. -/
def DestroysUnused (v : Verbs) : Prop :=
  ∀ handle kind id, v.registry.resolve handle kind = some id →
    (v.Destroyable handle → ∃ w, perform (destroyOf kind handle) v = (.ok (), w)) ∧
      (¬ v.Destroyable handle → ∃ e event,
        perform (destroyOf kind handle) v = (.error e, v.note event) ∧ e.status = Errno.busy)

/-- What can be destroyed shows in the registry, but for events that are not acknowledged. -/
theorem Mirror.destroyable_iff (hm : v.Mirror) {handle : Handle} {kind : ResourceKind}
    {id : NativeId} (hr : v.registry.resolve handle kind = some id) :
    v.Destroyable handle ↔ ¬ v.host.fabric.InUse kind id := by
  have hunreferenced : ¬ v.host.fabric.Referenced kind id ↔
      ∀ child entry, v.registry.entries.find? child = some entry → handle ∉ entry.parents := by
    rw [hm.referenced_iff hr]
    simp
  -- this part of the check is on the fabric under either policy
  have hacknowledged : ¬ v.host.fabric.AwaitsAck kind id ↔
      ∀ id q, v.registry.resolve handle .completionQueue = some id →
        v.host.fabric.cqs.find? id = some q → q.unacknowledged = 0 := by
    constructor
    · intro hnone id' q hr' hq
      obtain ⟨rfl, rfl⟩ := Registry.resolve_inj hr hr'
      exact Decidable.byContradiction fun hne =>
        hnone ⟨rfl, q, hq, UInt32.pos_iff_ne_zero.2 hne⟩
    · rintro hall ⟨rfl, q, hq, hpos⟩
      simp [hall id q hr hq] at hpos
  rw [Fabric.InUse, not_or, hunreferenced, hacknowledged, Destroyable]

/-- Whatever its kind, a handle is destroyed in one way. -/
theorem perform_destroyOf (kind : ResourceKind) (handle : Handle) :
    ∃ work : NativeId → Native Unit, (∀ (h : Host) id, h.Destroyed kind id (work id h)) ∧
      perform (destroyOf kind handle) = destroy handle kind work := by
  cases kind with
  | context => exact ⟨_, Host.closeDevice_destroyed, rfl⟩
  | protectionDomain => exact ⟨_, Host.deallocPd_destroyed, rfl⟩
  | memoryRegion => exact ⟨_, Host.deregMr_destroyed, rfl⟩
  | completionChannel => exact ⟨_, Host.destroyChannel_destroyed, rfl⟩
  | completionQueue => exact ⟨_, Host.destroyCq_destroyed, rfl⟩
  | sharedReceiveQueue => exact ⟨_, Host.destroySrq_destroyed, rfl⟩
  | queuePair => exact ⟨_, Host.destroyQp_destroyed, rfl⟩

theorem Mirror.destroysUnused (hm : v.Mirror) (hfew : v.registry.nextSequence ≤ 2 ^ 56) :
    v.DestroysUnused := by
  intro handle kind id hr
  obtain ⟨work, hwork, hperform⟩ := perform_destroyOf kind handle
  have hd := destroy_destroyed hm hfew hwork handle
  rw [← hperform] at hd
  rw [hm.destroyable_iff hr, Classical.not_not]
  generalize perform (destroyOf kind handle) v = result at hd
  cases hd with
  | unknown hnone => simp [hr] at hnone
  | busy event hr' hused he =>
      obtain rfl := Option.some.inj (hr.symm.trans hr')
      exact ⟨fun hfree => absurd hused hfree, fun _ => ⟨_, event, rfl, he⟩⟩
  | gone hr' hfree _ =>
      obtain rfl := Option.some.inj (hr.symm.trans hr')
      exact ⟨fun _ => ⟨_, rfl⟩, fun hused => absurd hused hfree⟩

/-! ## Fresh handle layers -/

theorem fresh_alike (policy policy' : DependencyPolicy) (memory : Memory)
    (devices : List DeviceConfig) :
    (fresh policy memory devices).Alike (fresh policy' memory devices) :=
  ⟨rfl, rfl, rfl, rfl, rfl⟩

/-- It makes no difference whether the registry or the provider decides what may be destroyed: after
any operations the next one comes to the same, and either refuses exactly what is in use. -/
theorem policies_agree (memory : Memory) (devices : List DeviceConfig) (ops : List AnyOperation)
    (hissued : ((fresh .registry memory devices).performAll ops).issued < 2 ^ 56) :
    let v := (fresh .registry memory devices).performAll ops
    let w := (fresh .driver memory devices).performAll ops
    v.Alike w ∧ (∀ op : AnyOperation, Agree (perform op.2 v) (perform op.2 w)) ∧
      v.DestroysUnused ∧ w.DestroysUnused := by
  have hfew : ((fresh .registry memory devices).performAll ops).registry.nextSequence ≤ 2 ^ 56 :=
    nextSequence_le_of_issued hissued
  have ha := performAll_alike (fresh_mirror .registry memory devices)
    (fresh_mirror .driver memory devices) (fresh_sound .registry memory devices)
    (fresh_sound .driver memory devices) (fresh_alike _ _ memory devices) ops hfew
  have hfew' := ha.registry ▸ hfew
  have hv := reachable_mirror .registry memory devices ops hissued
  have hw := reachable_mirror .driver memory devices ops (by rwa [issued, ← ha.registry])
  exact ⟨ha, fun op => perform_agree hv hw hfew ha op.2, hv.destroysUnused hfew,
    hw.destroysUnused hfew'⟩

theorem oneOfEach_agree :
    let v := (fresh .registry {} [{}]).performAll oneOfEach
    let w := (fresh .driver {} [{}]).performAll oneOfEach
    v.issued = 7 ∧ v.Alike w :=
  ⟨by decide, (policies_agree {} [{}] oneOfEach (by decide)).1⟩

end Rdma.Verbs
