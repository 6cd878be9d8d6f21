import Mathlib.Data.List.Forall2
import Rdma.Proofs.Host.Reachable
import Rdma.Proofs.Registry
import Rdma.Verbs.Operation

/-!
# What verbs do to handles and objects

An operation on the handle layer only works with what is there, or it creates one object and issues a
handle for it, or it destroys one object and revokes its handle (`Effect`). What fails half way has
not touched anything: a handle is issued only for an object just created, and revoked only with its
object.

* `perform_effect` — so does every operation.
-/

namespace Rdma

open Fabric (Object)

/-- The facts that are written down of an object. -/
def Fabric.Object.details? : Object → Option Details
  | .region r => some (.region r.info)
  | .cq q => some (.cq q.capacity)
  | .qp q => some (.qp q.number q.transport)
  | _ => none

namespace Verbs

variable {v w : Verbs} {α β : Type}

/-- No handle was issued or revoked, and no object came or went. -/
structure Works (v w : Verbs) : Prop where
  registry : w.registry = v.registry
  details : w.details = v.details
  policy : w.policy = v.policy
  host : v.host.Works w.host

/-- The handle layer once a handle was issued for an object of the host. -/
def bestowed (v : Verbs) (o : Object) (id : NativeId) (parents : List Handle) : Verbs :=
  let handle := Handle.compose o.kind v.registry.nextSequence
  { v with
    host := v.host.note (.created handle id)
    registry := (v.registry.insert o.kind id parents).2
    details :=
      match o.details? with
      | some details => v.details.insert handle details
      | none => v.details }

/-- The handles name the objects, in order. -/
def Names (r : Registry) (handles : List Handle) (objects : List (ResourceKind × NativeId)) : Prop :=
  List.Forall₂ (fun handle object => r.resolve handle object.1 = some object.2) handles objects

/-- What an operation does to handles and objects. -/
inductive Effect (v : Verbs) : Verbs → Prop
  | works {w : Verbs} : v.Works w → Effect v w
  /-- The parents of the new handle name what the new object refers to. -/
  | issued {host : Host} {o : Object} {parents : List Handle} :
      v.host.fabric.Adds host.fabric o → (v.host.Sound → host.Sound) →
      Names v.registry (parents.filter (!·.isNull)) o.references →
      Effect v (bestowed { v with host } o v.host.fabric.nextId parents)
  /-- The handle named the object, and nothing referred to that. -/
  | revoked {host : Host} {handle : Handle} {o : Object} {id : NativeId} :
      v.registry.resolve handle o.kind = some id → v.host.fabric.Removes host.fabric o id →
      ¬ v.host.fabric.Referenced o.kind id → (v.host.Sound → host.Sound) →
      Effect v (revoke handle { v with host })

/-- How a verb that creates ends: it has refused and done nothing, or created an object and issued a
handle for it. -/
inductive Bestows (v : Verbs) : Except VerbsError Handle × Verbs → Prop
  | refused (e : VerbsError) : Bestows v (.error e, v)
  | made {host : Host} {o : Object} {parents : List Handle} :
      v.host.fabric.Adds host.fabric o → (v.host.Sound → host.Sound) →
      Names v.registry (parents.filter (!·.isNull)) o.references →
      Bestows v (.ok (.compose o.kind v.registry.nextSequence),
        bestowed { v with host } o v.host.fabric.nextId parents)

/-! ## Verbs that only work -/

theorem Works.refl (v : Verbs) : v.Works v := ⟨rfl, rfl, rfl, .refl v.host⟩

theorem Works.trans {u : Verbs} (hu : v.Works u) (hw : u.Works w) : v.Works w where
  registry := hw.registry.trans hu.registry
  details := hw.details.trans hu.details
  policy := hw.policy.trans hu.policy
  host := hu.host.trans hw.host

/-- Whatever it answers, the verb only works. -/
def Working (x : Verb α) : Prop := ∀ v : Verbs, v.Works (x v).2

theorem working_pure (a : α) : Working (pure a) := fun v => .refl v

theorem working_read (f : Verbs → Except VerbsError α) : Working (.read f) := fun v => .refl v

theorem Working.bind {x : Verb α} {f : α → Verb β} (hx : Working x) (hf : ∀ a, Working (f a)) :
    Working (x >>= f) :=
  Step.bind_relates (R := Works) Works.trans hx hf

theorem Working.map {x : Verb α} (hx : Working x) (f : α → β) : Working (f <$> x) :=
  hx.bind fun a => working_pure (f a)

theorem working_onHost {ε : Type} (reason : ε → VerbsError) {work : Step Host ε α}
    (hwork : ∀ h : Host, h.Works (work h).2) : Working (onHost reason work) := by
  intro v
  have hh := hwork v.host
  unfold onHost
  split
  case h_1 heq => rw [heq] at hh; exact ⟨rfl, rfl, rfl, hh⟩
  case h_2 heq => rw [heq] at hh; exact ⟨rfl, rfl, rfl, hh⟩

theorem working_changeHost {change : Host → Host} (hchange : ∀ h : Host, h.Works (change h)) :
    Working (changeHost change) := fun v => ⟨rfl, rfl, rfl, hchange v.host⟩

theorem working_detailsOf (handle : Handle) (kind : ResourceKind) (select : Details → Option α) :
    Working (detailsOf handle kind select) :=
  (working_read _).bind fun _ => working_read _

theorem note_works (v : Verbs) {e : Event} (he : e.Orderly) : v.Works (v.note e) :=
  ⟨rfl, rfl, rfl, rfl, fun hh => hh.note he⟩

/-! ## Parts of verbs -/

section Resolving

variable {P : Except VerbsError α × Verbs → Prop} {handle : Handle} {kind : ResourceKind}

theorem resolve_cases {f : NativeId → Verb α} (hnone : ∀ e, P (.error e, v))
    (hf : ∀ id, v.registry.resolve handle kind = some id → P (f id v)) :
    P ((resolve handle kind >>= f) v) := by
  rw [Step.bind_apply, resolve, Step.read]
  cases hr : v.registry.resolve handle kind with
  | none => exact hnone _
  | some id => exact hf id hr

/-- A handle that names something is not the null handle. -/
theorem not_isNull_of_resolve {r : Registry} {handle : Handle} {kind : ResourceKind}
    {id : NativeId} (hr : r.resolve handle kind = some id) : handle.isNull = false := by
  refine Bool.eq_false_iff.2 fun hnull => ?_
  obtain rfl : handle = .null := congrArg Handle.mk (of_decide_eq_true hnull)
  have hkind : Handle.null.kind? ≠ some kind := by cases kind <;> decide
  simp [Registry.resolve, hkind] at hr

theorem names_cons {r : Registry} {handle : Handle} {kind : ResourceKind} {id : NativeId}
    (hr : r.resolve handle kind = some id) {rest : List Handle}
    {objects : List (ResourceKind × NativeId)} (hrest : Names r (rest.filter (!·.isNull)) objects) :
    Names r ((handle :: rest).filter (!·.isNull)) ((kind, id) :: objects) := by
  simp only [List.filter_cons, not_isNull_of_resolve hr]
  exact .cons hr hrest

theorem names_nil (r : Registry) : Names r (([] : List Handle).filter (!·.isNull)) [] := .nil

theorem resolveOptional_cases {f : Option NativeId → Verb α} (hnone : ∀ e, P (.error e, v))
    (hf : ∀ found : Option NativeId, Names v.registry ([handle].filter (!·.isNull))
      (found.map fun id => (kind, id)).toList → P (f found v)) :
    P ((resolveOptional handle kind >>= f) v) := by
  unfold resolveOptional
  split
  case isTrue hnull => exact hf none (by simp [hnull, Names])
  case isFalse =>
    -- mapping a result before it is passed on is passing on the mapped result
    have hassoc : (some <$> resolve handle kind >>= f) v =
        (resolve handle kind >>= fun id => f (some id)) v := by
      simp only [Step.bind_apply, Step.map_apply, resolve, Step.read]
      cases v.registry.resolve handle kind <;> rfl
    rw [hassoc]
    exact resolve_cases hnone fun id hr => hf (some id) (names_cons hr (names_nil _))

end Resolving

theorem issue_eq {id : NativeId} (hid : 0 < id) (kind : ResourceKind) (parents : List Handle)
    (w : Verbs) :
    issue kind id parents w = (.ok (Handle.compose kind w.registry.nextSequence),
      { w with
        host := w.host.note (.created (Handle.compose kind w.registry.nextSequence) id)
        registry := (w.registry.insert kind id parents).2 }) := by
  have hnull : ¬ id = NativeId.null := Nat.ne_of_gt hid
  unfold issue
  rw [if_neg hnull]
  rfl

theorem Bestows.effect {result : Except VerbsError Handle × Verbs} (hb : v.Bestows result) :
    v.Effect result.2 := by
  cases hb with
  | refused => exact .works (.refl v)
  | made hadds hsound hnames => exact .issued hadds hsound hnames

/-- A verb that creates natively and then issues a handle refuses, or has done both. -/
theorem created_bestows {work : Native α} {describes : α → NativeId → Object → Prop}
    {finish : α → Verb Handle} (parents : List Handle) (hh : v.host.Sound)
    (hc : v.host.Created describes (work v.host))
    (hnames : ∀ a o, describes a v.host.fabric.nextId o →
      Names v.registry (parents.filter (!·.isNull)) o.references)
    (hfinish : ∀ a o (w : Verbs), describes a v.host.fabric.nextId o →
      finish a w = (.ok (.compose o.kind w.registry.nextSequence),
        w.bestowed o v.host.fabric.nextId parents)) :
    v.Bestows ((native work >>= finish) v) := by
  have hsound := hc.sound hh
  rw [Step.bind_apply, native, onHost]
  generalize work v.host = result at hc hsound
  cases hc with
  | refused cause => exact .refused _
  | made o nextKey _ hdescribes hnew hfree hcandidate hsup =>
      simp only [hfinish _ o _ hdescribes]
      exact .made (Fabric.put_adds hnew hfree nextKey hcandidate) (fun _ => hsound)
        (hnames _ o hdescribes)

theorem checkDependents_eq (handle : Handle) (kind : ResourceKind) (v : Verbs) :
    checkDependents handle kind v =
      if v.policy = .registry ∧ v.registry.dependents handle > 0 then
        (.error (.busy kind (v.registry.dependents handle)),
          v.note (.refused handle (v.registry.dependents handle)))
      else (.ok (), v) := by
  simp [checkDependents]

/-- A verb that destroys refuses, or the object and its handle are gone. -/
theorem destroy_effect {kind : ResourceKind} {work : NativeId → Native Unit}
    (hwork : ∀ (h : Host) id, h.Destroyed kind id (work id h)) (handle : Handle) (v : Verbs) :
    v.Effect (destroy handle kind work v).2 := by
  refine resolve_cases (P := fun r => v.Effect r.2) (fun _ => .works (.refl v)) fun id hr => ?_
  simp only [Step.bind_apply, checkDependents_eq]
  by_cases hrefused : v.policy = .registry ∧ v.registry.dependents handle > 0
  · simp only [hrefused, and_self, if_true]
    exact .works (v.note_works trivial)
  · simp only [hrefused, if_false, destroyNative]
    have hd := hwork v.host id
    have hsound := hd.sound
    generalize work id v.host = result at hd hsound
    cases hd with
    | absent => exact .works (.refl v)
    | inUse => exact .works (v.note_works trivial)
    | removed ho hfree hdismissed =>
        obtain rfl := Fabric.object?_kind ho
        exact .revoked hr (hdismissed.removes ho) (fun href => hfree (.inl href)) hsound

/-! ## Verbs that work -/

theorem working_resolve_native {handle : Handle} {kind : ResourceKind} {work : NativeId → Native α}
    (hwork : ∀ (h : Host) id, h.Works (work id h).2) :
    Working (resolve handle kind >>= fun id => native (work id)) :=
  (working_read _).bind fun id => working_onHost _ fun h => hwork h id

theorem working_resolve_posting {handle : Handle} {kind : ResourceKind} {work : NativeId → Posting}
    (hwork : ∀ (h : Host) id, h.Works (work id h).2) :
    Working (resolve handle kind >>= fun id => posting (work id)) :=
  (working_read _).bind fun id => working_onHost _ fun h => hwork h id

theorem working_queryPort (ctx : Handle) (port : UInt8) : Working (queryPort .soft ctx port) :=
  working_resolve_native fun h _ => .refl h

theorem working_queryGid (ctx : Handle) (port index : UInt8) :
    Working (queryGid .soft ctx port index) :=
  working_resolve_native fun h _ => .refl h

theorem working_channelDescriptor (channel : Handle) :
    Working (channelDescriptor .soft channel) :=
  working_resolve_native fun h _ => .refl h

theorem working_setChannelDescriptor (channel : Handle) (descriptor : Descriptor) :
    Working (setChannelDescriptor channel descriptor) :=
  (working_read _).bind fun id => working_changeHost fun h => h.setDescriptor_works id descriptor

theorem working_qpDetails (qp : Handle) : Working (qpDetails qp) :=
  working_detailsOf qp .queuePair _

theorem working_modifyQp (qp : Handle) (attributes : QpAttributes) (mask : QpMask) :
    Working (modifyQp .soft qp attributes mask) :=
  working_resolve_native fun h id => (h.modifyQp_ran id attributes mask).works

theorem working_endpoint (qp : Handle) (port : UInt8) : Working (endpoint .soft qp port) :=
  ((working_qpDetails qp).map _).bind fun _ => (working_read _).bind fun ctx =>
    (working_queryPort ctx port).bind fun _ => (working_queryGid ctx port 0).bind fun _ =>
      working_pure _

theorem working_connectQp (qp : Handle) (here remote : Endpoint) (access : Permission) :
    Working (connectQp .soft qp here remote access) :=
  ((working_qpDetails qp).map _).bind fun _ => (working_modifyQp qp _ _).bind fun _ =>
    (working_modifyQp qp _ _).bind fun _ => working_modifyQp qp _ _

/-! ## Verbs that create -/

theorem openDevice_none {index : Nat} (hnone : v.host.fabric.devices[index]? = none) :
    openDevice .soft index v = (.error (.deviceIndex index v.host.fabric.devices.length), v) := by
  have hlisted : (v.host.fabric.devices.map (·.listed))[index]? = none := by
    rw [List.getElem?_map, hnone, Option.map_none]
  simp only [openDevice, Step.bind_apply, onHost, Provider.soft, Host.deviceList, Step.read, hlisted,
    List.length_map]
  rfl

theorem openDevice_some {index : Nat} {device : Fabric.Device}
    (hsome : v.host.fabric.devices[index]? = some device) :
    openDevice .soft index v =
      (native (Host.openDevice device.listed) >>= fun id => issue .context id []) v := by
  have hlisted : (v.host.fabric.devices.map (·.listed))[index]? = some device.listed := by
    rw [List.getElem?_map, hsome, Option.map_some]
  simp only [openDevice, Step.bind_apply, onHost, Provider.soft, Host.deviceList, Step.read, hlisted]

variable (hh : v.host.Sound)

include hh

theorem openDevice_bestows (index : Nat) : v.Bestows (openDevice .soft index v) := by
  have hid := hh.fabric.started
  cases hlisted : v.host.fabric.devices[index]? with
  | none =>
      rw [openDevice_none hlisted]
      exact .refused _
  | some device =>
      rw [openDevice_some hlisted]
      refine created_bestows [] hh (v.host.openDevice_created device.listed)
        (fun id o hdescribes => ?_) fun id o w hdescribes => ?_
      · obtain ⟨-, d, -, rfl⟩ := hdescribes
        exact .nil
      · obtain ⟨rfl, d, -, rfl⟩ := hdescribes
        rw [issue_eq hid]
        rfl

theorem allocPd_bestows (ctx : Handle) : v.Bestows (allocPd .soft ctx v) := by
  have hid := hh.fabric.started
  refine resolve_cases .refused fun ctxId hctx => ?_
  refine created_bestows [ctx] hh (v.host.allocPd_created ctxId) (fun id o hdescribes => ?_)
    fun id o w hdescribes => ?_
  · obtain ⟨-, rfl⟩ := hdescribes
    exact names_cons hctx (names_nil _)
  · obtain ⟨rfl, rfl⟩ := hdescribes
    rw [issue_eq hid]
    rfl

theorem regMr_bestows (pd : Handle) (addr length : UInt64) (permission : Permission) :
    v.Bestows (regMr .soft pd addr length permission v) := by
  have hid := hh.fabric.started
  unfold regMr
  split
  · exact .refused _
  split
  · exact .refused _
  refine resolve_cases .refused fun pdId hpd => ?_
  refine created_bestows [pd] hh (v.host.regMr_created pdId addr length permission)
    (fun grant o hdescribes => ?_) fun grant o w hdescribes => ?_
  · obtain ⟨-, r, rfl, rfl, -⟩ := hdescribes
    exact names_cons hpd (names_nil _)
  · obtain ⟨hnative, r, rfl, -, hinfo, -⟩ := hdescribes
    rw [Step.bind_apply, hnative, issue_eq hid, ← hinfo]
    rfl

theorem createChannel_bestows (ctx : Handle) : v.Bestows (createChannel .soft ctx v) := by
  have hid := hh.fabric.started
  refine resolve_cases .refused fun ctxId hctx => ?_
  refine created_bestows [ctx] hh (v.host.createChannel_created ctxId) (fun id o hdescribes => ?_)
    fun id o w hdescribes => ?_
  · obtain ⟨-, rfl⟩ := hdescribes
    exact names_cons hctx (names_nil _)
  · obtain ⟨rfl, rfl⟩ := hdescribes
    rw [issue_eq hid]
    rfl

theorem createCq_bestows (ctx : Handle) (depth : UInt32) (channel : Handle) (cookie : UInt64)
    (vector : Int32) : v.Bestows (createCq .soft ctx depth channel cookie vector v) := by
  have hid := hh.fabric.started
  unfold createCq
  split
  · exact .refused _
  refine resolve_cases .refused fun ctxId hctx => ?_
  refine resolveOptional_cases .refused fun channelId hchannel => ?_
  refine created_bestows [ctx, channel] hh
    (v.host.createCq_created ctxId depth channelId cookie vector)
    (fun grant o hdescribes => ?_) fun grant o w hdescribes => ?_
  · obtain ⟨-, rfl⟩ := hdescribes
    exact names_cons hctx hchannel
  · obtain ⟨hnative, rfl⟩ := hdescribes
    rw [Step.bind_apply, hnative, issue_eq hid]
    rfl

theorem createSrq_bestows (pd : Handle) (init : SrqInit) :
    v.Bestows (createSrq .soft pd init v) := by
  have hid := hh.fabric.started
  refine resolve_cases .refused fun pdId hpd => ?_
  refine created_bestows [pd] hh (v.host.createSrq_created pdId init) (fun id o hdescribes => ?_)
    fun id o w hdescribes => ?_
  · obtain ⟨-, rfl⟩ := hdescribes
    exact names_cons hpd (names_nil _)
  · obtain ⟨rfl, rfl⟩ := hdescribes
    rw [issue_eq hid]
    rfl

/-- The handle of a queue pair has those of its domain and of its queues for parents. -/
theorem createQp_bestows (pd : Handle) (init : QpInit) : v.Bestows (createQp .soft pd init v) := by
  have hid := hh.fabric.started
  unfold createQp
  cases Transport.ofCode? init.transport with
  | none => exact .refused _
  | some transport =>
      refine resolve_cases .refused fun pdId hpd => ?_
      refine resolve_cases .refused fun sendCq hsend => ?_
      refine resolve_cases .refused fun recvCq hrecv => ?_
      refine resolveOptional_cases .refused fun srq hsrq => ?_
      refine created_bestows [pd, init.sendCq, init.recvCq, init.srq] hh
        (v.host.createQp_created pdId
          { sendCq, recvCq, srq, transport, signalAll := init.signalAll, caps := init.caps })
        (fun grant o hdescribes => ?_) fun grant o w hdescribes => ?_
      · obtain ⟨-, rfl⟩ := hdescribes
        exact names_cons hpd (names_cons hsend (names_cons hrecv hsrq))
      · obtain ⟨hnative, rfl⟩ := hdescribes
        rw [Step.bind_apply, hnative, issue_eq hid]
        rfl

/-! ## All operations -/

/-- Every operation works, or issues one handle, or revokes one. -/
theorem perform_effect (op : Operation α) : v.Effect (perform op v).2 := by
  have hworking {β : Type} {x : Verb β} (hx : Working x) : v.Effect (x v).2 := .works (hx v)
  cases op with
  | deviceCount => exact .works (.refl v)
  | deviceNames => exact .works (.refl v)
  | openDevice index => exact (openDevice_bestows hh index).effect
  | closeDevice ctx => exact destroy_effect Host.closeDevice_destroyed ctx v
  | deviceName ctx => exact .works (.refl v)
  | queryDevice ctx => exact hworking (working_resolve_native fun h _ => .refl h)
  | queryPort ctx port => exact hworking (working_queryPort ctx port)
  | queryGid ctx port index => exact hworking (working_queryGid ctx port index)
  | allocPd ctx => exact (allocPd_bestows hh ctx).effect
  | deallocPd pd => exact destroy_effect Host.deallocPd_destroyed pd v
  | regMr pd addr length permission => exact (regMr_bestows hh pd addr length permission).effect
  | queryMr mr => exact hworking (working_detailsOf mr .memoryRegion _)
  | deregMr mr => exact destroy_effect Host.deregMr_destroyed mr v
  | createChannel ctx => exact (createChannel_bestows hh ctx).effect
  | destroyChannel channel => exact destroy_effect Host.destroyChannel_destroyed channel v
  | channelDescriptor channel => exact hworking (working_channelDescriptor channel)
  | setChannelDescriptor channel descriptor =>
      exact hworking (working_setChannelDescriptor channel descriptor)
  | addChannelFlags channel mode =>
      exact hworking ((working_channelDescriptor channel).bind fun descriptor =>
        working_setChannelDescriptor channel (descriptor.addFlags mode))
  | createCq ctx depth channel cookie vector =>
      exact (createCq_bestows hh ctx depth channel cookie vector).effect
  | cqCapacity cq => exact hworking (working_detailsOf cq .completionQueue _)
  | destroyCq cq => exact destroy_effect Host.destroyCq_destroyed cq v
  | pollCq cq n => exact hworking (working_resolve_native fun h id => h.pollCq_works id n)
  | reqNotifyCq cq solicitedOnly =>
      exact hworking (working_resolve_native fun h id => h.reqNotifyCq_works id solicitedOnly)
  | getCqEvent channel =>
      exact hworking ((working_read _).bind fun id =>
        (working_onHost _ fun h => h.getCqEvent_works id).bind fun _ => working_read _)
  | ackCqEvents cq n =>
      exact hworking ((working_read _).bind fun id =>
        working_changeHost fun h => h.ackCqEvents_works id n)
  | createSrq pd init => exact (createSrq_bestows hh pd init).effect
  | destroySrq srq => exact destroy_effect Host.destroySrq_destroyed srq v
  | postSrqRecv srq requests =>
      exact hworking (working_resolve_posting fun h id => (h.postSrqRecv_ran id requests).works)
  | createQp pd init => exact (createQp_bestows hh pd init).effect
  | modifyQp qp attributes mask => exact hworking (working_modifyQp qp attributes mask)
  | qpNumber qp => exact hworking ((working_qpDetails qp).map _)
  | qpTransport qp => exact hworking ((working_qpDetails qp).map _)
  | qpState qp => exact hworking (working_resolve_native fun h _ => .refl h)
  | endpoint qp port => exact hworking (working_endpoint qp port)
  | connectQp qp here remote access => exact hworking (working_connectQp qp here remote access)
  | destroyQp qp => exact destroy_effect Host.destroyQp_destroyed qp v
  | postSend qp requests =>
      exact hworking (working_resolve_posting fun h id => (h.postSend_ran id requests).works)
  | postRecv qp requests =>
      exact hworking (working_resolve_posting fun h id => (h.postRecv_ran id requests).works)
  | plug device => exact hworking (working_changeHost fun h => h.plug_works device)
  | unplug name => exact .works ⟨rfl, rfl, rfl, v.host.unplug_works name⟩
  | setMemory memory =>
      exact hworking (working_changeHost fun _ =>
        ⟨rfl, fun hh => hh.of_frame rfl rfl rfl rfl⟩)
  | setDescriptorsLeft left =>
      exact hworking (working_changeHost fun _ =>
        ⟨rfl, fun hh => hh.of_frame rfl rfl rfl rfl⟩)

end Verbs

end Rdma
