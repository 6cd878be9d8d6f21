import Mathlib.Data.Prod.Basic
import Rdma.Proofs.Host.Relocation
import Rdma.Proofs.Verbs.Effect

/-!
# Handle layers under other identities

A handle does not tell which native identity it stands for, so the handle layer answers the very
same under other identities. Only the registry has to be moved along with the host.

* `Registry.insert_moved`, `Registry.remove_moved` — handles that come and go;
* `perform_along` — every operation that does not look at the attached devices.
-/

namespace Rdma

variable (m : Relocation)

/-! ## The registry -/

namespace Registry

def Entry.moved (e : Entry) : Entry := { e with native := m.move e.native }

theorem wayBack_injective : (Prod.map id m.move : ResourceKind × NativeId → _).Injective :=
  Function.injective_id.prodMap m.injective

/-- The entries under other identities. -/
def movedEntries (entries : Table Handle Entry) : Table Handle Entry :=
  entries.rekey id Function.injective_id (·.moved m)

/-- The ways back from other identities. -/
def movedReverse (reverse : Table (ResourceKind × NativeId) Handle) :
    Table (ResourceKind × NativeId) Handle :=
  reverse.rekey (Prod.map id m.move) (wayBack_injective m) id

/-- The registry under other identities. -/
def moved (r : Registry) : Registry where
  entries := movedEntries m r.entries
  reverse := movedReverse m r.reverse
  nextSequence := r.nextSequence

variable (r : Registry)

@[simp] theorem entry?_moved (handle : Handle) :
    (r.moved m).entries.find? handle = (r.entries.find? handle).map (·.moved m) :=
  r.entries.find?_rekey Function.injective_id _ handle

@[simp] theorem resolve_moved (handle : Handle) (kind : ResourceKind) :
    (r.moved m).resolve handle kind = (r.resolve handle kind).map m.move := by
  simp only [resolve, entry?_moved, Option.map_map]
  split
  · rw [Option.map_map]
    rfl
  · rfl

@[simp] theorem lookup_moved (kind : ResourceKind) (id : NativeId) :
    (r.moved m).lookup kind (m.move id) = r.lookup kind id :=
  (r.reverse.find?_rekey (wayBack_injective m) _ (kind, id)).trans (congrFun Option.map_id _)

@[simp] theorem dependents_moved (handle : Handle) :
    (r.moved m).dependents handle = r.dependents handle := by
  simp only [dependents, entry?_moved, Option.map_map]
  rfl

@[simp] theorem parents_moved (handle : Handle) :
    (r.moved m).parents handle = r.parents handle := by
  simp only [parents, entry?_moved, Option.map_map]
  rfl

@[simp] theorem size_moved : (r.moved m).size = r.size :=
  r.entries.size_rekey Function.injective_id _

theorem recount_moved (f : UInt64 → UInt64) (entries : Table Handle Entry) (handles : List Handle) :
    recount f (movedEntries m entries) handles = movedEntries m (recount f entries handles) :=
  List.foldl_hom (movedEntries m) fun table handle =>
    table.modify_rekey Function.injective_id _ handle fun _ => by rfl

/-- The same handle is issued. -/
theorem insert_moved (kind : ResourceKind) (native : NativeId) (parents : List Handle) :
    (r.moved m).insert kind (m.move native) parents =
      ((r.insert kind native parents).1, (r.insert kind native parents).2.moved m) := by
  let handle := Handle.compose kind r.nextSequence
  let given := parents.filter (!·.isNull)
  let entry : Entry := { native, parents := given }
  have hentries : (recount (· + 1) (movedEntries m r.entries) given).insert handle (entry.moved m) =
      movedEntries m ((recount (· + 1) r.entries given).insert handle entry) := by
    rw [recount_moved]
    exact (recount (· + 1) r.entries given).insert_rekey Function.injective_id (·.moved m) handle
      entry
  have hreverse : (movedReverse m r.reverse).insert (kind, m.move native) handle =
      movedReverse m (r.reverse.insert (kind, native) handle) :=
    r.reverse.insert_rekey (wayBack_injective m) id (kind, native) handle
  exact congrArg₂ (fun entries reverse =>
    (handle, Registry.mk entries reverse (r.nextSequence + 1))) hentries hreverse

theorem forget_moved (reverse : Table (ResourceKind × NativeId) Handle) (handle : Handle)
    (native : NativeId) :
    forget (movedReverse m reverse) handle (m.move native) =
      movedReverse m (forget reverse handle native) := by
  unfold forget
  cases handle.kind? with
  | none => rfl
  | some kind =>
      have hfound : (movedReverse m reverse).find? (kind, m.move native) =
          reverse.find? (kind, native) :=
        (reverse.find?_rekey (wayBack_injective m) id (kind, native)).trans
          (congrFun Option.map_id _)
      have herased : (movedReverse m reverse).erase (kind, m.move native) =
          movedReverse m (reverse.erase (kind, native)) :=
        reverse.erase_rekey (wayBack_injective m) id (kind, native)
      simp only [hfound, herased]
      split <;> rfl

theorem remove_moved (handle : Handle) :
    ((r.moved m).remove handle).2 = (r.remove handle).2.moved m := by
  unfold remove
  rw [entry?_moved]
  cases r.entries.find? handle with
  | none => rfl
  | some entry =>
      have herased : (movedEntries m r.entries).erase handle =
          movedEntries m (r.entries.erase handle) :=
        r.entries.erase_rekey Function.injective_id _ handle
      have hentries : recount (· - 1) ((movedEntries m r.entries).erase handle) entry.parents =
          movedEntries m (recount (· - 1) (r.entries.erase handle) entry.parents) := by
        rw [herased, recount_moved]
      exact congrArg₂ (Registry.mk · · r.nextSequence) hentries
        (forget_moved m r.reverse handle entry.native)

end Registry

/-! ## Steps of the handle layer -/

namespace Verbs

/-- The operation attaches or detaches devices. -/
def Operation.hotplugs {α : Type} : Operation α → Bool
  | .plug _ | .unplug _ => true
  | _ => false

/-- The operation looks at the attached devices. -/
def Operation.enumerates {α : Type} : Operation α → Bool
  | .deviceCount | .deviceNames | .openDevice _ => true
  | _ => false

/-- The handle layer under other identities. -/
def moved (v : Verbs) : Verbs :=
  { v with host := v.host.moved m, registry := v.registry.moved m }

variable (v : Verbs) {α α' : Type}

@[simp] theorem moved_host : (v.moved m).host = v.host.moved m := rfl

@[simp] theorem moved_registry : (v.moved m).registry = v.registry.moved m := rfl

@[simp] theorem moved_policy : (v.moved m).policy = v.policy := rfl

/-- The verb answers the same under other identities, and does the same. -/
abbrev Along (rename : α → α') (x : Verb α) (x' : Verb α') : Prop :=
  Step.Along (moved m) rename v x x'

variable {rename : α → α'}

theorem updated_along {f f' : Verbs → Verbs} (hf : f' (v.moved m) = (f v).moved m) :
    v.Along m id (.update f) (.update f') :=
  congrArg (Prod.mk (Except.ok ())) hf

theorem pure_along (a : α) : v.Along m id (pure a) (pure a) := rfl

theorem throw_along (e : VerbsError) : v.Along m rename (throw e) (throw e) := rfl

theorem refused_along {c : Prop} {_ : Decidable c} {e : VerbsError} {f : Unit → Verb α}
    (hf : v.Along m id (f ()) (f ())) :
    v.Along m id (if c then throw e >>= f else f ()) (if c then throw e >>= f else f ()) := by
  split
  · exact v.throw_along m e
  · exact hf

theorem resolved_along {handle : Handle} {kind : ResourceKind} {f : NativeId → Verb α}
    {f' : NativeId → Verb α'} (hf : ∀ id, v.Along m rename (f id) (f' (m.move id))) :
    v.Along m rename (resolve handle kind >>= f) (resolve handle kind >>= f') := by
  have hresolved : v.Along m m.move (resolve handle kind) (resolve handle kind) := by
    refine Step.along_read ?_
    simp only [moved_registry, Registry.resolve_moved]
    cases v.registry.resolve handle kind <;> rfl
  refine hresolved.bind fun id w hw => ?_
  obtain rfl : v = w := congrArg Prod.snd hw
  exact hf id

theorem resolvedOptional_along {handle : Handle} {kind : ResourceKind}
    {f : Option NativeId → Verb α} {f' : Option NativeId → Verb α'}
    (hf : ∀ found, v.Along m rename (f found) (f' (found.map m.move))) :
    v.Along m rename (resolveOptional handle kind >>= f) (resolveOptional handle kind >>= f') := by
  unfold resolveOptional
  split
  · exact hf none
  · have hfound : v.Along m (·.map m.move) (some <$> resolve handle kind)
        (some <$> resolve handle kind) := resolved_along m v fun _ => rfl
    have hsame : ((some <$> resolve handle kind) v).2 = v := by
      simp only [Step.map_apply, resolve, Step.read]
      cases v.registry.resolve handle kind <;> rfl
    refine hfound.bind fun found w hw => ?_
    obtain rfl : v = w := hsame.symm.trans (congrArg Prod.snd hw)
    exact hf found

theorem onHost_along {ε : Type} (reason : ε → VerbsError) {work : Step Host ε α}
    {work' : Step Host ε α'} (hwork : v.host.Along m rename work work') :
    v.Along m rename (onHost reason work) (onHost reason work') := by
  have hworked : work' (v.host.moved m) =
    ((work v.host).1.map rename, (work v.host).2.moved m) := hwork
  unfold Along Step.Along onHost
  simp only [moved_host, hworked]
  obtain ⟨answer, h⟩ := work v.host
  cases answer <;> rfl

theorem issue_along (kind : ResourceKind) (native : NativeId) (parents : List Handle) :
    v.Along m id (issue kind native parents) (issue kind (m.move native) parents) := by
  refine Step.along_same ?_
  unfold issue
  simp only [m.move_eq_null, moved_registry, Registry.insert_moved]
  split <;> rfl

theorem detailsOf_along (handle : Handle) (kind : ResourceKind) (select : Details → Option α) :
    v.Along m id (detailsOf handle kind select) (detailsOf handle kind select) := by
  refine resolved_along m v fun _ => Step.along_same ?_
  rfl

theorem contextOf?_moved (r : Registry) (handle : Handle) :
    contextOf? (r.moved m) handle = contextOf? r handle := by
  have hwalk (n : Nat) : contextWithin (r.moved m) n handle = contextWithin r n handle := by
    induction n generalizing handle with
    | zero => rfl
    | succ n ih => simp only [contextWithin, Registry.parents_moved, funext ih]
  rw [contextOf?, Registry.size_moved, hwalk]
  rfl

theorem recorded_along (kind : ResourceKind) (native : NativeId) (parents : List Handle)
    (details : Details) :
    v.Along m id
      (do
        let handle ← issue kind native parents
        recordDetails handle details
        pure handle)
      (do
        let handle ← issue kind (m.move native) parents
        recordDetails handle details
        pure handle) := by
  refine (issue_along m v kind native parents).bind fun handle u _ => ?_
  have hrecorded : u.Along m id (recordDetails handle details) (recordDetails handle details) :=
    updated_along m u rfl
  exact hrecorded.bind fun _ t _ => t.pure_along m handle

theorem resolved_native_along {handle : Handle} {kind : ResourceKind} {work : NativeId → Native α}
    (hwork : ∀ native, v.host.Along m id (work native) (work (m.move native))) :
    v.Along m id (resolve handle kind >>= fun id => native (work id))
      (resolve handle kind >>= fun id => native (work id)) :=
  resolved_along m v fun id => onHost_along m v .driver (hwork id)

theorem resolved_posting_along {handle : Handle} {kind : ResourceKind} {work : NativeId → Posting}
    (hwork : ∀ native, v.host.Along m id (work native) (work (m.move native))) :
    v.Along m id (resolve handle kind >>= fun id => posting (work id))
      (resolve handle kind >>= fun id => posting (work id)) :=
  resolved_along m v fun id => onHost_along m v _ (hwork id)

/-! ## Destroying -/

theorem checkDependents_along (handle : Handle) (kind : ResourceKind) :
    v.Along m id (checkDependents handle kind) (checkDependents handle kind) := by
  refine Step.along_same ?_
  simp only [checkDependents_eq, moved_registry, moved_policy, Registry.dependents_moved]
  by_cases hrefused : v.policy = .registry ∧ v.registry.dependents handle > 0
  · simp only [if_pos hrefused]
    rfl
  · simp only [if_neg hrefused]

theorem destroyNative_along (handle : Handle) {work work' : Native Unit}
    (hwork : v.host.Along m id work work') :
    v.Along m id (destroyNative handle work) (destroyNative handle work') := by
  have hworked : work' (v.host.moved m) = ((work v.host).1, (work v.host).2.moved m) := hwork.same
  refine Step.along_same ?_
  unfold destroyNative
  simp only [moved_host, hworked]
  obtain ⟨answer, h⟩ := work v.host
  cases answer with
  | ok => rfl
  | error cause =>
      simp only
      split <;> rfl

theorem destroy_along {work : NativeId → Native Unit} (handle : Handle) (kind : ResourceKind)
    (hwork : ∀ (h : Host) native, h.Along m id (work native) (work (m.move native))) :
    v.Along m id (destroy handle kind work) (destroy handle kind work) := by
  have hrevoked (w : Verbs) : revoke handle (w.moved m) = (revoke handle w).moved m := by
    simp only [revoke, moved_registry, Registry.remove_moved]
    rfl
  exact resolved_along m v fun native => (checkDependents_along m v handle kind).bind fun _ w _ =>
    (destroyNative_along m w handle (hwork w.host native)).bind fun _ u _ =>
      updated_along m u (hrevoked u)

/-! ## Verbs that create -/

section Creating

variable (hfirst : m.first ≤ v.host.fabric.nextId)

include hfirst

theorem allocPd_along (ctx : Handle) : v.Along m id (allocPd .soft ctx) (allocPd .soft ctx) :=
  resolved_along m v fun native =>
    (onHost_along m v _ (v.host.allocPd_along m hfirst native)).bind fun pd w _ =>
      issue_along m w .protectionDomain pd [ctx]

theorem createChannel_along (ctx : Handle) :
    v.Along m id (createChannel .soft ctx) (createChannel .soft ctx) :=
  resolved_along m v fun native =>
    (onHost_along m v _ (v.host.createChannel_along m hfirst native)).bind fun channel w _ =>
      issue_along m w .completionChannel channel [ctx]

theorem createSrq_along (pd : Handle) (init : SrqInit) :
    v.Along m id (createSrq .soft pd init) (createSrq .soft pd init) :=
  resolved_along m v fun native =>
    (onHost_along m v _ (v.host.createSrq_along m hfirst native init)).bind fun srq w _ =>
      issue_along m w .sharedReceiveQueue srq [pd]

theorem regMr_along (pd : Handle) (addr length : UInt64) (permission : Permission) :
    v.Along m id (regMr .soft pd addr length permission)
      (regMr .soft pd addr length permission) := by
  unfold regMr
  refine refused_along m v ?_
  refine refused_along m v ?_
  refine resolved_along m v fun native => ?_
  exact (onHost_along m v _ (v.host.regMr_along m hfirst native addr length permission)).bind
    fun region w _ => recorded_along m w .memoryRegion region.native [pd] (.region region.info)

theorem createCq_along (ctx : Handle) (depth : UInt32) (channel : Handle) (cookie : UInt64)
    (vector : Int32) :
    v.Along m id (createCq .soft ctx depth channel cookie vector)
      (createCq .soft ctx depth channel cookie vector) := by
  unfold createCq
  refine refused_along m v ?_
  refine resolved_along m v fun native => resolvedOptional_along m v fun found => ?_
  exact (onHost_along m v _ (v.host.createCq_along m hfirst native depth found cookie vector)).bind
    fun cq w _ => recorded_along m w .completionQueue cq.native [ctx, channel] (.cq cq.capacity)

theorem createQp_along (pd : Handle) (init : QpInit) :
    v.Along m id (createQp .soft pd init) (createQp .soft pd init) := by
  unfold createQp
  cases Transport.ofCode? init.transport with
  | none => exact v.throw_along m _
  | some transport =>
      exact resolved_along m v fun pdId => resolved_along m v fun sendCq =>
        resolved_along m v fun recvCq => resolvedOptional_along m v fun srq =>
          (onHost_along m v _ (v.host.createQp_along m hfirst pdId
            { sendCq, recvCq, srq, transport, signalAll := init.signalAll, caps := init.caps })).bind
            fun qp w _ => recorded_along m w .queuePair qp.native
              [pd, init.sendCq, init.recvCq, init.srq] (.qp qp.number transport)

end Creating

/-! ## All operations -/

theorem changed_along {change change' : Host → Host}
    (hchange : change' (v.host.moved m) = (change v.host).moved m) :
    v.Along m id (changeHost change) (changeHost change') :=
  updated_along m v (congrArg (fun host => { v.moved m with host }) hchange)

theorem deviceName_moved (ctx : Handle) :
    deviceName .soft ctx (v.moved m) = deviceName .soft ctx v := by
  have hname (native : NativeId) : Provider.soft.deviceName (m.move native) (v.host.moved m) =
      Provider.soft.deviceName native v.host := v.host.deviceName_moved m native
  simp only [deviceName, moved_registry, moved_host, Registry.resolve_moved, Option.bind_map,
    Function.comp_def, hname]

theorem getCqEvent_along (channel : Handle) :
    v.Along m id (getCqEvent .soft channel) (getCqEvent .soft channel) :=
  resolved_along m v fun native =>
    (onHost_along m v _ (v.host.getCqEvent_along m native)).bind fun event w _ => by
      refine Step.along_same ?_
      simp only [Step.read, moved_registry, CqEvent.moved_cq, Registry.lookup_moved]
      rfl

theorem ackCqEvents_along (cq : Handle) (n : UInt32) :
    v.Along m id (ackCqEvents .soft cq n) (ackCqEvents .soft cq n) :=
  resolved_along m v fun native => changed_along m v (v.host.ackCqEvents_moved m native n)

theorem channelDescriptor_along (channel : Handle) :
    v.Along m id (channelDescriptor .soft channel) (channelDescriptor .soft channel) :=
  resolved_native_along m v fun native => v.host.channelDescriptor_along m native

theorem setChannelDescriptor_along (channel : Handle) (descriptor : Descriptor) :
    v.Along m id (setChannelDescriptor channel descriptor)
      (setChannelDescriptor channel descriptor) :=
  resolved_along m v fun native =>
    changed_along m v (v.host.setDescriptor_moved m native descriptor)

theorem qpDetails_along (qp : Handle) : v.Along m id (qpDetails qp) (qpDetails qp) :=
  detailsOf_along m v qp .queuePair _

theorem qpNumber_along (qp : Handle) : v.Along m id (qpNumber qp) (qpNumber qp) :=
  (qpDetails_along m v qp).bind fun details w _ => w.pure_along m details.1

theorem qpTransport_along (qp : Handle) : v.Along m id (qpTransport qp) (qpTransport qp) :=
  (qpDetails_along m v qp).bind fun details w _ => w.pure_along m details.2

theorem queryPort_along (ctx : Handle) (port : UInt8) :
    v.Along m id (queryPort .soft ctx port) (queryPort .soft ctx port) :=
  resolved_native_along m v fun native => v.host.queryPort_along m native port

theorem queryGid_along (ctx : Handle) (port index : UInt8) :
    v.Along m id (queryGid .soft ctx port index) (queryGid .soft ctx port index) :=
  resolved_native_along m v fun native => v.host.queryGid_along m native port index

theorem endpoint_along (qp : Handle) (port : UInt8) :
    v.Along m id (endpoint .soft qp port) (endpoint .soft qp port) := by
  refine (qpNumber_along m v qp).bind fun number w _ => ?_
  refine Step.Along.bind (show w.Along m id _ _ from Step.along_same ?_) fun ctx u _ => ?_
  · simp only [Step.read, moved_registry, contextOf?_moved]
  · exact (queryPort_along m u ctx port).bind fun _ t _ =>
      (queryGid_along m t ctx port 0).bind fun _ s _ => s.pure_along m _

theorem modifyQp_along (qp : Handle) (attributes : QpAttributes) (mask : QpMask) :
    v.Along m id (modifyQp .soft qp attributes mask) (modifyQp .soft qp attributes mask) :=
  resolved_native_along m v fun native => v.host.modifyQp_along m native attributes mask

theorem connectQp_along (qp : Handle) (here remote : Endpoint) (access : Permission) :
    v.Along m id (connectQp .soft qp here remote access) (connectQp .soft qp here remote access) :=
  (qpTransport_along m v qp).bind fun _ w _ => (modifyQp_along m w qp _ _).bind fun _ u _ =>
    (modifyQp_along m u qp _ _).bind fun _ t _ => modifyQp_along m t qp _ _

/-- No other operation can tell other identities, and each does the same under them. -/
theorem perform_along {op : Operation α} (hplug : op.hotplugs = false)
    (hblind : op.enumerates = false) (hfirst : m.first ≤ v.host.fabric.nextId) :
    v.Along m id (perform op) (perform op) := by
  cases op with
  | plug | unplug => cases hplug
  | deviceCount | deviceNames | openDevice => cases hblind
  | closeDevice ctx => exact destroy_along m v ctx .context fun h => h.closeDevice_along m
  | deviceName ctx =>
      refine Step.along_same ?_
      simp only [perform, Step.read, deviceName_moved]
  | queryDevice ctx => exact resolved_native_along m v (v.host.queryDevice_along m)
  | queryPort ctx port => exact queryPort_along m v ctx port
  | queryGid ctx port index => exact queryGid_along m v ctx port index
  | allocPd ctx => exact allocPd_along m v hfirst ctx
  | deallocPd pd => exact destroy_along m v pd .protectionDomain fun h => h.deallocPd_along m
  | regMr pd addr length permission => exact regMr_along m v hfirst pd addr length permission
  | queryMr mr => exact detailsOf_along m v mr .memoryRegion _
  | deregMr mr => exact destroy_along m v mr .memoryRegion fun h => h.deregMr_along m
  | createChannel ctx => exact createChannel_along m v hfirst ctx
  | destroyChannel channel =>
      exact destroy_along m v channel .completionChannel fun h => h.destroyChannel_along m
  | channelDescriptor channel => exact channelDescriptor_along m v channel
  | setChannelDescriptor channel descriptor =>
      exact setChannelDescriptor_along m v channel descriptor
  | addChannelFlags channel mode =>
      exact (channelDescriptor_along m v channel).bind fun descriptor w _ =>
        setChannelDescriptor_along m w channel (descriptor.addFlags mode)
  | createCq ctx depth channel cookie vector =>
      exact createCq_along m v hfirst ctx depth channel cookie vector
  | cqCapacity cq => exact detailsOf_along m v cq .completionQueue _
  | destroyCq cq => exact destroy_along m v cq .completionQueue fun h => h.destroyCq_along m
  | pollCq cq n => exact resolved_native_along m v fun native => v.host.pollCq_along m native n
  | reqNotifyCq cq solicitedOnly =>
      exact resolved_native_along m v fun native => v.host.reqNotifyCq_along m native solicitedOnly
  | getCqEvent channel => exact getCqEvent_along m v channel
  | ackCqEvents cq n => exact ackCqEvents_along m v cq n
  | createSrq pd init => exact createSrq_along m v hfirst pd init
  | destroySrq srq => exact destroy_along m v srq .sharedReceiveQueue fun h => h.destroySrq_along m
  | postSrqRecv srq requests =>
      exact resolved_posting_along m v fun native => v.host.postSrqRecv_along m native requests
  | createQp pd init => exact createQp_along m v hfirst pd init
  | modifyQp qp attributes mask => exact modifyQp_along m v qp attributes mask
  | qpNumber qp => exact qpNumber_along m v qp
  | qpTransport qp => exact qpTransport_along m v qp
  | qpState qp => exact resolved_native_along m v (v.host.queryQpState_along m)
  | endpoint qp port => exact endpoint_along m v qp port
  | connectQp qp here remote access => exact connectQp_along m v qp here remote access
  | destroyQp qp => exact destroy_along m v qp .queuePair fun h => h.destroyQp_along m
  | postSend qp requests =>
      exact resolved_posting_along m v fun native => v.host.postSend_along m native requests
  | postRecv qp requests =>
      exact resolved_posting_along m v fun native => v.host.postRecv_along m native requests
  | setMemory memory =>
      let set (h : Host) : Host := { h with memory }
      have hset : set (v.host.moved m) = (set v.host).moved m := rfl
      exact changed_along m v hset
  | setDescriptorsLeft left =>
      let set (h : Host) : Host := { h with descriptorsLeft := left }
      have hset : set (v.host.moved m) = (set v.host).moved m := rfl
      exact changed_along m v hset

end Verbs

end Rdma
