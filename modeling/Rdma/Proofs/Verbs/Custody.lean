import Rdma.Proofs.Completion.Custody
import Rdma.Proofs.Verbs.Effect

/-!
# Handle layers whose channels nobody tampers with

What a verb does to the host are operations of the provider and events of the handle layer. So a
host that is used through handles only is reachable, and in custody as long as nobody closes, reads
or writes the descriptor of a channel: its channels and their tokens agree.

* `perform_leadsSafely`, `perform_leads` — what one verb does to the host;
* `performAll_custody`, `performAll_leads` — the run.
-/

namespace Rdma

/-- Operations lead to the host, of which none but the provider's touch tokens. -/
def Host.InCustody (devices : List DeviceConfig) (h : Host) : Prop :=
  ∃ debts, Host.Custody devices debts h

namespace Host

variable {h g k : Host} {devices : List DeviceConfig}

/-- Operations that leave tokens alone, and events of the handle layer between them, lead from one
host to the other. -/
inductive LeadsSafely (h : Host) : Host → Prop
  | refl : LeadsSafely h h
  | perform {k : Host} (op : Operation) : op.LeavesTokens k → LeadsSafely h k →
      LeadsSafely h (k.perform op)
  | note {k : Host} (e : Event) : e.ofHandleLayer → LeadsSafely h k → LeadsSafely h (k.note e)

namespace LeadsSafely

theorem trans (hg : h.LeadsSafely g) (hk : g.LeadsSafely k) : h.LeadsSafely k := by
  induction hk with
  | refl => exact hg
  | perform op hop _ ih => exact ih.perform op hop
  | note e he _ ih => exact ih.note e he

theorem leads (hk : h.LeadsSafely k) : h.Leads k := by
  induction hk with
  | refl => exact .refl
  | perform op _ _ ih => exact ih.perform op
  | note e he _ ih => exact ih.note e he

theorem custody (hk : h.LeadsSafely k) (hc : InCustody devices h) : InCustody devices k := by
  induction hk with
  | refl => exact hc
  | perform op hop _ ih => exact ih.elim fun _ hc => ⟨_, hc.perform op hop⟩
  | note e he _ ih => exact ih.elim fun _ hc => ⟨_, hc.note e he⟩

end LeadsSafely

end Host

namespace Verbs

variable {α β : Type} {v : Verbs} {devices : List DeviceConfig}

/-- Does the operation leave the tokens of every channel alone, but for what the provider does with
them? -/
def Operation.LeavesTokens (v : Verbs) : Operation α → Prop
  | .setChannelDescriptor channel descriptor => ∀ id,
      v.registry.resolve channel .completionChannel = some id →
        (Host.Operation.setDescriptor id descriptor).LeavesTokens v.host
  | _ => True

/-- Do operations in a row leave tokens alone? -/
def LeavesTokens (v : Verbs) : List AnyOperation → Prop
  | [] => True
  | op :: rest => op.2.LeavesTokens v ∧ LeavesTokens (perform op.2 v).2 rest

/-! ## Parts of verbs -/

/-- Whatever it answers, the verb leaves tokens alone. -/
def Safekeeps (x : Verb α) : Prop := ∀ v : Verbs, v.host.LeadsSafely (x v).2.host

theorem safekeeps_read (f : Verbs → Except VerbsError α) : Safekeeps (.read f) := fun _ => .refl

theorem safekeeps_throw (e : VerbsError) : Safekeeps (throw e : Verb α) := fun _ => .refl

theorem Safekeeps.bind {x : Verb α} {f : α → Verb β} (hx : Safekeeps x)
    (hf : ∀ a, Safekeeps (f a)) : Safekeeps (x >>= f) :=
  Step.bind_relates (R := fun v w : Verbs => v.host.LeadsSafely w.host) Host.LeadsSafely.trans hx hf

theorem Safekeeps.map {x : Verb α} (hx : Safekeeps x) (f : α → β) : Safekeeps (f <$> x) :=
  hx.bind fun _ _ => .refl

theorem Safekeeps.refuse {c : Prop} [Decidable c] {e : VerbsError} {f : Unit → Verb α}
    (hf : Safekeeps (f ())) : Safekeeps (if c then throw e >>= f else f ()) := by
  split
  · exact fun _ => .refl
  · exact hf

theorem safekeeps_onHost {ε : Type} (reason : ε → VerbsError) {work : Step Host ε α}
    (op : Host.Operation) (hop : ∀ h, op.LeavesTokens h) (hwork : ∀ h, (work h).2 = h.perform op) :
    Safekeeps (onHost reason work) := by
  intro v
  have hafter : v.host.LeadsSafely (work v.host).2 := by
    rw [hwork]
    exact Host.LeadsSafely.refl.perform op (hop v.host)
  unfold onHost
  split
  case h_1 heq =>
    rw [heq] at hafter
    exact hafter
  case h_2 heq =>
    rw [heq] at hafter
    exact hafter

theorem safekeeps_resolve_onHost {ε : Type} {handle : Handle} {kind : ResourceKind}
    {reason : ε → VerbsError} {work : NativeId → Step Host ε α} (op : NativeId → Host.Operation)
    (hop : ∀ id h, (op id).LeavesTokens h) (hwork : ∀ id h, (work id h).2 = h.perform (op id)) :
    Safekeeps (resolve handle kind >>= fun id => onHost reason (work id)) :=
  (safekeeps_read _).bind fun id => safekeeps_onHost reason (op id) (hop id) (hwork id)

theorem safekeeps_resolveOptional (handle : Handle) (kind : ResourceKind) :
    Safekeeps (resolveOptional handle kind) := by
  unfold resolveOptional
  split
  · exact fun _ => .refl
  · exact (safekeeps_read _).map some

theorem safekeeps_issue (kind : ResourceKind) (id : NativeId) (parents : List Handle) :
    Safekeeps (issue kind id parents) := by
  intro v
  unfold issue
  split
  · exact .refl
  · exact Host.LeadsSafely.refl.note _ rfl

theorem safekeeps_destroy {kind : ResourceKind} {work : NativeId → Native Unit}
    (op : NativeId → Host.Operation) (hop : ∀ id h, (op id).LeavesTokens h)
    (hwork : ∀ id h, (work id h).2 = h.perform (op id)) (handle : Handle) :
    Safekeeps (destroy handle kind work) := by
  refine (safekeeps_read _).bind fun id => Safekeeps.bind (fun v => ?_) fun _ =>
    Safekeeps.bind (fun v => ?_) fun _ v => Host.LeadsSafely.refl.note _ rfl
  · rw [checkDependents_eq]
    split
    · exact Host.LeadsSafely.refl.note _ rfl
    · exact .refl
  · have hafter : v.host.LeadsSafely (work id v.host).2 := by
      rw [hwork]
      exact Host.LeadsSafely.refl.perform (op id) (hop id v.host)
    unfold destroyNative
    split
    case h_1 heq =>
      rw [heq] at hafter
      exact hafter
    case h_2 heq =>
      rw [heq] at hafter
      simp only
      split
      · exact hafter.note _ rfl
      · exact hafter

theorem safekeeps_changeHost {change : Host → Host} (op : Host.Operation)
    (hop : ∀ h, op.LeavesTokens h) (hchange : ∀ h, change h = h.perform op) :
    Safekeeps (changeHost change) := by
  intro v
  show v.host.LeadsSafely (change v.host)
  rw [hchange]
  exact Host.LeadsSafely.refl.perform op (hop v.host)

theorem safekeeps_detailsOf (handle : Handle) (kind : ResourceKind)
    (select : Details → Option α) : Safekeeps (detailsOf handle kind select) :=
  (safekeeps_read _).bind fun _ => safekeeps_read _

/-- What is issued or written down after work of the provider does not touch the host. -/
theorem Safekeeps.granted {kind : ResourceKind} {x : Verb α} {id : α → NativeId}
    {parents : List Handle} {details : Handle → α → Verb Unit} (hx : Safekeeps x)
    (hdetails : ∀ handle a, Safekeeps (details handle a)) :
    Safekeeps (do
      let a ← x
      let handle ← issue kind (id a) parents
      details handle a
      pure handle) :=
  hx.bind fun a => (safekeeps_issue kind (id a) parents).bind fun handle =>
    (hdetails handle a).bind fun _ _ => .refl

/-! ## Verbs of several steps -/

theorem safekeeps_queryPort (ctx : Handle) (port : UInt8) :
    Safekeeps (queryPort .soft ctx port) :=
  safekeeps_resolve_onHost (.queryPort · port) (fun _ _ => trivial) fun _ _ => rfl

theorem safekeeps_queryGid (ctx : Handle) (port index : UInt8) :
    Safekeeps (queryGid .soft ctx port index) :=
  safekeeps_resolve_onHost (.queryGid · port index) (fun _ _ => trivial) fun _ _ => rfl

theorem safekeeps_modifyQp (qp : Handle) (attributes : QpAttributes) (mask : QpMask) :
    Safekeeps (modifyQp .soft qp attributes mask) :=
  safekeeps_resolve_onHost (.modifyQp · attributes mask) (fun _ _ => trivial) fun _ _ => rfl

theorem safekeeps_endpoint (qp : Handle) (port : UInt8) :
    Safekeeps (endpoint .soft qp port) :=
  ((safekeeps_detailsOf qp _ _).map _).bind fun _ => (safekeeps_read _).bind fun ctx =>
    (safekeeps_queryPort ctx port).bind fun _ => (safekeeps_queryGid ctx port 0).bind fun _ _ =>
      .refl

theorem safekeeps_connectQp (qp : Handle) (here remote : Endpoint) (access : Permission) :
    Safekeeps (connectQp .soft qp here remote access) :=
  ((safekeeps_detailsOf qp _ _).map _).bind fun _ => (safekeeps_modifyQp qp _ _).bind fun _ =>
    (safekeeps_modifyQp qp _ _).bind fun _ => safekeeps_modifyQp qp _ _

theorem safekeeps_openDevice (index : Nat) : Safekeeps (openDevice .soft index) := by
  refine (safekeeps_onHost _ .deviceList (fun _ => trivial) fun _ => rfl).bind fun listed => ?_
  cases listed[index]? with
  | none => exact safekeeps_throw _
  | some device =>
      exact (safekeeps_onHost _ (.openDevice device) (fun _ => trivial) fun _ => rfl).bind fun _ =>
        safekeeps_issue _ _ _

theorem safekeeps_regMr (pd : Handle) (addr length : UInt64) (permission : Permission) :
    Safekeeps (regMr .soft pd addr length permission) := by
  refine Safekeeps.refuse (Safekeeps.refuse ((safekeeps_read _).bind fun id => ?_))
  exact (safekeeps_onHost _ (.regMr id addr length permission) (fun _ => trivial)
    fun _ => rfl).granted fun _ _ _ => .refl

theorem safekeeps_createCq (ctx : Handle) (depth : UInt32) (channel : Handle) (cookie : UInt64)
    (vector : Int32) : Safekeeps (createCq .soft ctx depth channel cookie vector) := by
  refine Safekeeps.refuse ((safekeeps_read _).bind fun ctxId =>
    (safekeeps_resolveOptional _ _).bind fun channelId => ?_)
  exact (safekeeps_onHost _ (.createCq ctxId depth channelId cookie vector) (fun _ => trivial)
    fun _ => rfl).granted fun _ _ _ => .refl

theorem safekeeps_createQp (pd : Handle) (init : QpInit) :
    Safekeeps (createQp .soft pd init) := by
  unfold createQp
  cases Transport.ofCode? init.transport with
  | none => exact safekeeps_throw _
  | some transport =>
      exact (safekeeps_read _).bind fun pdId => (safekeeps_read _).bind fun sendCq =>
        (safekeeps_read _).bind fun recvCq => (safekeeps_resolveOptional _ _).bind fun srq =>
          (safekeeps_onHost _ (.createQp pdId _) (fun _ => trivial) fun _ => rfl).granted
            fun _ _ _ => .refl

/-- A descriptor put in the place of another with the same tokens. -/
theorem setChannelDescriptor_leadsSafely {channel : Handle} {descriptor : Descriptor}
    (hop : (Operation.setChannelDescriptor channel descriptor).LeavesTokens v) :
    v.host.LeadsSafely (setChannelDescriptor channel descriptor v).2.host := by
  simp only [setChannelDescriptor, Step.bind_apply, resolve, Step.read]
  cases hr : v.registry.resolve channel .completionChannel with
  | none => exact .refl
  | some id => exact .perform (.setDescriptor id descriptor) (hop id hr) .refl

/-- Flags are not tokens. -/
theorem addChannelFlags_leadsSafely (channel : Handle) (mode : Int32) :
    v.host.LeadsSafely (addChannelFlags .soft channel mode v).2.host := by
  simp only [addChannelFlags, channelDescriptor, Step.bind_apply, resolve, Step.read]
  cases hr : v.registry.resolve channel .completionChannel with
  | none => exact .refl
  | some id =>
      simp only [native, onHost, Provider.soft, Host.channelDescriptor, Step.read]
      cases hfound : v.host.fabric.channels.find? id with
      | none => exact .refl
      | some c =>
          refine setChannelDescriptor_leadsSafely fun id' hr' c' hc' => ?_
          obtain rfl := Option.some.inj (hr.symm.trans hr')
          obtain rfl := Option.some.inj (hfound.symm.trans hc')
          rfl

/-! ## All operations -/

/-- An operation that leaves tokens alone does nothing else to the host. -/
theorem perform_leadsSafely {op : Operation α} (hop : op.LeavesTokens v) :
    v.host.LeadsSafely (perform op v).2.host := by
  have hsafe {β : Type} {x : Verb β} (hx : Safekeeps x) : v.host.LeadsSafely (x v).2.host := hx v
  cases op with
  | deviceCount | deviceNames | deviceName => exact .refl
  | openDevice index => exact hsafe (safekeeps_openDevice index)
  | closeDevice ctx =>
      exact hsafe (safekeeps_destroy .closeDevice (fun _ _ => trivial) (fun _ _ => rfl) ctx)
  | queryDevice ctx =>
      exact hsafe (safekeeps_resolve_onHost .queryDevice (fun _ _ => trivial) fun _ _ => rfl)
  | queryPort ctx port => exact hsafe (safekeeps_queryPort ctx port)
  | queryGid ctx port index => exact hsafe (safekeeps_queryGid ctx port index)
  | allocPd ctx =>
      exact hsafe ((safekeeps_read _).bind fun id =>
        (safekeeps_onHost _ (.allocPd id) (fun _ => trivial) fun _ => rfl).bind fun _ =>
          safekeeps_issue _ _ _)
  | deallocPd pd =>
      exact hsafe (safekeeps_destroy .deallocPd (fun _ _ => trivial) (fun _ _ => rfl) pd)
  | regMr pd addr length permission => exact hsafe (safekeeps_regMr pd addr length permission)
  | queryMr mr => exact hsafe (safekeeps_detailsOf mr _ _)
  | deregMr mr =>
      exact hsafe (safekeeps_destroy .deregMr (fun _ _ => trivial) (fun _ _ => rfl) mr)
  | createChannel ctx =>
      exact hsafe ((safekeeps_read _).bind fun id =>
        (safekeeps_onHost _ (.createChannel id) (fun _ => trivial) fun _ => rfl).bind fun _ =>
          safekeeps_issue _ _ _)
  | destroyChannel channel =>
      exact hsafe (safekeeps_destroy .destroyChannel (fun _ _ => trivial) (fun _ _ => rfl) channel)
  | channelDescriptor channel =>
      exact hsafe (safekeeps_resolve_onHost .channelDescriptor (fun _ _ => trivial) fun _ _ => rfl)
  | setChannelDescriptor channel descriptor => exact setChannelDescriptor_leadsSafely hop
  | addChannelFlags channel mode => exact addChannelFlags_leadsSafely channel mode
  | createCq ctx depth channel cookie vector =>
      exact hsafe (safekeeps_createCq ctx depth channel cookie vector)
  | cqCapacity cq => exact hsafe (safekeeps_detailsOf cq _ _)
  | destroyCq cq =>
      exact hsafe (safekeeps_destroy .destroyCq (fun _ _ => trivial) (fun _ _ => rfl) cq)
  | pollCq cq n =>
      exact hsafe (safekeeps_resolve_onHost (.pollCq · n) (fun _ _ => trivial) fun _ _ => rfl)
  | reqNotifyCq cq solicitedOnly =>
      exact hsafe (safekeeps_resolve_onHost (.reqNotifyCq · solicitedOnly) (fun _ _ => trivial)
        fun _ _ => rfl)
  | getCqEvent channel =>
      exact hsafe ((safekeeps_read _).bind fun id =>
        (safekeeps_onHost _ (.getCqEvent id) (fun _ => trivial) fun _ => rfl).bind fun _ =>
          safekeeps_read _)
  | ackCqEvents cq n =>
      exact hsafe ((safekeeps_read _).bind fun id =>
        safekeeps_changeHost (.ackCqEvents id n) (fun _ => trivial) fun _ => rfl)
  | createSrq pd init =>
      exact hsafe ((safekeeps_read _).bind fun id =>
        (safekeeps_onHost _ (.createSrq id init) (fun _ => trivial) fun _ => rfl).bind fun _ =>
          safekeeps_issue _ _ _)
  | destroySrq srq =>
      exact hsafe (safekeeps_destroy .destroySrq (fun _ _ => trivial) (fun _ _ => rfl) srq)
  | postSrqRecv srq requests =>
      exact hsafe (safekeeps_resolve_onHost (.postSrqRecv · requests) (fun _ _ => trivial)
        fun _ _ => rfl)
  | createQp pd init => exact hsafe (safekeeps_createQp pd init)
  | modifyQp qp attributes mask => exact hsafe (safekeeps_modifyQp qp attributes mask)
  | qpNumber qp | qpTransport qp => exact hsafe ((safekeeps_detailsOf qp _ _).map _)
  | qpState qp =>
      exact hsafe (safekeeps_resolve_onHost .queryQpState (fun _ _ => trivial) fun _ _ => rfl)
  | endpoint qp port => exact hsafe (safekeeps_endpoint qp port)
  | connectQp qp here remote access => exact hsafe (safekeeps_connectQp qp here remote access)
  | destroyQp qp =>
      exact hsafe (safekeeps_destroy .destroyQp (fun _ _ => trivial) (fun _ _ => rfl) qp)
  | postSend qp requests =>
      exact hsafe (safekeeps_resolve_onHost (.postSend · requests) (fun _ _ => trivial)
        fun _ _ => rfl)
  | postRecv qp requests =>
      exact hsafe (safekeeps_resolve_onHost (.postRecv · requests) (fun _ _ => trivial)
        fun _ _ => rfl)
  | plug device =>
      exact hsafe (safekeeps_changeHost (.plug device) (fun _ => trivial) fun _ => rfl)
  | unplug name =>
      show v.host.LeadsSafely (v.host.perform (.unplug name))
      exact .perform (.unplug name) trivial .refl
  | setMemory memory =>
      exact hsafe (safekeeps_changeHost (.setMemory memory) (fun _ => trivial) fun _ => rfl)
  | setDescriptorsLeft left =>
      exact hsafe (safekeeps_changeHost (.setDescriptorsLeft left) (fun _ => trivial) fun _ => rfl)

/-- Whatever a verb does to the host, operations of the provider and events of the layer do. -/
theorem perform_leads (v : Verbs) (op : Operation α) : v.host.Leads (perform op v).2.host := by
  cases op with
  | setChannelDescriptor channel descriptor =>
      simp only [perform, setChannelDescriptor, Step.bind_apply, resolve, Step.read]
      cases v.registry.resolve channel .completionChannel with
      | none => exact .refl
      | some id => exact .perform (.setDescriptor id descriptor) .refl
  | _ => exact (perform_leadsSafely (by trivial)).leads

theorem performAll_leads (v : Verbs) (ops : List AnyOperation) :
    v.host.Leads (v.performAll ops).host := by
  induction ops generalizing v with
  | nil => exact .refl
  | cons op rest ih => exact (perform_leads v op.2).trans (ih _)

theorem performAll_custody (hc : v.host.InCustody devices) {ops : List AnyOperation}
    (hops : v.LeavesTokens ops) : (v.performAll ops).host.InCustody devices := by
  induction ops generalizing v with
  | nil => exact hc
  | cons op rest ih => exact ih ((perform_leadsSafely hops.1).custody hc) hops.2

theorem fresh_custody (policy : DependencyPolicy) (memory : Memory) (devices : List DeviceConfig) :
    (fresh policy memory devices).host.InCustody devices :=
  ⟨_, .note _ rfl (.fresh memory)⟩

/-- A host that is used through handles is reachable. -/
theorem reachable_host (policy : DependencyPolicy) (memory : Memory) (devices : List DeviceConfig)
    (ops : List AnyOperation) :
    Host.Reachable devices ((fresh policy memory devices).performAll ops).host :=
  (performAll_leads _ ops).reachable (.note _ rfl (.fresh memory))

end Verbs

end Rdma
