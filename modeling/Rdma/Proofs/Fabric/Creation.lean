import Rdma.Fabric.QueuePairs
import Rdma.Fabric.Queues
import Rdma.Fabric.Regions
import Rdma.Proofs.Fabric.Sound

/-!
# Creating objects

Every native verb that creates does the same: it refuses and changes nothing, or it puts one object
that the fabric supports under the next identity (`Host.Created`). The lemmas named `…_created` say
which object a verb creates, and what its answer tells of it.
-/

namespace Rdma

namespace Fabric

/-- What the owner of a region is told of it. -/
def Region.info (r : Region) : RegionInfo :=
  { addr := r.addr, length := r.length, lkey := r.lkey, rkey := r.rkey }

/-! ## Putting an object -/

/-- The fabric with one object put under an identity. -/
def put (f : Fabric) (id : NativeId) : Object → Fabric
  | .context c => { f with contexts := f.contexts.insert id c }
  | .pd p => { f with pds := f.pds.insert id p }
  | .region r => { f with regions := f.regions.insert id r }
  | .channel c => { f with channels := f.channels.insert id c }
  | .cq q => { f with cqs := f.cqs.insert id q }
  | .srq s => { f with srqs := f.srqs.insert id s }
  | .qp q => { f with qps := f.qps.insert id q, qpNumbers := f.qpNumbers.insert q.number id }

/-- No work has queued up at the object. -/
def Object.IsNew : Object → Prop
  | .channel c => c.asCreated = c
  | .cq q => q.asCreated = q
  | .srq s => s.asCreated = s
  | .qp q => q.cleared = q
  | _ => True

/-- Putting a new object under the next identity adds it, once the counters have moved on. -/
theorem put_adds {f : Fabric} {o : Object} (hnew : o.IsNew)
    (hfree : ∀ number, o.number? = some number → f.qpNumbers.find? number = none)
    (nextKey : UInt32) {nextQpNumber : UInt32}
    (hcandidate : IsQpNumber f.nextQpNumber → IsQpNumber nextQpNumber) :
    f.Adds { f.put f.nextId o with nextId := f.nextId + 1, nextKey, nextQpNumber } o := by
  constructor
  case objects =>
    intro kind id
    cases o <;> cases kind <;> by_cases hid : id = f.nextId <;>
      simp_all [put, object?, Object.kind, Object.IsNew]
  case numbers =>
    intro number
    cases o with
    | qp q => simp [put, Object.number?, Table.find?_insert, eq_comm]
    | _ => simp [put, Object.number?]
  case free => exact hfree
  case candidate => exact hcandidate
  case nextId => rfl
  case devices => cases o <;> rfl

/-! ## What a passed check tells -/

theorem context_eq_ok {f : Fabric} {id : NativeId} {c : Context} :
    f.context id = .ok c ↔ f.contexts.find? id = some c := by
  unfold context
  cases f.contexts.find? id <;> simp

theorem contextOfPd_eq_ok {f : Fabric} {pd : NativeId} {c : Context} :
    f.contextOfPd pd = .ok c ↔
      ∃ p, f.pds.find? pd = some p ∧ f.contexts.find? p.context = some c := by
  unfold contextOfPd contextOfPd?
  cases f.pds.find? pd <;> simp [context_eq_ok]

/-- A live context supports what is created under it. -/
theorem belongs_of_context {f : Fabric} {id : NativeId} {c : Context}
    (hc : f.contexts.find? id = some c) : f.Belongs .context id id :=
  .context (c := c) (by simp [object?, hc])

theorem belongs_of_pd {f : Fabric} {id : NativeId} {p : ProtectionDomain}
    (hp : f.pds.find? id = some p) : f.Belongs .protectionDomain id p.context :=
  .pd (by simp [object?, hp])

theorem belongs_of_cqInContextOf {f : Fabric} {pd cq : NativeId} {p : ProtectionDomain}
    (hp : f.pds.find? pd = some p) (hcq : f.cqInContextOf pd cq = true) :
    f.Belongs .completionQueue cq p.context := by
  simp only [cqInContextOf, contextOfPd?, hp, Option.map_some, decide_eq_true_eq,
    Option.map_eq_some_iff] at hcq
  obtain ⟨q, hq, hctx⟩ := hcq
  exact hctx ▸ .cq (q := q.asCreated) (by simp [object?, hq])

theorem belongs_of_srqInContextOf {f : Fabric} {pd srq : NativeId} {p : ProtectionDomain}
    (hp : f.pds.find? pd = some p) (hsrq : f.srqInContextOf pd srq = true) :
    f.Belongs .sharedReceiveQueue srq p.context := by
  unfold srqInContextOf at hsrq
  split at hsrq
  case h_2 => cases hsrq
  case h_1 ctx hfound =>
    simp only [contextOfPd?, hp, Option.map_some, decide_eq_true_eq, Option.some.injEq] at hsrq
    simp only [contextOfPd?, Option.bind_eq_some_iff, Option.map_eq_some_iff] at hfound
    obtain ⟨s, hs, p', hp', rfl⟩ := hfound
    rw [hsrq]
    exact .srq (s := s.asCreated) (by simp [object?, hs])
      (by simpa [object?, SharedQueue.asCreated] using hp')

/-- A completion queue is created under a live context, and its channel belongs to that. -/
theorem checkCq_eq_ok {f : Fabric} {ctx : NativeId} {depth capacity : UInt32}
    {channel : Option NativeId} {vector : Int32}
    (hcheck : f.checkCq ctx depth channel vector = .ok capacity) :
    f.Belongs .context ctx ctx ∧
      ∀ c, channel = some c → f.Belongs .completionChannel c ctx := by
  obtain ⟨c, hc, hcheck⟩ := bind_eq_ok.1 hcheck
  refine ⟨belongs_of_context (context_eq_ok.1 hc), ?_⟩
  rintro channel rfl
  -- the checks of depth and vector come before that of the channel
  obtain ⟨-, hcheck⟩ := refuse_eq_ok.1 hcheck
  obtain ⟨-, hcheck⟩ := refuse_eq_ok.1 hcheck
  obtain ⟨hchannel, -⟩ := refuse_eq_ok.1 hcheck
  obtain ⟨ch, hch, rfl⟩ := Option.map_eq_some_iff.1 (Decidable.not_not.1 hchannel)
  exact .channel (c := ch.asCreated) (by simp [object?, hch])

/-- All that a queue pair is created with belongs to the context of its protection domain. -/
theorem checkQp_eq_ok {f : Fabric} {pd : NativeId} {init : NativeQpInit}
    (hcheck : f.checkQp pd init = .ok ()) :
    ∃ ctx, f.Belongs .protectionDomain pd ctx ∧ f.Belongs .completionQueue init.sendCq ctx ∧
      f.Belongs .completionQueue init.recvCq ctx ∧
      ∀ s, init.srq = some s → f.Belongs .sharedReceiveQueue s ctx := by
  obtain ⟨c, hc, hcheck⟩ := bind_eq_ok.1 hcheck
  obtain ⟨p, hp, -⟩ := contextOfPd_eq_ok.1 hc
  obtain ⟨hcqs, hcheck⟩ := refuse_eq_ok.1 hcheck
  obtain ⟨hsrq, -⟩ := refuse_eq_ok.1 hcheck
  simp only [Bool.or_eq_true, Bool.not_eq_true', not_or, Bool.not_eq_false] at hcqs hsrq
  refine ⟨p.context, belongs_of_pd hp, belongs_of_cqInContextOf hp hcqs.1,
    belongs_of_cqInContextOf hp hcqs.2, fun s hs => belongs_of_srqInContextOf hp ?_⟩
  simpa [hs] using hsrq

end Fabric

namespace Host

open Fabric (Object)

/-- What creating comes to: a refusal that changes nothing, or one object more. The answer and the
identity of the object are as `describes` says. -/
inductive Created {α : Type} (h : Host) (describes : α → NativeId → Object → Prop) :
    Except OsError α × Host → Prop
  | refused (cause : OsError) : Created h describes (.error cause, h)
  | made {a : α} (o : Object) (nextKey nextQpNumber : UInt32) :
      describes a h.fabric.nextId o → o.IsNew →
      (∀ number, o.number? = some number → h.fabric.qpNumbers.find? number = none) →
      (Fabric.IsQpNumber h.fabric.nextQpNumber → Fabric.IsQpNumber nextQpNumber) →
      h.fabric.Supports o →
      Created h describes
        (.ok a, { h with
          fabric := { h.fabric.put h.fabric.nextId o with
            nextId := h.fabric.nextId + 1, nextKey, nextQpNumber } })

/-- What was created is there, under the next identity. -/
theorem Created.object {h : Host} {α : Type} {describes : α → NativeId → Object → Prop}
    {result : Except OsError α × Host} (hc : h.Created describes result) {a : α}
    (ha : result.1 = .ok a) : ∃ o, describes a h.fabric.nextId o ∧
      result.2.fabric.object? o.kind h.fabric.nextId = some o := by
  cases hc with
  | refused => cases ha
  | made o nextKey nextQpNumber hdescribes hnew hfree hcandidate =>
      obtain rfl := Except.ok.inj ha
      exact ⟨o, hdescribes, (Fabric.put_adds hnew hfree nextKey hcandidate).object_new⟩

/-- What is under the next identity afterwards was created. -/
theorem Created.of_object {h : Host} {α : Type} {describes : α → NativeId → Object → Prop}
    {result : Except OsError α × Host} (hc : h.Created describes result) (hf : h.fabric.Sound)
    {kind : ResourceKind} {o : Object}
    (ho : result.2.fabric.object? kind h.fabric.nextId = some o) :
    ∃ a, result.1 = .ok a ∧ describes a h.fabric.nextId o := by
  have hnone := hf.next_free kind
  cases hc with
  | refused =>
      rw [hnone] at ho
      cases ho
  | made o' nextKey nextQpNumber hdescribes hnew hfree hcandidate =>
      rcases (Fabric.put_adds hnew hfree nextKey hcandidate).object_cases ho with
        ⟨-, -, rfl⟩ | hold
      · exact ⟨_, rfl, hdescribes⟩
      · rw [hnone] at hold
        cases hold

theorem openDevice_created (h : Host) (device : ListedDevice) :
    h.Created
      (fun id next o => id = next ∧
        ∃ d, h.fabric.devices.find? (·.uid = device.native) = some d ∧
          o = .context { deviceUid := d.uid, config := d.config })
      (openDevice device h) := by
  refine Step.guarded_cases (fun cause _ => .refused cause) fun d hfound => ?_
  have hdevice : h.fabric.devices.find? (·.uid = device.native) = some d := by
    split at hfound
    case h_1 hd => rw [hd, Except.ok.inj hfound]
    case h_2 => cases hfound
  exact .made (.context { deviceUid := d.uid, config := d.config }) h.fabric.nextKey
    h.fabric.nextQpNumber ⟨rfl, d, hdevice, rfl⟩ trivial nofun id ⟨0, nofun⟩

theorem allocPd_created (h : Host) (ctx : NativeId) :
    h.Created (fun id next o => id = next ∧ o = .pd { context := ctx }) (allocPd ctx h) := by
  refine Step.guarded_cases (fun cause _ => .refused cause) fun _ hcheck => ?_
  obtain ⟨c, hc, -⟩ := bind_eq_ok.1 hcheck
  have hctx := Fabric.belongs_of_context (Fabric.context_eq_ok.1 hc)
  exact .made (.pd { context := ctx }) h.fabric.nextKey h.fabric.nextQpNumber ⟨rfl, rfl⟩ trivial
    nofun id ⟨ctx, by simpa [Object.references] using hctx⟩

theorem createChannel_created (h : Host) (ctx : NativeId) :
    h.Created (fun id next o => id = next ∧ o = .channel { context := ctx })
      (createChannel ctx h) := by
  refine Step.guarded_cases (fun cause _ => .refused cause) fun _ hcheck => ?_
  obtain ⟨c, hc, -⟩ := bind_eq_ok.1 hcheck
  have hctx := Fabric.belongs_of_context (Fabric.context_eq_ok.1 hc)
  exact .made (.channel { context := ctx }) h.fabric.nextKey h.fabric.nextQpNumber ⟨rfl, rfl⟩ rfl
    nofun id ⟨ctx, by simpa [Object.references] using hctx⟩

theorem createCq_created (h : Host) (ctx : NativeId) (depth : UInt32) (channel : Option NativeId)
    (cookie : UInt64) (vector : Int32) :
    h.Created
      (fun grant next o => grant.native = next ∧
        o = .cq { context := ctx, channel, cookie, capacity := grant.capacity })
      (createCq ctx depth channel cookie vector h) := by
  refine Step.guarded_cases (fun cause _ => .refused cause) fun capacity hcheck => ?_
  obtain ⟨hctx, hchannel⟩ := Fabric.checkCq_eq_ok hcheck
  refine .made (.cq { context := ctx, channel, cookie, capacity }) h.fabric.nextKey
    h.fabric.nextQpNumber ⟨rfl, rfl⟩ rfl nofun id ⟨ctx, fun r hr => ?_⟩
  rcases List.mem_cons.1 hr with rfl | hr
  · exact hctx
  · cases channel with
    | none => cases hr
    | some c =>
        obtain rfl := List.mem_singleton.1 hr
        exact hchannel c rfl

theorem regMr_created (h : Host) (pd : NativeId) (addr length : UInt64) (permission : Permission) :
    h.Created
      (fun grant next o => grant.native = next ∧
        ∃ r : Fabric.Region, o = .region r ∧ r.pd = pd ∧ r.info = grant.info ∧
          r.length = length ∧ r.permission = permission)
      (regMr pd addr length permission h) := by
  refine Step.guarded_cases (fun cause _ => .refused cause) fun _ hcheck => ?_
  obtain ⟨c, hc, -⟩ := bind_eq_ok.1 hcheck
  obtain ⟨p, hp, -⟩ := Fabric.contextOfPd_eq_ok.1 hc
  -- one key serves for local and for remote access
  let key := h.fabric.nextKey
  refine .made (.region { pd, addr, length, permission, lkey := key, rkey := key })
    h.fabric.allocKey.2.nextKey h.fabric.nextQpNumber ⟨rfl, _, rfl, rfl, rfl, rfl, rfl⟩ trivial nofun
    id ⟨p.context, ?_⟩
  simpa [Object.references] using Fabric.belongs_of_pd hp

theorem createSrq_created (h : Host) (pd : NativeId) (init : SrqInit) :
    h.Created
      (fun id next o => id = next ∧
        o = .srq { pd, maxWr := init.maxWr, maxSge := init.maxSge })
      (createSrq pd init h) := by
  refine Step.guarded_cases (fun cause _ => .refused cause) fun _ hcheck => ?_
  obtain ⟨c, hc, -⟩ := bind_eq_ok.1 hcheck
  obtain ⟨p, hp, -⟩ := Fabric.contextOfPd_eq_ok.1 hc
  refine .made (.srq { pd, maxWr := init.maxWr, maxSge := init.maxSge }) h.fabric.nextKey
    h.fabric.nextQpNumber ⟨rfl, rfl⟩ rfl nofun id ⟨p.context, ?_⟩
  simpa [Object.references] using Fabric.belongs_of_pd hp

/-- A new queue pair has a number nobody uses, and what it refers to is of its own context. -/
theorem createQp_created (h : Host) (pd : NativeId) (init : NativeQpInit) :
    h.Created
      (fun grant next o => grant.native = next ∧
        o = .qp
          { pd, number := grant.number, transport := init.transport, sendCq := init.sendCq,
            recvCq := init.recvCq, srq := init.srq, signalAll := init.signalAll,
            caps := init.caps })
      (createQp pd init h) := by
  refine Step.guarded_cases (fun cause _ => .refused cause) fun grant hcheck => ?_
  obtain ⟨number, f⟩ := grant
  obtain ⟨⟨⟩, hqp, hnumber⟩ := bind_eq_ok.1 hcheck
  obtain ⟨ctx, hpd, hsend, hrecv, hsrq⟩ := Fabric.checkQp_eq_ok hqp
  have hfound : h.fabric.allocQpNumber? = some (number, f) := by
    cases ha : h.fabric.allocQpNumber? with
    | none => rw [ha] at hnumber; cases hnumber
    | some grant => rw [ha] at hnumber; cases hnumber; rfl
  obtain ⟨hfree, nextQpNumber, rfl, hcandidate⟩ := Fabric.allocQpNumber?_eq_some hfound
  refine .made
    (.qp
      { pd, number, transport := init.transport, sendCq := init.sendCq, recvCq := init.recvCq,
        srq := init.srq, signalAll := init.signalAll, caps := init.caps })
    h.fabric.nextKey nextQpNumber ⟨rfl, rfl⟩ rfl ?_ hcandidate ⟨ctx, fun r hr => ?_⟩
  · rintro number' ⟨⟩
    exact hfree
  · simp only [Object.references, List.mem_cons, Option.mem_toList, Option.map_eq_some_iff] at hr
    -- a domain, the queues for sends and receives, and perhaps a shared queue
    rcases hr with rfl | rfl | rfl | ⟨s, hs, rfl⟩
    · exact hpd
    · exact hsend
    · exact hrecv
    · exact hsrq s hs

end Host

end Rdma
