import Mathlib.Data.List.Nodup
import Mathlib.Order.Monotone.Basic
import Mathlib.Tactic.Simps.Basic
import Rdma.Fabric.Devices
import Rdma.Fabric.Object
import Rdma.Fabric.QueuePairs
import Rdma.Fabric.Queues
import Rdma.Fabric.Regions

/-!
# Fabrics under other identities

Identities are drawn from one counter, for devices too, so what is attached in between shifts those
of all objects to come. A relocation gives every identity a new one, in the same order; a fabric that
was moved has the same objects in the same places of its tables, under the new identities, and other
devices. What is looked up or counted in it is the same, up to the relocation.

* `Table.find?_rekey` and the like — tables with other keys and values;
* `Relocation`, `Fabric.moved` — other identities for all objects;
* `checkQp_moved` and the like — no check can tell;
* `moved_eq` — where no identity in use moves, little changes.
-/

namespace Rdma

/-! ## Tables with other keys -/

namespace Table

variable {κ κ' α β : Type}

/-- The table with other keys and other values in the same places. -/
def rekey (t : Table κ α) (key : κ → κ') (inj : key.Injective) (value : α → β) : Table κ' β where
  entries := t.entries.map fun e => (key e.1, value e.2)
  distinct := by
    have keys : t.entries.map ((·.1) ∘ fun e => (key e.1, value e.2)) =
        (t.entries.map (·.1)).map key := by rw [List.map_map]; rfl
    rw [List.map_map, keys]
    exact List.Nodup.map inj t.distinct

theorem ext_entries {t t' : Table κ α} (same : t.entries = t'.entries) : t = t' := by
  obtain ⟨entries, distinct⟩ := t
  cases same
  rfl

variable (t : Table κ α) {key : κ → κ'} (inj : key.Injective) (value : α → β)

theorem values_rekey : (t.rekey key inj value).values = t.values.map value := by
  simp only [values, rekey, List.map_map]
  rfl

@[simp] theorem size_rekey : (t.rekey key inj value).size = t.size := List.length_map _

theorem count_rekey (p : β → Bool) : (t.rekey key inj value).count p = t.count (p ∘ value) := by
  rw [count, values_rekey, List.countP_map]
  rfl

theorem total_rekey (weight : β → Nat) :
    (t.rekey key inj value).total weight = t.total (weight ∘ value) := by
  rw [total, values_rekey, total]
  induction t.values with
  | nil => rfl
  | cons a rest ih => exact congrArg (_ + ·) ih

variable [DecidableEq κ] [DecidableEq κ']

@[simp] theorem find?_rekey (k : κ) :
    (t.rekey key inj value).find? (key k) = (t.find? k).map value := by
  simp only [find?, rekey, List.find?_map, Option.map_map]
  have same : ((fun e : κ' × β => decide (e.1 = key k)) ∘ fun e : κ × α => (key e.1, value e.2)) =
      fun e => decide (e.1 = k) := by
    funext e
    exact decide_eq_decide.2 inj.eq_iff
  rw [same]
  rfl

@[simp] theorem contains_rekey (k : κ) :
    (t.rekey key inj value).contains (key k) = t.contains k := by
  rw [contains, find?_rekey, Option.isSome_map]
  rfl

/-- A change moves along if it means the same of the new value. -/
theorem modify_rekey (k : κ) {change : α → α} {change' : β → β}
    (same : ∀ a, change' (value a) = value (change a)) :
    (t.rekey key inj value).modify (key k) change' = (t.modify k change).rekey key inj value := by
  refine ext_entries ?_
  simp only [modify, rekey, List.map_map]
  refine List.map_congr_left fun e _ => ?_
  by_cases hk : e.1 = k
  · simp [hk, same]
  · simp [hk, inj.eq_iff]

theorem insert_rekey (k : κ) (a : α) :
    (t.rekey key inj value).insert (key k) (value a) = (t.insert k a).rekey key inj value := by
  unfold insert
  simp only [contains_rekey]
  split
  · exact t.modify_rekey inj value k fun _ => rfl
  · exact ext_entries (by simp [rekey])

theorem erase_rekey (k : κ) :
    (t.rekey key inj value).erase (key k) = (t.erase k).rekey key inj value := by
  refine ext_entries ?_
  simp only [erase, rekey, List.filter_map]
  refine congrArg _ (List.filter_congr fun e _ => ?_)
  exact decide_eq_decide.2 inj.ne_iff

/-- Where nothing gets a new key or value, the table stays as it is. -/
theorem rekey_eq_self {key : κ → κ} (inj : key.Injective) {value : α → α}
    (same : ∀ k a, t.find? k = some a → key k = k ∧ value a = a) : t.rekey key inj value = t := by
  refine ext_entries ((List.map_congr_left fun e member => ?_).trans (List.map_id _))
  obtain ⟨k, a⟩ := e
  obtain ⟨hkey, hvalue⟩ := same k a (mem_entries.1 member)
  exact Prod.ext hkey hvalue

end Table

/-! ## Relocations -/

/-- New identities in the place of old ones, in the same order. From `first` on, what followed on an
identity still does. -/
structure Relocation where
  move : NativeId → NativeId
  first : NativeId
  mono : StrictMono move
  null : move 0 = 0
  steady : ∀ id, first ≤ id → move (id + 1) = move id + 1
  /-- The devices that are attached in the place of others. -/
  devices : List Fabric.Device → List Fabric.Device
  /-- What had happened before all else. -/
  past : List Event

variable (m : Relocation)

namespace Relocation

theorem injective : m.move.Injective := m.mono.injective

@[simp] theorem move_inj {id id' : NativeId} : m.move id = m.move id' ↔ id = id' :=
  m.injective.eq_iff

@[simp] theorem map_move_inj {id id' : Option NativeId} :
    id.map m.move = id'.map m.move ↔ id = id' := (Option.map_injective m.injective).eq_iff

@[simp] theorem map_move_eq_some {id : Option NativeId} {id' : NativeId} :
    id.map m.move = some (m.move id') ↔ id = some id' :=
  (Option.map_injective m.injective).eq_iff (b := some id')

@[simp] theorem move_eq_null {id : NativeId} : m.move id = NativeId.null ↔ id = NativeId.null := by
  have hnull : m.move NativeId.null = NativeId.null := m.null
  exact ⟨fun h => m.injective (h.trans hnull.symm), fun h => h ▸ hnull⟩

end Relocation

namespace Fabric

@[simps] def ProtectionDomain.moved (p : ProtectionDomain) : ProtectionDomain :=
  { p with context := m.move p.context }

@[simps] def Region.moved (r : Region) : Region := { r with pd := m.move r.pd }

end Fabric

@[simps] def CqEvent.moved (e : CqEvent) : CqEvent := { e with cq := m.move e.cq }

def RecvQueue.moved : RecvQueue → RecvQueue
  | .ofQp qp => .ofQp (m.move qp)
  | .shared srq => .shared (m.move srq)

def NativeQpInit.moved (init : NativeQpInit) : NativeQpInit :=
  { init with
    sendCq := m.move init.sendCq
    recvCq := m.move init.recvCq
    srq := init.srq.map m.move }

namespace Fabric

@[simps] def Channel.moved (c : Channel) : Channel :=
  { c with context := m.move c.context, pending := c.pending.map (·.moved m) }

@[simps] def CompletionQueue.moved (q : CompletionQueue) : CompletionQueue :=
  { q with context := m.move q.context, channel := q.channel.map m.move }

@[simps] def SharedQueue.moved (s : SharedQueue) : SharedQueue := { s with pd := m.move s.pd }

@[simps] def QueuePair.moved (q : QueuePair) : QueuePair :=
  { q with
    pd := m.move q.pd
    sendCq := m.move q.sendCq
    recvCq := m.move q.recvCq
    srq := q.srq.map m.move }

/-- The fabric under other identities, with other devices. -/
def moved (f : Fabric) : Fabric where
  devices := m.devices f.devices
  contexts := f.contexts.rekey m.move m.injective id
  pds := f.pds.rekey m.move m.injective (·.moved m)
  regions := f.regions.rekey m.move m.injective (·.moved m)
  channels := f.channels.rekey m.move m.injective (·.moved m)
  cqs := f.cqs.rekey m.move m.injective (·.moved m)
  srqs := f.srqs.rekey m.move m.injective (·.moved m)
  qps := f.qps.rekey m.move m.injective (·.moved m)
  qpNumbers := f.qpNumbers.rekey id Function.injective_id m.move
  nextId := m.move f.nextId
  nextKey := f.nextKey
  nextQpNumber := f.nextQpNumber

variable (f : Fabric)

/-! ## Look-ups -/

@[simp] theorem context?_moved (id : NativeId) :
    (f.moved m).contexts.find? (m.move id) = f.contexts.find? id := by
  simp [moved]

@[simp] theorem pd?_moved (id : NativeId) :
    (f.moved m).pds.find? (m.move id) = (f.pds.find? id).map (·.moved m) := by
  simp [moved]

@[simp] theorem channel?_moved (id : NativeId) :
    (f.moved m).channels.find? (m.move id) = (f.channels.find? id).map (·.moved m) := by
  simp [moved]

@[simp] theorem cq?_moved (id : NativeId) :
    (f.moved m).cqs.find? (m.move id) = (f.cqs.find? id).map (·.moved m) := by
  simp [moved]

@[simp] theorem srq?_moved (id : NativeId) :
    (f.moved m).srqs.find? (m.move id) = (f.srqs.find? id).map (·.moved m) := by
  simp [moved]

@[simp] theorem qp?_moved (id : NativeId) :
    (f.moved m).qps.find? (m.move id) = (f.qps.find? id).map (·.moved m) := by
  simp [moved]

@[simp] theorem qpByNumber?_moved (number : UInt32) :
    (f.moved m).qpByNumber? number = (f.qpByNumber? number).map m.move :=
  f.qpNumbers.find?_rekey Function.injective_id m.move number

@[simp] theorem context_moved (id : NativeId) : (f.moved m).context (m.move id) = f.context id := by
  simp only [context, context?_moved]

@[simp] theorem contextOfPd?_moved (pd : NativeId) :
    (f.moved m).contextOfPd? (m.move pd) = (f.contextOfPd? pd).map m.move := by
  simp only [contextOfPd?, pd?_moved, Option.map_map]
  rfl

@[simp] theorem contextOfPd_moved (pd : NativeId) :
    (f.moved m).contextOfPd (m.move pd) = f.contextOfPd pd := by
  simp only [contextOfPd, contextOfPd?_moved]
  cases f.contextOfPd? pd with
  | none => rfl
  | some id => exact f.context_moved m id

@[simp] theorem sameContext_moved (pd other : NativeId) :
    (f.moved m).sameContext (m.move pd) (m.move other) = f.sameContext pd other := by
  simp only [sameContext, contextOfPd?_moved]
  exact decide_eq_decide.2 m.map_move_inj

theorem region?_moved (pd : NativeId) (p : Region → Bool) :
    (f.moved m).regions.values.find? (fun r => r.pd = m.move pd && p r) =
      (f.regions.values.find? fun r => r.pd = pd && p (r.moved m)).map (·.moved m) := by
  simp only [moved, Table.values_rekey, List.find?_map]
  refine congrArg _ (congrArg (List.find? · _) (funext fun r => ?_))
  simp

@[simp] theorem localRegion?_moved (pd : NativeId) (sge : Sge) :
    (f.moved m).localRegion? (m.move pd) sge = (f.localRegion? pd sge).map (·.moved m) := by
  simp only [localRegion?, Bool.and_assoc]
  exact f.region?_moved m pd fun r => r.lkey = sge.lkey && r.covers sge.addr sge.length.toNat

@[simp] theorem remoteRegion?_moved (pd : NativeId) (target : RemoteAddress) (length : Nat) :
    (f.moved m).remoteRegion? (m.move pd) target length =
      (f.remoteRegion? pd target length).map (·.moved m) := by
  simp only [remoteRegion?, Bool.and_assoc]
  exact f.region?_moved m pd fun r => r.rkey = target.rkey && r.covers target.addr length

@[simp] theorem recvQueueOf_moved (id : NativeId) (qp : QueuePair) :
    recvQueueOf (m.move id) (qp.moved m) = (recvQueueOf id qp).moved m := by
  unfold recvQueueOf
  cases hsrq : qp.srq <;> simp [hsrq, RecvQueue.moved]

@[simp] theorem recvRequests_moved (queue : RecvQueue) :
    (f.moved m).recvRequests (queue.moved m) = f.recvRequests queue := by
  cases queue with
  | ofQp id => simp only [RecvQueue.moved, recvRequests, qp?_moved, Option.map_map]; rfl
  | shared srq => simp only [RecvQueue.moved, recvRequests, srq?_moved, Option.map_map]; rfl

/-! ## Changes -/

section Changes

variable (id : NativeId)

theorem updateQp_moved {change change' : QueuePair → QueuePair}
    (same : ∀ q, change' (q.moved m) = (change q).moved m) :
    (f.moved m).updateQp (m.move id) change' = (f.updateQp id change).moved m := by
  simp only [updateQp, moved, f.qps.modify_rekey m.injective _ id same]

theorem updateCq_moved {change change' : CompletionQueue → CompletionQueue}
    (same : ∀ q, change' (q.moved m) = (change q).moved m) :
    (f.moved m).updateCq (m.move id) change' = (f.updateCq id change).moved m := by
  simp only [updateCq, moved, f.cqs.modify_rekey m.injective _ id same]

theorem updateChannel_moved {change change' : Channel → Channel}
    (same : ∀ c, change' (c.moved m) = (change c).moved m) :
    (f.moved m).updateChannel (m.move id) change' = (f.updateChannel id change).moved m := by
  simp only [updateChannel, moved, f.channels.modify_rekey m.injective _ id same]

theorem modifySrq_moved {change change' : SharedQueue → SharedQueue}
    (same : ∀ s, change' (s.moved m) = (change s).moved m) :
    { f.moved m with srqs := (f.moved m).srqs.modify (m.move id) change' } =
      { f with srqs := f.srqs.modify id change }.moved m := by
  simp only [moved, f.srqs.modify_rekey m.injective _ id same]

end Changes

theorem setRecvRequests_moved (requests : List RecvRequest) (queue : RecvQueue) :
    (f.moved m).setRecvRequests requests (queue.moved m) =
      (f.setRecvRequests requests queue).moved m := by
  cases queue with
  | ofQp id => exact f.updateQp_moved m id fun _ => rfl
  | shared srq => exact f.modifySrq_moved m srq fun _ => rfl

/-! ## Counts and checks -/

theorem contextUsage_moved (id : NativeId) :
    (f.moved m).contextUsage (m.move id) = f.contextUsage id := by
  simp [contextUsage, moved, Table.count_rekey, Function.comp_def]

theorem pdUsage_moved (id : NativeId) : (f.moved m).pdUsage (m.move id) = f.pdUsage id := by
  simp [pdUsage, moved, Table.count_rekey, Function.comp_def]

@[simp] theorem regionsInContextOf_moved (pd : NativeId) :
    (f.moved m).regionsInContextOf (m.move pd) = f.regionsInContextOf pd := by
  refine (f.regions.count_rekey m.injective _ _).trans
    (congrArg f.regions.count (funext fun r => ?_))
  exact f.sameContext_moved m pd r.pd

@[simp] theorem srqsInContextOf_moved (pd : NativeId) :
    (f.moved m).srqsInContextOf (m.move pd) = f.srqsInContextOf pd := by
  refine (f.srqs.count_rekey m.injective _ _).trans (congrArg f.srqs.count (funext fun s => ?_))
  exact f.sameContext_moved m pd s.pd

@[simp] theorem qpsInContextOf_moved (pd : NativeId) :
    (f.moved m).qpsInContextOf (m.move pd) = f.qpsInContextOf pd := by
  refine (f.qps.count_rekey m.injective _ _).trans (congrArg f.qps.count (funext fun q => ?_))
  exact f.sameContext_moved m pd q.pd

@[simp] theorem srqInContextOf_moved (pd srq : NativeId) :
    (f.moved m).srqInContextOf (m.move pd) (m.move srq) = f.srqInContextOf pd srq := by
  simp only [srqInContextOf, srq?_moved]
  cases f.srqs.find? srq with
  | none => rfl
  | some s =>
      simp only [Option.map_some, Option.bind_some, SharedQueue.moved_pd, contextOfPd?_moved]
      cases f.contextOfPd? s.pd with
      | none => rfl
      | some ctx =>
          exact decide_eq_decide.2 m.map_move_eq_some

@[simp] theorem cqInContextOf_moved (pd cq : NativeId) :
    (f.moved m).cqInContextOf (m.move pd) (m.move cq) = f.cqInContextOf pd cq := by
  have hcontext : ((f.moved m).cqs.find? (m.move cq)).map (·.context) =
      ((f.cqs.find? cq).map (·.context)).map m.move := by
    rw [cq?_moved, Option.map_map, Option.map_map]
    rfl
  simp only [cqInContextOf, hcontext, contextOfPd?_moved]
  exact decide_eq_decide.2 m.map_move_inj

theorem checkRegion_moved (pd : NativeId) (addr length : UInt64) (permission : Permission) :
    (f.moved m).checkRegion (m.move pd) addr length permission =
      f.checkRegion pd addr length permission := by
  simp only [checkRegion, contextOfPd_moved, regionsInContextOf_moved]

theorem checkSrq_moved (pd : NativeId) (init : SrqInit) :
    (f.moved m).checkSrq (m.move pd) init = f.checkSrq pd init := by
  simp only [checkSrq, contextOfPd_moved, srqsInContextOf_moved]

theorem checkCq_moved (context : NativeId) (depth : UInt32) (channel : Option NativeId)
    (vector : Int32) :
    (f.moved m).checkCq (m.move context) depth (channel.map m.move) vector =
      f.checkCq context depth channel vector := by
  have hcount : (f.moved m).cqs.count (·.context = m.move context) =
      f.cqs.count (·.context = context) := by
    refine (f.cqs.count_rekey m.injective _ _).trans (congrArg f.cqs.count (funext fun q => ?_))
    exact decide_eq_decide.2 m.move_inj
  -- the channel has to be of the same context, and both move
  have hchannel (c : NativeId) : ((f.moved m).channels.find? (m.move c)).map (·.context) =
      some (m.move context) ↔ (f.channels.find? c).map (·.context) = some context := by
    have hcontext : ((f.moved m).channels.find? (m.move c)).map (·.context) =
        ((f.channels.find? c).map (·.context)).map m.move := by
      rw [channel?_moved, Option.map_map, Option.map_map]
      rfl
    rw [hcontext]
    exact m.map_move_eq_some
  cases channel with
  | none => simp only [checkCq, context_moved, hcount, Option.map_none]
  | some c => simp only [checkCq, context_moved, hcount, Option.map_some, ne_eq, hchannel]

theorem checkQp_moved (pd : NativeId) (init : NativeQpInit) :
    (f.moved m).checkQp (m.move pd) (init.moved m) = f.checkQp pd init := by
  have hsrq : (init.srq.map m.move).all ((f.moved m).srqInContextOf (m.move pd)) =
      init.srq.all (f.srqInContextOf pd) := by
    cases init.srq <;> simp
  have hcaps (d : DeviceConfig) : capsAccepted d (init.moved m) = capsAccepted d init := by
    obtain ⟨_, _, srq, _⟩ := init
    cases srq <;> rfl
  simp only [checkQp, hcaps]
  simp only [NativeQpInit.moved, contextOfPd_moved, cqInContextOf_moved, hsrq,
    qpsInContextOf_moved]

theorem checkCqUnused_moved (id : NativeId) :
    (f.moved m).checkCqUnused (m.move id) = (f.checkCqUnused id).map (·.moved m) := by
  have hany : (f.moved m).qps.values.any (fun qp => qp.sendCq = m.move id || qp.recvCq = m.move id) =
      f.qps.values.any fun qp => qp.sendCq = id || qp.recvCq = id := by
    simp [moved, Table.values_rekey, List.any_map, Function.comp_def]
  simp only [checkCqUnused, cq?_moved, hany]
  cases f.cqs.find? id with
  | none => rfl
  | some q =>
      simp only [Option.map_some, CompletionQueue.moved_unacknowledged]
      split
      · rfl
      split <;> rfl

theorem contextWithPort_moved (id : NativeId) (port : UInt8) :
    (f.moved m).contextWithPort (m.move id) port = f.contextWithPort id port := by
  simp only [contextWithPort, context_moved]

theorem allocQpNumber?_moved :
    (f.moved m).allocQpNumber? = f.allocQpNumber?.map fun grant => (grant.1, grant.2.moved m) := by
  have hfree (tries : Nat) (candidate : UInt32) :
      freeQpNumber? (f.moved m).qpNumbers tries candidate =
        freeQpNumber? f.qpNumbers tries candidate := by
    induction tries generalizing candidate with
    | zero => rfl
    | succ n ih =>
        have hcontains : (f.moved m).qpNumbers.contains candidate = f.qpNumbers.contains candidate :=
          f.qpNumbers.contains_rekey Function.injective_id m.move candidate
        simp only [freeQpNumber?, hcontains, ih]
  have hsize : (f.moved m).qpNumbers.size = f.qpNumbers.size :=
    f.qpNumbers.size_rekey Function.injective_id m.move
  simp only [allocQpNumber?, hfree, hsize, Option.map_map]
  rfl

/-! ## Where nothing moves -/

/-- What the object refers to keeps its identity. -/
def Object.Stays (m : Relocation) (o : Object) : Prop := ∀ r ∈ o.references, m.move r.2 = r.2

section Stays

variable {m}

theorem map_move_eq_self {found : Option NativeId} (hstays : ∀ id ∈ found, m.move id = id) :
    found.map m.move = found := by
  cases found with
  | none => rfl
  | some id => exact congrArg some (hstays id rfl)

theorem ProtectionDomain.moved_eq_self {p : ProtectionDomain} (hstays : (Object.pd p).Stays m) :
    p.moved m = p := by
  have hcontext : m.move p.context = p.context :=
    hstays (.context, p.context) (by simp [Object.references])
  simp only [ProtectionDomain.moved, hcontext]

theorem Region.moved_eq_self {r : Region} (hstays : (Object.region r).Stays m) : r.moved m = r := by
  have hpd : m.move r.pd = r.pd := hstays (.protectionDomain, r.pd) (by simp [Object.references])
  simp only [Region.moved, hpd]

theorem Channel.moved_eq_self {c : Channel} (hstays : (Object.channel c.asCreated).Stays m)
    (hpending : ∀ e ∈ c.pending, m.move e.cq = e.cq) : c.moved m = c := by
  have hcontext : m.move c.context = c.context :=
    hstays (.context, c.context) (by simp [Object.references, Channel.asCreated])
  have hevents : c.pending.map (·.moved m) = c.pending := by
    refine (List.map_congr_left fun e he => ?_).trans (List.map_id _)
    simp only [CqEvent.moved, hpending e he, id_eq]
  simp only [Channel.moved, hcontext, hevents]

theorem CompletionQueue.moved_eq_self {q : CompletionQueue}
    (hstays : (Object.cq q.asCreated).Stays m) : q.moved m = q := by
  have hcontext : m.move q.context = q.context :=
    hstays (.context, q.context) (by simp [Object.references, CompletionQueue.asCreated])
  have hchannel : q.channel.map m.move = q.channel := map_move_eq_self fun id hid =>
    hstays (.completionChannel, id)
      (by simpa [Object.references, CompletionQueue.asCreated] using hid)
  simp only [CompletionQueue.moved, hcontext, hchannel]

theorem SharedQueue.moved_eq_self {s : SharedQueue} (hstays : (Object.srq s.asCreated).Stays m) :
    s.moved m = s := by
  have hpd : m.move s.pd = s.pd :=
    hstays (.protectionDomain, s.pd) (by simp [Object.references, SharedQueue.asCreated])
  simp only [SharedQueue.moved, hpd]

theorem QueuePair.moved_eq_self {q : QueuePair} (hstays : (Object.qp q.cleared).Stays m) :
    q.moved m = q := by
  have hpd : m.move q.pd = q.pd :=
    hstays (.protectionDomain, q.pd) (by simp [Object.references, QueuePair.cleared])
  have hsend : m.move q.sendCq = q.sendCq :=
    hstays (.completionQueue, q.sendCq) (by simp [Object.references, QueuePair.cleared])
  have hrecv : m.move q.recvCq = q.recvCq :=
    hstays (.completionQueue, q.recvCq) (by simp [Object.references, QueuePair.cleared])
  have hsrq : q.srq.map m.move = q.srq := map_move_eq_self fun id hid =>
    hstays (.sharedReceiveQueue, id) (by simpa [Object.references, QueuePair.cleared] using hid)
  simp only [QueuePair.moved, hpd, hsend, hrecv, hsrq]

end Stays

/-- Where no identity in use moves, only the devices and the counter are other ones. -/
theorem moved_eq
    (hobject : ∀ {kind id o}, f.object? kind id = some o → m.move id = id ∧ o.Stays m)
    (hpending : ∀ {id c}, f.channels.find? id = some c → ∀ e ∈ c.pending, m.move e.cq = e.cq)
    (hnumbers : ∀ {number id}, f.qpNumbers.find? number = some id → m.move id = id) :
    f.moved m = { f with devices := m.devices f.devices, nextId := m.move f.nextId } := by
  have hcontexts : f.contexts.rekey m.move m.injective id = f.contexts := by
    refine f.contexts.rekey_eq_self m.injective fun id c hc => ?_
    have ho : f.object? .context id = some (.context c) := by simp [object?, hc]
    exact ⟨(hobject ho).1, rfl⟩
  have hpds : f.pds.rekey m.move m.injective (·.moved m) = f.pds := by
    refine f.pds.rekey_eq_self m.injective fun id p hp => ?_
    have ho : f.object? .protectionDomain id = some (.pd p) := by simp [object?, hp]
    exact ⟨(hobject ho).1, ProtectionDomain.moved_eq_self (hobject ho).2⟩
  have hregions : f.regions.rekey m.move m.injective (·.moved m) = f.regions := by
    refine f.regions.rekey_eq_self m.injective fun id r hr => ?_
    have ho : f.object? .memoryRegion id = some (.region r) := by simp [object?, hr]
    exact ⟨(hobject ho).1, Region.moved_eq_self (hobject ho).2⟩
  have hchannels : f.channels.rekey m.move m.injective (·.moved m) = f.channels := by
    refine f.channels.rekey_eq_self m.injective fun id c hc => ?_
    have ho : f.object? .completionChannel id = some (.channel c.asCreated) := by simp [object?, hc]
    exact ⟨(hobject ho).1, Channel.moved_eq_self (hobject ho).2 fun e he =>
      hpending hc e he⟩
  have hcqs : f.cqs.rekey m.move m.injective (·.moved m) = f.cqs := by
    refine f.cqs.rekey_eq_self m.injective fun id q hq => ?_
    have ho : f.object? .completionQueue id = some (.cq q.asCreated) := by simp [object?, hq]
    exact ⟨(hobject ho).1, CompletionQueue.moved_eq_self (hobject ho).2⟩
  have hsrqs : f.srqs.rekey m.move m.injective (·.moved m) = f.srqs := by
    refine f.srqs.rekey_eq_self m.injective fun id s hs => ?_
    have ho : f.object? .sharedReceiveQueue id = some (.srq s.asCreated) := by simp [object?, hs]
    exact ⟨(hobject ho).1, SharedQueue.moved_eq_self (hobject ho).2⟩
  have hqps : f.qps.rekey m.move m.injective (·.moved m) = f.qps := by
    refine f.qps.rekey_eq_self m.injective fun id q hq => ?_
    have ho : f.object? .queuePair id = some (.qp q.cleared) := by simp [object?, hq]
    exact ⟨(hobject ho).1, QueuePair.moved_eq_self (hobject ho).2⟩
  have hnumbers : f.qpNumbers.rekey id Function.injective_id m.move = f.qpNumbers := by
    refine f.qpNumbers.rekey_eq_self Function.injective_id fun number id hid => ?_
    exact ⟨rfl, hnumbers hid⟩
  simp only [moved, hcontexts, hpds, hregions, hchannels, hcqs, hsrqs, hqps, hnumbers]

end Fabric

end Rdma
