import Rdma.Fabric.Operation
import Rdma.Proofs.Host.Relocation

/-!
# The journal is written and never read

Nothing that a host does depends on what happened before: with a longer past it does the same and
answers the same, and the past stays below what it writes down (`Blind`). A longer past is a
relocation that moves nothing (`moved_after`), and what goes along with all relocations goes along
with that one, too.
-/

namespace Rdma

/-- Nothing moves, and more had happened before. -/
def Relocation.after (past : List Event) : Relocation where
  move := id
  first := 0
  mono := strictMono_id
  null := rfl
  steady _ _ := rfl
  devices := id
  past := past

namespace Host

/-- The host, if `past` had been written down before all else. -/
def withPast (h : Host) (past : List Event) : Host :=
  { h with journal := ⟨h.journal.newestFirst ++ past⟩ }

variable (h : Host) (past : List Event)

/-- A longer past comes with a relocation that moves nothing. -/
theorem moved_after : h.moved (.after past) = h.withPast past := by
  have hfabric : h.fabric.moved (.after past) = h.fabric :=
    h.fabric.moved_eq (.after past) (fun _ => ⟨rfl, fun _ _ => rfl⟩) (fun _ _ _ => rfl) fun _ => rfl
  have hevent (e : Event) : e.moved (.after past) = e := by
    cases e with
    | recvAccepted queue | recvTaken queue => cases queue <;> rfl
    | _ => rfl
  have hevents : h.journal.newestFirst.map (·.moved (.after past)) = h.journal.newestFirst :=
    (List.map_congr_left fun e _ => hevent e).trans (List.map_id _)
  simp only [moved, withPast, hfabric, hevents]
  rfl

/-- The same answer, on a host with the longer past. -/
def later {α : Type} (past : List Event) : α × Host → α × Host
  | (a, h) => (a, h.withPast past)

/-! ## Verbs -/

/-- The step neither answers nor acts on what was written down before. -/
def Blind {ε α : Type} (work : Step Host ε α) : Prop :=
  ∀ h past, work (h.withPast past) = later past (work h)

theorem blind_guarded {ε α β : Type} {check : Host → Except ε α} {commit : α → Host → β × Host}
    (hcheck : ∀ h past, check (h.withPast past) = check h)
    (hcommit : ∀ a h past, commit a (h.withPast past) = later past (commit a h)) :
    Blind (.guarded check commit) := by
  intro h past
  simp only [Step.guarded, hcheck, hcommit]
  split <;> rfl

/-- What goes along with every relocation does so with a longer past. -/
theorem blind_of_along {ε α : Type} {work : Step Host ε α}
    (hwork : ∀ (h : Host) past, h.Along (.after past) id work work) : Blind work := by
  intro h past
  have hmoved := (hwork h past).same
  simp only [moved_after] at hmoved
  exact hmoved

theorem openDevice_blind (device : ListedDevice) : Blind (openDevice device) :=
  blind_guarded (fun _ _ => rfl) fun _ _ _ => rfl

theorem closeDevice_blind (id : NativeId) : Blind (closeDevice id) :=
  blind_guarded (fun _ _ => rfl) fun _ _ _ => rfl

theorem allocPd_blind (ctx : NativeId) : Blind (allocPd ctx) :=
  blind_guarded (fun _ _ => rfl) fun _ _ _ => rfl

theorem deallocPd_blind (id : NativeId) : Blind (deallocPd id) :=
  blind_guarded (fun _ _ => rfl) fun _ _ _ => rfl

theorem regMr_blind (pd : NativeId) (addr length : UInt64) (permission : Permission) :
    Blind (regMr pd addr length permission) :=
  blind_guarded (fun _ _ => rfl) fun _ _ _ => rfl

theorem deregMr_blind (id : NativeId) : Blind (deregMr id) :=
  blind_guarded (fun _ _ => rfl) fun _ _ _ => rfl

theorem createChannel_blind (ctx : NativeId) : Blind (createChannel ctx) :=
  blind_guarded (fun _ _ => rfl) fun _ _ _ => rfl

theorem destroyChannel_blind (id : NativeId) : Blind (destroyChannel id) :=
  blind_guarded (fun _ _ => rfl) fun _ _ _ => rfl

theorem getCqEvent_blind (id : NativeId) : Blind (getCqEvent id) :=
  blind_of_along fun h past => h.getCqEvent_along (.after past) id

theorem createCq_blind (ctx : NativeId) (depth : UInt32) (channel : Option NativeId)
    (cookie : UInt64) (vector : Int32) : Blind (createCq ctx depth channel cookie vector) :=
  blind_guarded (fun _ _ => rfl) fun _ _ _ => rfl

theorem destroyCq_blind (id : NativeId) : Blind (destroyCq id) :=
  blind_of_along fun h past => h.destroyCq_along (.after past) id

theorem pollCq_blind (id : NativeId) (n : Nat) : Blind (pollCq id n) :=
  blind_guarded (fun _ _ => rfl) fun _ _ _ => rfl

theorem reqNotifyCq_blind (id : NativeId) (solicitedOnly : Bool) :
    Blind (reqNotifyCq id solicitedOnly) :=
  blind_guarded (fun _ _ => rfl) fun _ _ _ => rfl

theorem createSrq_blind (pd : NativeId) (init : SrqInit) : Blind (createSrq pd init) :=
  blind_guarded (fun _ _ => rfl) fun _ _ _ => rfl

theorem destroySrq_blind (id : NativeId) : Blind (destroySrq id) :=
  blind_guarded (fun _ _ => rfl) fun _ _ _ => rfl

theorem createQp_blind (pd : NativeId) (init : NativeQpInit) : Blind (createQp pd init) :=
  blind_guarded (fun _ _ => rfl) fun _ _ _ => rfl

theorem destroyQp_blind (id : NativeId) : Blind (destroyQp id) :=
  blind_of_along fun h past => h.destroyQp_along (.after past) id

theorem modifyQp_blind (id : NativeId) (attributes : QpAttributes) (mask : QpMask) :
    Blind (modifyQp id attributes mask) :=
  blind_of_along fun h past => h.modifyQp_along (.after past) id attributes mask

theorem postSend_blind (id : NativeId) (requests : List SendRequest) :
    Blind (postSend id requests) :=
  blind_of_along fun h past => h.postSend_along (.after past) id requests

theorem postRecv_blind (id : NativeId) (requests : List RecvRequest) :
    Blind (postRecv id requests) :=
  blind_of_along fun h past => h.postRecv_along (.after past) id requests

theorem postSrqRecv_blind (id : NativeId) (requests : List RecvRequest) :
    Blind (postSrqRecv id requests) :=
  blind_of_along fun h past => h.postSrqRecv_along (.after past) id requests

/-! ## Hosts that differ in the journal -/

/-- The hosts differ in the journal at most. -/
structure Alike (h k : Host) : Prop where
  fabric : h.fabric = k.fabric
  memory : h.memory = k.memory
  descriptorsLeft : h.descriptorsLeft = k.descriptorsLeft

variable {h} {k : Host}

/-- Hosts that differ in the journal have different pasts of one host. -/
theorem Alike.pasts (ha : h.Alike k) :
    ∃ base past past', h = withPast base past ∧ k = withPast base past' := by
  obtain ⟨f, m, ⟨past⟩, left⟩ := h
  obtain ⟨f', m', ⟨past'⟩, left'⟩ := k
  obtain ⟨hf, hm, hleft⟩ := ha
  obtain rfl : f = f' := hf
  obtain rfl : m = m' := hm
  obtain rfl : left = left' := hleft
  exact ⟨{ fabric := f, memory := m, descriptorsLeft := left }, past, past', rfl, rfl⟩

/-- A step that does not look at the journal answers the same, and makes no difference. -/
theorem Blind.alike {ε α : Type} {work : Step Host ε α} (hb : Blind work) (ha : h.Alike k) :
    (work h).1 = (work k).1 ∧ (work h).2.Alike (work k).2 := by
  obtain ⟨base, past, past', rfl, rfl⟩ := ha.pasts
  rw [hb, hb]
  exact ⟨rfl, rfl, rfl, rfl⟩

end Host

end Rdma
