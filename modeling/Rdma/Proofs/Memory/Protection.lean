import Mathlib.Data.List.Range
import Rdma.Proofs.Memory.Registration
import Rdma.Proofs.QueuePair.States

/-!
# Protection of memory

The engine writes to memory for a request only where a region allows it, and each way to be allowed
is a `Licence`: a receive request of the peer, an entry of the request itself, or the right that the
peer grants. What a remote read fetches is licensed in the same way. A region that allows remote
writes allows local ones too, which is checked once, when it is registered.

* `Execution.licensed`, `Execution.fetches` — what one request changes, and what it returns;
* `Consumption.guarded` — a step that consumes a request changes what there is a licence for;
* `reachable_protects` — every operation on a reachable host.
-/

namespace Rdma

open Fabric (QueuePair PendingSend Region)

/-! ## Where memory changes -/

namespace Memory

theorem mem_span {a address : UInt64} {n : Nat} :
    a ∈ span address n ↔ ∃ i < n, a = address + UInt64.ofNat i := by
  simp only [span, List.mem_map, List.mem_range]
  constructor
  · rintro ⟨i, hi, rfl⟩
    exact ⟨i, hi, rfl⟩
  · rintro ⟨i, hi, rfl⟩
    exact ⟨i, hi, rfl⟩

theorem mem_span_of_le {a address : UInt64} {n n' : Nat} (hle : n ≤ n')
    (ha : a ∈ span address n) : a ∈ span address n' := by
  obtain ⟨i, hi, rfl⟩ := mem_span.1 ha
  exact mem_span.2 ⟨i, Nat.lt_of_lt_of_le hi hle, rfl⟩

theorem span_succ (address : UInt64) (n : Nat) :
    span address (n + 1) = address :: span (address + 1) n := by
  simp only [span, List.range_succ_eq_map, List.map_cons, List.map_map]
  refine congrArg₂ _ (by simp) (List.map_congr_left fun i _ => ?_)
  simp only [Function.comp_apply, Nat.succ_eq_add_one, UInt64.ofNat_add]
  rw [UInt64.add_comm (UInt64.ofNat i), ← UInt64.add_assoc]
  rfl

theorem read_writeBytes_of_not_mem {m : Memory} {a address : UInt64} {data : List UInt8}
    (ha : a ∉ span address data.length) : (m.writeBytes address data).read a = m.read a := by
  induction data generalizing m address with
  | nil => rfl
  | cons byte rest ih =>
      rw [List.length_cons, span_succ, List.mem_cons, not_or] at ha
      rw [writeBytes, ih ha.2, read_write, if_neg ha.1]

theorem length_bytesOfWord (word : UInt64) : (bytesOfWord word).length = 8 := by
  simp [bytesOfWord]

theorem mem_span_of_writeBytes {m : Memory} {a address : UInt64} {data : List UInt8}
    (hchanged : (m.writeBytes address data).read a ≠ m.read a) :
    a ∈ span address data.length :=
  Decidable.byContradiction fun ha => hchanged (read_writeBytes_of_not_mem ha)

theorem mem_span_of_writeWord {m : Memory} {a address word : UInt64}
    (hchanged : (m.writeWord address word).read a ≠ m.read a) : a ∈ span address 8 := by
  have hspan := mem_span_of_writeBytes hchanged
  rwa [length_bytesOfWord] at hspan

end Memory

namespace Host

/-- Scattering changes memory in the entries only. -/
theorem mem_span_of_scatterBytes {m : Memory} {a : UInt64} {sges : List Sge} {data : List UInt8}
    (hchanged : (scatterBytes m sges data).read a ≠ m.read a) :
    ∃ sge ∈ sges, a ∈ Memory.span sge.addr sge.length.toNat := by
  induction sges generalizing m data with
  | nil => exact absurd rfl hchanged
  | cons sge rest ih =>
      by_cases hfirst : (m.writeBytes sge.addr (data.take sge.length.toNat)).read a = m.read a
      · rw [scatterBytes, ← hfirst] at hchanged
        obtain ⟨sge', hmem, ha⟩ := ih hchanged
        exact ⟨sge', List.mem_cons_of_mem _ hmem, ha⟩
      · refine ⟨sge, List.mem_cons_self, ?_⟩
        exact Memory.mem_span_of_le (List.length_take_le _ _) (Memory.mem_span_of_writeBytes hfirst)

theorem length_payload (m : Memory) (pending : PendingSend) :
    (payload m pending).length = payloadLength pending := by
  unfold payload payloadLength
  cases pending.inlined with
  | some data => rfl
  | none => exact Fabric.length_gatherBytes m pending.request.sges

end Host

/-! ## Regions -/

namespace Fabric

/-- The byte is one of the region's. -/
def Region.Holds (r : Region) (a : UInt64) : Prop :=
  r.addr.toNat ≤ a.toNat ∧ a.toNat < r.addr.toNat + r.length.toNat

/-- A region that goes beyond the last address covers nothing, so the bytes of a range that is
covered are bytes of the region. -/
theorem Region.holds_of_covers {r : Region} {a addr : UInt64} {length : Nat}
    (hcovers : r.covers addr length = true) (ha : a ∈ Memory.span addr length) : r.Holds a := by
  obtain ⟨i, hi, rfl⟩ := Memory.mem_span.1 ha
  simp only [covers, Bool.and_eq_true, decide_eq_true_eq, UInt64.le_iff_toNat_le] at hcovers
  obtain ⟨⟨hfirst, hsize⟩, hlast⟩ := hcovers
  rw [UInt64.toNat_add] at hlast
  have hplace : (addr + UInt64.ofNat i).toNat = addr.toNat + i := by
    rw [UInt64.toNat_add, UInt64.toNat_ofNat_of_lt' (by omega)]
    exact Nat.mod_eq_of_lt (by have := UInt64.size; omega)
  have hend : (r.addr.toNat + r.length.toNat) % 2 ^ 64 ≤ r.addr.toNat + r.length.toNat :=
    Nat.mod_le _ _
  rw [Region.Holds, hplace]
  omega

/-- A region of the domain holds the entry under its local key, and may be written to. -/
structure WritesLocally (f : Fabric) (pd : NativeId) (sge : Sge) (r : Region) : Prop where
  registered : ∃ id, f.regions.find? id = some r
  pd : r.pd = pd
  key : r.lkey = sge.lkey
  covers : r.covers sge.addr sge.length.toNat = true
  writable : r.permission.contains .localWrite = true

/-- A region of the peer's domain holds the range under its remote key, and both the region and the
peer grant the right. -/
structure GrantsRemotely (f : Fabric) (peer : QueuePair) (right : Permission)
    (target : RemoteAddress) (length : Nat) (r : Region) : Prop where
  registered : ∃ id, f.regions.find? id = some r
  pd : r.pd = peer.pd
  key : r.rkey = target.rkey
  covers : r.covers target.addr length = true
  byRegion : r.permission.contains right = true
  byPeer : peer.access.contains right = true

theorem writesLocally_of_writable {f : Fabric} {pd : NativeId} {sge : Sge}
    (hwritable : Host.writable f pd sge = true) : ∃ r, f.WritesLocally pd sge r := by
  obtain ⟨r, hfound, hpermission⟩ := (Option.any_eq_true _ _).1 hwritable
  have hmatch := List.find?_some hfound
  simp only [Bool.and_eq_true, decide_eq_true_eq] at hmatch
  exact ⟨r, Table.mem_values.1 (List.mem_of_find?_eq_some hfound), hmatch.1.1, hmatch.1.2, hmatch.2,
    hpermission⟩

theorem grantsRemotely_of_grants {f : Fabric} {peer : QueuePair} {right : Permission}
    {target : RemoteAddress} {length : Nat}
    (hgrants : Host.grants f peer right target length = true) :
    ∃ r, f.GrantsRemotely peer right target length r := by
  obtain ⟨hpeer, hregion⟩ := Bool.and_eq_true_iff.1 hgrants
  obtain ⟨r, hfound, hpermission⟩ := (Option.any_eq_true _ _).1 hregion
  have hmatch := List.find?_some hfound
  simp only [Bool.and_eq_true, decide_eq_true_eq] at hmatch
  exact ⟨r, Table.mem_values.1 (List.mem_of_find?_eq_some hfound), hmatch.1.1, hmatch.1.2, hmatch.2,
    hpermission, hpeer⟩

theorem WritesLocally.of_regions {f g : Fabric} (hregions : g.regions = f.regions) {pd : NativeId}
    {sge : Sge} {r : Region} (h : f.WritesLocally pd sge r) : g.WritesLocally pd sge r :=
  { h with registered := hregions ▸ h.registered }

theorem GrantsRemotely.of_regions {f g : Fabric} (hregions : g.regions = f.regions)
    {peer peer' : QueuePair} (hpd : peer'.pd = peer.pd) (haccess : peer'.access = peer.access)
    {right : Permission} {target : RemoteAddress} {length : Nat} {r : Region}
    (h : f.GrantsRemotely peer right target length r) :
    g.GrantsRemotely peer' right target length r :=
  { h with registered := hregions ▸ h.registered, pd := hpd ▸ h.pd, byPeer := haccess ▸ h.byPeer }

end Fabric

/-! ## Licences -/

open Host (payloadLength)

/-- Why a byte may change when the request of `q` at the head of its queue is executed: it is in an
entry of the receive request that the peer takes for it, in an entry of the request that brings data
back, or in the remote range that it writes to. -/
inductive Licence (f : Fabric) (q : QueuePair) (pending : PendingSend) (a : UInt64) (r : Region) :
    Prop
  | received {peerId : NativeId} {peer : QueuePair} {recv : RecvRequest} {rest : List RecvRequest}
      {sge : Sge} : pending.request.opcode = .send ∨ pending.request.opcode = .sendWithImm →
      f.Connected q peerId peer →
      f.recvRequests (Fabric.recvQueueOf peerId peer) = recv :: rest → sge ∈ recv.sges →
      f.WritesLocally peer.pd sge r → a ∈ Memory.span sge.addr sge.length.toNat →
      Licence f q pending a r
  | returned {sge : Sge} :
      pending.request.opcode = .read ∨ pending.request.opcode.isAtomic = true →
      sge ∈ pending.request.sges → f.WritesLocally q.pd sge r →
      a ∈ Memory.span sge.addr sge.length.toNat → Licence f q pending a r
  | written {peerId : NativeId} {peer : QueuePair} :
      pending.request.opcode = .write ∨ pending.request.opcode = .writeWithImm →
      f.Connected q peerId peer →
      f.GrantsRemotely peer .remoteWrite pending.request.remote (payloadLength pending) r →
      a ∈ Memory.span pending.request.remote.addr (payloadLength pending) → Licence f q pending a r
  | exchanged {peerId : NativeId} {peer : QueuePair} : pending.request.opcode.isAtomic = true →
      f.Connected q peerId peer →
      f.GrantsRemotely peer .remoteAtomic pending.request.remote 8 r →
      a ∈ Memory.span pending.request.remote.addr 8 → Licence f q pending a r

/-- A remote read returned what a peer grants to be read. -/
structure Fetched (f : Fabric) (m : Memory) (q : QueuePair) (pending : PendingSend) (m' : Memory) :
    Prop where
  granted : ∃ peerId peer r, f.Connected q peerId peer ∧
    f.GrantsRemotely peer .remoteRead pending.request.remote (payloadLength pending) r ∧
    ∀ a ∈ Memory.span pending.request.remote.addr (payloadLength pending), r.Holds a
  stored : m' = Host.scatterBytes m pending.request.sges
    (m.readBytes pending.request.remote.addr (payloadLength pending))

/-- A byte that a licence is for lies in a region that may be written to. -/
theorem Licence.holds {f : Fabric} {q : QueuePair} {pending : PendingSend} {a : UInt64} {r : Region}
    (h : Licence f q pending a r) (hf : f.Consistent) :
    (∃ id, f.regions.find? id = some r) ∧ r.permission.contains .localWrite = true ∧ r.Holds a := by
  cases h with
  | received _ _ _ _ hwrites ha | returned _ _ hwrites ha =>
      exact ⟨hwrites.registered, hwrites.writable, Fabric.Region.holds_of_covers hwrites.covers ha⟩
  | written _ _ hgrants ha =>
      obtain ⟨id, hr⟩ := hgrants.registered
      exact ⟨⟨id, hr⟩, Permission.localWrite_of_consistent (hf id r hr) (.inl rfl) hgrants.byRegion,
        Fabric.Region.holds_of_covers hgrants.covers ha⟩
  | exchanged _ _ hgrants ha =>
      obtain ⟨id, hr⟩ := hgrants.registered
      exact ⟨⟨id, hr⟩, Permission.localWrite_of_consistent (hf id r hr) (.inr rfl) hgrants.byRegion,
        Fabric.Region.holds_of_covers hgrants.covers ha⟩

/-! ## Executing -/

/-- A queued request whose payload was taken when it was posted brings no data back. -/
def Fabric.QueuePair.TakesOnly (q : QueuePair) : Prop :=
  ∀ p ∈ q.sendQueue, p.inlined.isSome = true → p.request.opcode.writesLocal = false

section Executing

variable {f g : Fabric} {m m' : Memory} {q : QueuePair} {pending : PendingSend}
  {outcome : SendOutcome}

/-- The entries that data is brought back to were checked. -/
theorem writesLocally_of_usable
    (hplain : pending.inlined.isSome = true → pending.request.opcode.writesLocal = false)
    (husable : Host.localEntriesUsable f q pending = true)
    (hwrites : pending.request.opcode.writesLocal = true) {sge : Sge}
    (hsge : sge ∈ pending.request.sges) : ∃ r, f.WritesLocally q.pd sge r := by
  rcases Bool.or_eq_true_iff.1 husable with hinlined | hentries
  · rw [hplain hinlined] at hwrites
    cases hwrites
  · refine Fabric.writesLocally_of_writable ?_
    have hentry := List.all_eq_true.1 hentries sge hsge
    simp only [hwrites, Bool.not_true, Bool.false_or] at hentry
    exact hentry

/-- An execution changes no byte but in a range that was checked for it. -/
theorem Execution.licensed (h : Execution f m q pending outcome g m')
    (hnumbered : f.Numbered)
    (hplain : pending.inlined.isSome = true → pending.request.opcode.writesLocal = false)
    {a : UInt64} (hchanged : m'.read a ≠ m.read a) : ∃ r, Licence f q pending a r := by
  cases h with
  | refused | unreachable | denied | unreceived | unusable => exact absurd rfl hchanged
  | delivered _ hreaches hop hqueue hwritable _ =>
      obtain ⟨sge, hsge, ha⟩ := Host.mem_span_of_scatterBytes hchanged
      obtain ⟨r, hr⟩ := Fabric.writesLocally_of_writable (hwritable sge hsge)
      exact ⟨r, .received hop (Fabric.connected_of_peerOf hnumbered hreaches.peer) hqueue hsge hr ha⟩
  | written _ hreaches hop hgrants =>
      obtain ⟨r, hr⟩ := Fabric.grantsRemotely_of_grants hgrants
      have ha := Memory.mem_span_of_writeBytes hchanged
      rw [Host.length_payload] at ha
      exact ⟨r, .written (.inl hop) (Fabric.connected_of_peerOf hnumbered hreaches.peer) hr ha⟩
  | writtenWithImm _ hreaches hop hgrants _ =>
      obtain ⟨r, hr⟩ := Fabric.grantsRemotely_of_grants hgrants
      have ha := Memory.mem_span_of_writeBytes hchanged
      rw [Host.length_payload] at ha
      exact ⟨r, .written (.inr hop) (Fabric.connected_of_peerOf hnumbered hreaches.peer) hr ha⟩
  | fetched _ hreaches hop hgrants =>
      obtain ⟨sge, hsge, ha⟩ := Host.mem_span_of_scatterBytes hchanged
      obtain ⟨r, hr⟩ := writesLocally_of_usable hplain hreaches.usable (by rw [hop]; rfl) hsge
      exact ⟨r, .returned (.inl hop) hsge hr ha⟩
  | @exchanged _ _ sge _ hreaches hop hsges hlength hgrants =>
      -- the word that was found goes to the local entry, after the new one was stored
      by_cases hremote : (m.writeWord pending.request.remote.addr (Host.atomicResult pending.request
          (m.readWord pending.request.remote.addr))).read a = m.read a
      · rw [← hremote] at hchanged
        have hwrites : pending.request.opcode.writesLocal = true := by
          simp [SendOpcode.writesLocal, hop]
        have hsge : sge ∈ pending.request.sges := by simp [hsges]
        obtain ⟨r, hr⟩ := writesLocally_of_usable hplain hreaches.usable hwrites hsge
        refine ⟨r, .returned (.inr hop) hsge hr ?_⟩
        rw [hlength]
        exact Memory.mem_span_of_writeWord hchanged
      · obtain ⟨r, hr⟩ := Fabric.grantsRemotely_of_grants hgrants
        exact ⟨r, .exchanged hop (Fabric.connected_of_peerOf hnumbered hreaches.peer) hr
          (Memory.mem_span_of_writeWord hremote)⟩

/-- A remote read fails and leaves memory alone, or it returns what it was granted. -/
theorem Execution.fetches (h : Execution f m q pending outcome g m')
    (hnumbered : f.Numbered)
    (hblocked : outcome ≠ .blocked) (hop : pending.request.opcode = .read) :
    (∃ status, outcome = .failed status) ∧ m' = m ∨
      (∃ length, outcome = .done length) ∧ Fetched f m q pending m' := by
  have htwoSided : pending.request.opcode.consumesRecv = false := by rw [hop]; rfl
  have hwrites : pending.request.opcode.writesLocal = true := by rw [hop]; rfl
  cases h with
  | refused => exact .inl ⟨⟨_, rfl⟩, rfl⟩
  | unreachable _ hreliable | denied _ _ _ hreliable =>
      rw [hreliable hwrites]
      exact .inl ⟨⟨_, rfl⟩, rfl⟩
  | unreceived _ _ hconsumes | unusable _ _ hconsumes =>
      rw [htwoSided] at hconsumes
      cases hconsumes
  | delivered _ _ hop' => rw [hop] at hop'; exact hop'.elim nofun nofun
  | written _ _ hop' | writtenWithImm _ _ hop' => rw [hop] at hop'; cases hop'
  | exchanged _ _ hop' => rw [hop] at hop'; cases hop'
  | fetched _ hreaches _ hgrants =>
      obtain ⟨r, hr⟩ := Fabric.grantsRemotely_of_grants hgrants
      have hpeer := Fabric.connected_of_peerOf hnumbered hreaches.peer
      have hholds a := Fabric.Region.holds_of_covers (a := a) hr.covers
      exact .inr ⟨⟨_, rfl⟩, ⟨_, _, r, hpeer, hr, hholds⟩, rfl⟩

end Executing

/-! ## What queue pairs hold -/

/-- Taking the payload when a request is posted is for requests that bring no data back. -/
theorem Fabric.QueuePair.entered_takesOnly {q : QueuePair} {attributes : QpAttributes}
    {mask : QpMask} {target : QpState} (hq : q.TakesOnly) :
    (q.entered attributes mask target).TakesOnly := by
  cases target with
  | reset => exact List.forall_mem_nil _
  | error =>
      simp only [entered]
      split
      · exact hq
      · exact List.forall_mem_nil _
  | init | rtr | rts | sqd | sqe => exact hq

namespace Host

variable {g h k : Host} {devices : List DeviceConfig} {id : NativeId} {q q' : QueuePair}
  {pending : PendingSend} {rest : List PendingSend} {outcome : SendOutcome}

theorem takesOnly_of_revised {op : Operation} (hrevises : h.Revises op id q q')
    (hq : q.TakesOnly) : q'.TakesOnly := by
  cases hrevises with
  | same | recvs => exact hq
  | modified => exact Fabric.QueuePair.entered_takesOnly hq
  | sends _ haccepted => exact fun p hp => (List.mem_append.1 hp).elim (hq p) (haccepted p)
  | flushed => exact nofun

theorem takesOnly_of_spent (hspent : q.Spent q') (hq : q.TakesOnly) : q'.TakesOnly := by
  cases hspent with
  | fewer hsends => exact fun p hp => hq p (hsends.subset hp)
  | failed => exact nofun

theorem takesOnly_of_cleared (hnew : q.cleared = q) : q.TakesOnly := by
  rw [← hnew]
  exact nofun

theorem Reachable.takesOnly (hr : Reachable devices h) (hq : h.fabric.qps.find? id = some q) :
    q.TakesOnly :=
  hr.every_qp (fun _ => takesOnly_of_cleared) (fun _ _ _ _ _ => takesOnly_of_revised)
    (fun _ _ => takesOnly_of_spent) hq

/-! ## Steps of the engine -/

/-- A licence does not depend on what the sender has queued, only on its head. -/
theorem licence_of_popped {a : UInt64} {r : Region}
    (hl : Licence (h.popped id rest).fabric.work { q with sendQueue := rest } pending a r) :
    Licence h.fabric q pending a r := by
  have hregions : h.fabric.regions = (h.popped id rest).fabric.work.regions := rfl
  cases hl with
  | @received peerId p recv recvs sge hop hc hqueue hsge hwrites ha =>
      obtain ⟨p', hc', hpd, -, hsrq⟩ := connected_of_popped hc
      have hsame : Fabric.recvQueueOf peerId p' = Fabric.recvQueueOf peerId p := by
        rw [Fabric.recvQueueOf, Fabric.recvQueueOf, hsrq]
      have hqueue' : h.fabric.recvRequests (Fabric.recvQueueOf peerId p') = recv :: recvs := by
        rw [hsame, ← popped_recvRequests h id rest]
        exact hqueue
      exact .received hop hc' hqueue' hsge (hpd ▸ hwrites.of_regions hregions) ha
  | returned hop hsge hwrites ha => exact .returned hop hsge (hwrites.of_regions hregions) ha
  | written hop hc hgrants ha =>
      obtain ⟨p', hc', hpd, haccess, -⟩ := connected_of_popped hc
      exact .written hop hc' (hgrants.of_regions hregions hpd haccess) ha
  | exchanged hop hc hgrants ha =>
      obtain ⟨p', hc', hpd, haccess, -⟩ := connected_of_popped hc
      exact .exchanged hop hc' (hgrants.of_regions hregions hpd haccess) ha

theorem fetched_of_popped {m m' : Memory}
    (hf : Fetched (h.popped id rest).fabric.work m { q with sendQueue := rest } pending m') :
    Fetched h.fabric m q pending m' := by
  have hregions : h.fabric.regions = (h.popped id rest).fabric.work.regions := rfl
  obtain ⟨⟨peerId, p, r, hc, hgrants, hholds⟩, hstored⟩ := hf
  obtain ⟨p', hc', hpd, haccess, -⟩ := connected_of_popped hc
  exact ⟨⟨peerId, p', r, hc', hgrants.of_regions hregions hpd haccess, hholds⟩, hstored⟩

/-- The engine consumed a request. Every byte that this changed is licensed and lies in a region that
may be written to, and a remote read failed or returned what it was granted. -/
structure Guarded (g : Host) (id : NativeId) (q : QueuePair) (pending : PendingSend)
    (rest : List PendingSend) (outcome : SendOutcome) (k : Host) : Prop
    extends g.Consumption id q pending rest outcome k where
  licensed : ∀ a, k.memory.read a ≠ g.memory.read a → ∃ r, Licence g.fabric q pending a r ∧
    (∃ id, g.fabric.regions.find? id = some r) ∧ r.permission.contains .localWrite = true ∧
    r.Holds a
  fetched : pending.request.opcode = .read →
    (∃ status, outcome = .failed status) ∧ k.memory = g.memory ∨
      (∃ length, outcome = .done length) ∧ Fetched g.fabric g.memory q pending k.memory

/-- A step of the engine that is guarded. -/
def Protects (g k : Host) : Prop :=
  ∃ id q pending rest outcome, g.step id = (true, k) ∧ g.Guarded id q pending rest outcome k

/-- What holds at every moment of an operation. -/
structure Moment (g : Host) : Prop where
  sound : g.fabric.Sound
  consistent : g.fabric.Consistent
  takesOnly : ∀ {id q}, g.fabric.qps.find? id = some q → q.TakesOnly

theorem Consumption.guarded (hc : g.Consumption id q pending rest outcome k) (hg : g.Moment) :
    g.Guarded id q pending rest outcome k := by
  obtain ⟨f, hexecuted, -⟩ := hc.executed
  have hsame : (g.popped id rest).fabric.skeleton = g.fabric.skeleton :=
    g.fabric.updateQp_skeleton id fun _ => rfl
  have hnumbered := (hg.sound.of_skeleton hsame).intact.numbers
  have hplain := hg.takesOnly hc.found pending (by rw [hc.head]; exact List.mem_cons_self)
  refine ⟨hc, fun a hchanged => ?_, fun hread => ?_⟩
  · obtain ⟨r, hr⟩ := hexecuted.licensed hnumbered hplain hchanged
    have hlicence := licence_of_popped hr
    exact ⟨r, hlicence, hlicence.holds hg.consistent⟩
  · exact (hexecuted.fetches hnumbered hc.consumed hread).imp_right fun ⟨hdone, hfetched⟩ =>
      ⟨hdone, fetched_of_popped hfetched⟩

theorem Moment.step (hg : g.Moment) (hstep : g.step id = (true, k)) : g.Protects k ∧ k.Moment := by
  obtain ⟨q, pending, rest, outcome, hc⟩ := step_consumption hstep
  have hsame : k.fabric.skeleton = g.fabric.skeleton := by
    have hmoves := g.step_moves id
    rw [hstep] at hmoves
    exact hmoves.skeleton
  refine ⟨⟨id, q, pending, rest, outcome, hstep, hc.guarded hg⟩, hg.sound.of_skeleton hsame, ?_, ?_⟩
  · intro id r hr
    exact hg.consistent id r ((congrArg (·.regions.find? id) hsame).symm.trans hr)
  · intro id q' hq'
    obtain ⟨q, hq, hspent⟩ := hc.wanes.earlier hq'
    exact takesOnly_of_spent hspent (hg.takesOnly hq)

theorem Steps.protects (hs : g.Steps k) (hg : g.Moment) :
    Relation.ReflTransGen Protects g k ∧ k.Moment := by
  induction hs with
  | refl => exact ⟨.refl, hg⟩
  | tail _ hlast ih =>
      obtain ⟨id, hstep⟩ := hlast
      obtain ⟨hprotects, hmoment⟩ := ih
      obtain ⟨hnext, hmoment'⟩ := hmoment.step hstep
      exact ⟨hprotects.tail hnext, hmoment'⟩

/-! ## Operations -/

theorem Prepares.moment {op : Operation} (hprepares : h.Prepares op g) (hr : Reachable devices h) :
    g.Moment := by
  have hsame := hprepares.steps.moves.skeleton
  have hr' : Reachable devices (h.perform op) := .perform op hr
  refine ⟨hr'.sound.fabric.of_skeleton hsame.symm, fun id r hfound => ?_, fun {id q'} hq' => ?_⟩
  · exact hr'.consistent id r ((congrArg (·.regions.find? id) hsame).trans hfound)
  · rcases hprepares.origin hq' with ⟨q, hq, hrevised⟩ | ⟨-, hnew⟩
    · exact takesOnly_of_revised hrevised (hr.takesOnly hq)
    · exact takesOnly_of_cleared hnew

theorem Protects.regions (hp : g.Protects k) : k.fabric.regions = g.fabric.regions := by
  obtain ⟨id, _, _, _, _, hstep, -⟩ := hp
  have hmoves := g.step_moves id
  rw [hstep] at hmoves
  exact congrArg (·.regions) hmoves.skeleton

/-- A byte that a run changes lies in a region that is there after it. -/
theorem holds_of_changed (hs : Relation.ReflTransGen Protects g k) {a : UInt64}
    (hchanged : k.memory.read a ≠ g.memory.read a) :
    ∃ id r, k.fabric.regions.find? id = some r ∧ r.permission.contains .localWrite = true ∧
      r.Holds a := by
  induction hs with
  | refl => exact absurd rfl hchanged
  | @tail i k _ hlast ih =>
      rw [hlast.regions]
      by_cases hsame : k.memory.read a = i.memory.read a
      · exact ih (hsame ▸ hchanged)
      · obtain ⟨_, _, _, _, _, -, hguarded⟩ := hlast
        obtain ⟨r, -, ⟨id, hr⟩, hwrite, hholds⟩ := hguarded.licensed a hsame
        exact ⟨id, r, hr, hwrite, hholds⟩

/-- No operation but the one that says so touches memory, other than by steps of the engine. Each
step executes one request and changes what it has a licence for, in regions that are registered then
and may be written to. A byte that is in no such region before the operation, or in none after it, is
not changed. -/
theorem reachable_protects (hr : Reachable devices h) (op : Operation)
    (hop : ∀ m, op ≠ .setMemory m) :
    (∃ g, h.Prepares op g ∧ g.memory = h.memory ∧
      Relation.ReflTransGen Protects g (h.perform op)) ∧
    ∀ a, (h.perform op).memory.read a ≠ h.memory.read a →
      ∃ id r, h.fabric.regions.find? id = some r ∧ (h.perform op).fabric.regions.find? id = some r ∧
        r.permission.contains .localWrite = true ∧ r.Holds a := by
  obtain ⟨g, hprepares⟩ := perform_prepares hr.sound.fabric op
  have hmemory := hprepares.memory hop
  obtain ⟨hprotects, -⟩ := hprepares.steps.protects (hprepares.moment hr)
  refine ⟨⟨g, hprepares, hmemory, hprotects⟩, fun a hchanged => ?_⟩
  cases h.perform_registers op with
  | changed hsame => exact absurd (congrArg (·.read a) hsame) hchanged
  | kept hregions =>
      rw [← hmemory] at hchanged
      obtain ⟨id, r, hfound, hwrite, hholds⟩ := holds_of_changed hprotects hchanged
      exact ⟨id, r, hregions id ▸ hfound, hfound, hwrite, hholds⟩

/-- A queue pair that grants everything to itself adds to a word of its own. -/
theorem loopback_protects :
    let ready := (({} : Host).withDevices [{}]).performAll (loopback ++
      [.regMr 3 0x40000 64 .standard,
        .modifyQp 5 { accessFlags := Permission.standard.bits } .accessFlags])
    let add : Operation := .postSend 5
      [{ opcode := .fetchAdd, sges := [⟨0x40008, 8, 0x1000⟩], compareAdd := 5,
         remote := ⟨0x40000, 0x1000⟩ }]
    ready.memory.read 0x40000 = 0 ∧ (ready.perform add).memory.read 0x40000 = 5 ∧
      (∃ g, ready.Prepares add g ∧ g.memory = ready.memory ∧
        Relation.ReflTransGen Protects g (ready.perform add)) ∧
      ∃ id r, ready.fabric.regions.find? id = some r ∧
        r.permission.contains .localWrite = true ∧ r.Holds 0x40000 := by
  intro ready add
  have hr : Reachable [{}] ready := (Reachable.fresh {}).performAll _
  obtain ⟨hprotects, hregions⟩ := reachable_protects hr add nofun
  have hbefore : ready.memory.read 0x40000 = 0 := by decide +kernel
  have hafter : (ready.perform add).memory.read 0x40000 = 5 := by decide +kernel
  have hchanged : (ready.perform add).memory.read 0x40000 ≠ ready.memory.read 0x40000 := by
    rw [hbefore, hafter]
    decide
  obtain ⟨id, r, hfound, -, hwrite, hholds⟩ := hregions _ hchanged
  exact ⟨hbefore, hafter, hprotects, id, r, hfound, hwrite, hholds⟩

end Host

end Rdma
