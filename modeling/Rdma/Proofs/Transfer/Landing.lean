import Rdma.Proofs.Host.Course
import Rdma.Proofs.Memory.Overwrite

/-!
# Data lands exactly

A request that moves data overwrites the ranges it is meant for with its payload, one byte after the
other, and nothing else (`Lands`). The ranges are those of the receive request that the peer takes, the
remote range, or the entries of the request. The payload is what memory held when the request was
executed, or, if it is inline, what memory held when it was posted.

* `executeFor_ends` — executing a request that is done moved its data, or an unreliable sender lost it;
* `Consumption.lands` — so does a step of the engine, and its completions tell the length;
* `course_transfers` — every step that an operation leads to, with the post of the request it executes.
-/

namespace Rdma

open Fabric (QueuePair PendingSend)

/-- The bytes that a request carries if memory was `atPost` when it was posted and is `now` when it is
executed. -/
def SendRequest.carries (request : SendRequest) (atPost now : Memory) : List UInt8 :=
  let entries := (request.sges.map Sge.addresses).flatten
  if request.isInline then entries.map atPost.read
  else if request.opcode = .read then
    (Memory.span request.remote.addr request.totalLength).map now.read
  else entries.map now.read

/-- Where the data of a request of `q` goes, range by range: over the entries of the receive request
that the peer takes next, to the remote range, or over the request's own entries. -/
inductive Target (f : Fabric) (q : QueuePair) (request : SendRequest) : List (List UInt64) → Prop
  | received {peerId : NativeId} {peer : QueuePair} {recv : RecvRequest} {rest : List RecvRequest} :
      request.opcode = .send ∨ request.opcode = .sendWithImm → f.Connected q peerId peer →
      f.recvRequests (Fabric.recvQueueOf peerId peer) = recv :: rest →
      Target f q request (recv.sges.map Sge.addresses)
  | written : request.opcode = .write ∨ request.opcode = .writeWithImm →
      Target f q request [Memory.span request.remote.addr request.totalLength]
  | fetched : request.opcode = .read → Target f q request (request.sges.map Sge.addresses)

open Host (grants writable peerOf?)

/-- Why a request of `q` gets through to no peer: none is connected, the peer does not grant the access,
or it has no receive request that the data can go to. -/
inductive Loses (f : Fabric) (q : QueuePair) (request : SendRequest) : Prop
  | unconnected : (∀ peerId peer, ¬ f.Connected q peerId peer) → Loses f q request
  | denied {peerId : NativeId} {peer : QueuePair} : f.Connected q peerId peer →
      request.opcode = .write ∨ request.opcode = .writeWithImm →
      grants f peer .remoteWrite request.remote request.totalLength = false → Loses f q request
  | unreceived {peerId : NativeId} {peer : QueuePair} : f.Connected q peerId peer →
      request.opcode.consumesRecv = true →
      f.recvRequests (Fabric.recvQueueOf peerId peer) = [] → Loses f q request
  | unusable {peerId : NativeId} {peer : QueuePair} {recv : RecvRequest} {rest : List RecvRequest} :
      f.Connected q peerId peer → request.opcode = .send ∨ request.opcode = .sendWithImm →
      f.recvRequests (Fabric.recvQueueOf peerId peer) = recv :: rest →
      (∃ sge ∈ recv.sges, writable f peer.pd sge = false) ∨
        recv.totalLength < request.totalLength → Loses f q request

/-- What is written down of the receive request that a transfer of `n` bytes uses up, if it needs one.
-/
inductive Received (request : SendRequest) (n : UInt32) : List Event → Prop
  | oneSided : request.opcode.consumesRecv = false → Received request n []
  | twoSided {queue : RecvQueue} {peerId cq : NativeId} {recv : RecvRequest} {c : Completion} :
      request.opcode.consumesRecv = true → c.ofReceive = true → c.byteLength = n →
      Received request n [.recvTaken queue peerId recv, .handed cq c]

/-- No range goes round the address space, so none has an address twice. -/
theorem Target.nodup {f : Fabric} {q : QueuePair} {request : SendRequest}
    {ranges : List (List UInt64)} (ht : Target f q request ranges)
    (hlength : request.totalLength ≤ UInt64.size) : ∀ range ∈ ranges, range.Nodup := by
  have hentries (sges : List Sge) : ∀ range ∈ sges.map Sge.addresses, range.Nodup := by
    intro range hrange
    obtain ⟨sge, -, rfl⟩ := List.mem_map.1 hrange
    exact sge.nodup_addresses
  cases ht with
  | received | fetched => exact hentries _
  | written =>
      intro range hrange
      rw [List.mem_singleton.1 hrange]
      exact Memory.nodup_span hlength

namespace Host

variable {h g k : Host} {devices : List DeviceConfig} {id peerId : NativeId} {q peer : QueuePair}
  {pending : PendingSend} {rest : List PendingSend} {n length : UInt32}

/-! ## Executing -/

/-- The bytes that a queued request carries if it is executed with the memory. -/
def movedBytes (m : Memory) (pending : PendingSend) : List UInt8 :=
  if pending.request.opcode = .read then
    m.readBytes pending.request.remote.addr (payloadLength pending)
  else payload m pending

theorem length_movedBytes (m : Memory) (pending : PendingSend) :
    (movedBytes m pending).length = payloadLength pending := by
  unfold movedBytes
  split
  · simp [Memory.readBytes, Memory.span]
  · exact length_payload m pending

/-- Executing a request moved its data. -/
structure Moved (h : Host) (q : QueuePair) (pending : PendingSend) (n : UInt32) (k : Host) :
    Prop where
  length : n.toNat = payloadLength pending
  stored : ∃ ranges, Target h.fabric.work q pending.request ranges ∧
    payloadLength pending ≤ ranges.flatten.length ∧
    k.memory.read =
      Memory.overwrite h.memory.read ranges.flatten (movedBytes h.memory pending)
  received : ∃ es, Received pending.request n es ∧ k.entries = h.entries ++ es

/-- What executing a request comes to that is done: its data was moved, or it was lost on the way from
an unreliable sender. -/
def Ends (h : Host) (q : QueuePair) (pending : PendingSend) (n : UInt32) (k : Host) : Prop :=
  (q.transport = .unreliable ∧ Loses h.fabric.work q pending.request ∧ k.memory = h.memory) ∨
    h.Moved q pending n k

/-- Only an unreliable sender takes a request that was lost for done. -/
theorem lost_eq_done {transport : Transport} {outcome : SendOutcome}
    (hdone : SendOutcome.lost transport length outcome = .done n) (hne : outcome ≠ .done n) :
    transport = .unreliable := by
  cases transport with
  | reliable => exact absurd hdone hne
  | unreliable => rfl

/-- A request that was lost, whatever became of a receive request that it used up. -/
theorem Ends.of_lost {outcome : SendOutcome} {k' : Host}
    (hdone : (SendOutcome.lost q.transport length outcome, k') = (.done n, k))
    (hne : outcome ≠ .done n) (hloses : Loses h.fabric.work q pending.request)
    (hmemory : k'.memory = h.memory) : h.Ends q pending n k := by
  obtain ⟨houtcome, rfl⟩ := Prod.mk.inj hdone
  exact .inl ⟨lost_eq_done houtcome hne, hloses, hmemory⟩

theorem completeRecv_entries (hp : h.fabric.qps.find? peerId = some peer) {c : Completion}
    (hc : c.failed = false) (solicited : Bool) :
    (h.completeRecv peerId c solicited).entries =
      h.entries ++ [.handed peer.recvCq { c with qpNumber := peer.number }] := by
  rw [completeRecv_eq hp]
  simp only [hc, Bool.false_eq_true, if_false]
  exact complete_entries _ _ _ _

/-- A receive request that was taken and completed without failure. -/
theorem received_of_takeRecv {r : RecvRequest} {m : Memory} {c : Completion}
    (ht : h.takeRecv peerId peer = some (r, k)) (hp : k.fabric.qps.find? peerId = some q)
    (htwoSided : pending.request.opcode.consumesRecv = true) (hc : c.failed = false)
    (hreceive : c.ofReceive = true) (hlength : c.byteLength = n) (solicited : Bool) :
    ∃ es, Received pending.request n es ∧
      (({ k with memory := m } : Host).completeRecv peerId c solicited).entries = h.entries ++ es := by
  have hentries := completeRecv_entries (h := { k with memory := m }) hp hc solicited
  obtain ⟨rest, -, rfl⟩ := takeRecv_eq_some ht
  let taken := Event.recvTaken (Fabric.recvQueueOf peerId peer) peerId r
  let handed := Event.handed q.recvCq { c with qpNumber := q.number }
  refine ⟨[taken, handed], .twoSided htwoSided hreceive hlength, ?_⟩
  rw [hentries]
  change (h.note taken).entries ++ [handed] = _
  rw [note_entries]
  exact List.append_assoc _ _ _

section Peer

variable (hconnected : h.fabric.work.Connected q peerId peer)
  (hlength : length.toNat = payloadLength pending)

include hconnected hlength

/-- A send that is done was lost on an unreliable queue pair, or landed in a receive request. -/
theorem deliver_ends (hop : pending.request.opcode = .send ∨ pending.request.opcode = .sendWithImm)
    (hposted : pending.AsPosted)
    (hdone : h.deliver q peerId peer pending length = (.done n, k)) : h.Ends q pending n k := by
  have htwoSided : pending.request.opcode.consumesRecv = true := by
    rcases hop with hop | hop <;> rw [hop] <;> rfl
  have hsent : pending.request.opcode ≠ .read := by
    rcases hop with hop | hop <;> rw [hop] <;> decide
  unfold deliver at hdone
  cases ht : h.takeRecv peerId peer with
  | none =>
      rw [ht] at hdone
      exact .of_lost hdone (by simp) (.unreceived hconnected htwoSided (takeRecv_eq_none.1 ht)) rfl
  | some taken =>
      obtain ⟨r, taken⟩ := taken
      obtain ⟨rest, hqueue, -, hmemory⟩ := takeRecv_leaves ht
      have hmoves := takeRecv_moves ht
      obtain ⟨peer', hp', hfixed⟩ := hmoves.find_qp hconnected.found
      have hsame (sge : Sge) : writable taken.fabric peer'.pd sge =
          writable h.fabric.work peer.pd sge := by
        rw [(QueuePair.fixed_of_cleared hfixed).1]
        exact writable_congr (congrArg (·.regions) hmoves.skeleton) _ _
      simp only [ht, hp'] at hdone
      split at hdone
      case isTrue hunwritable =>
        refine .of_lost hdone (by simp) (.unusable hconnected hop hqueue (.inl ?_))
          (by rw [completeRecv_memory, hmemory])
        simpa [hsame] using hunwritable
      split at hdone
      case isTrue hshort =>
        refine .of_lost hdone (by simp) (.unusable hconnected hop hqueue (.inr ?_))
          (by rw [completeRecv_memory, hmemory])
        rwa [hlength, hposted.length] at hshort
      case isFalse hfits =>
        obtain ⟨⟨⟩, rfl⟩ := Prod.mk.inj hdone
        have hfits : payloadLength pending ≤ (r.sges.map Sge.addresses).flatten.length := by
          rw [← hlength, Sge.length_addresses]
          exact Nat.not_lt.1 hfits
        refine .inr ⟨hlength, ⟨_, .received hop hconnected hqueue, hfits, ?_⟩,
          received_of_takeRecv ht hp' htwoSided ?_ ?_ ?_ _⟩
        · rw [completeRecv_memory, read_scatterBytes, hmemory, movedBytes, if_neg hsent]
        all_goals split <;> rfl

/-- A write that is done was lost on an unreliable queue pair, or landed in the range it names. -/
theorem remoteWrite_ends
    (hop : pending.request.opcode = .write ∨ pending.request.opcode = .writeWithImm)
    (hposted : pending.AsPosted)
    (hdone : h.remoteWrite q peerId peer pending length = (.done n, k)) : h.Ends q pending n k := by
  have hsent : pending.request.opcode ≠ .read := by
    rcases hop with hop | hop <;> rw [hop] <;> decide
  have hstored (m : Memory) (hm : m = h.memory) :
      ∃ ranges, Target h.fabric.work q pending.request ranges ∧
        payloadLength pending ≤ ranges.flatten.length ∧
        (m.writeBytes pending.request.remote.addr (payload m pending)).read =
          Memory.overwrite h.memory.read ranges.flatten (movedBytes h.memory pending) := by
    subst hm
    refine ⟨_, .written hop, ?_, ?_⟩
    · rw [List.flatten_singleton, Memory.length_span, hposted.length]
    · rw [movedBytes, if_neg hsent, List.flatten_singleton]
      refine Memory.read_writeBytes _ _ ?_
      rw [length_payload, hposted.length]
  simp only [remoteWrite] at hdone
  split at hdone
  case isTrue hdenied =>
    have hdenied : grants h.fabric peer .remoteWrite pending.request.remote
        pending.request.totalLength = false := by
      rw [← hposted.length, ← hlength]
      simpa using hdenied
    exact .of_lost hdone (by simp) (.denied hconnected hop hdenied) rfl
  split at hdone
  case isTrue htwoSided =>
    cases ht : h.takeRecv peerId peer with
    | none =>
        rw [ht] at hdone
        exact .of_lost hdone (by simp) (.unreceived hconnected htwoSided (takeRecv_eq_none.1 ht)) rfl
    | some taken =>
        obtain ⟨r, taken⟩ := taken
        obtain ⟨-, -, -, hmemory⟩ := takeRecv_leaves ht
        obtain ⟨peer', hp', -⟩ := (takeRecv_moves ht).find_qp hconnected.found
        simp only [ht] at hdone
        obtain ⟨⟨⟩, rfl⟩ := Prod.mk.inj hdone
        refine .inr ⟨hlength, ?_, received_of_takeRecv ht hp' htwoSided rfl ?_ ?_ _⟩
        · rw [completeRecv_memory]
          exact hstored taken.memory hmemory
        · simp [Completion.ofReceive]
        · rfl
  case isFalse honeSided =>
    obtain ⟨⟨⟩, rfl⟩ := Prod.mk.inj hdone
    exact .inr ⟨hlength, hstored h.memory rfl,
      [], .oneSided (Bool.not_eq_true _ ▸ honeSided), (List.append_nil _).symm⟩

end Peer

theorem remoteRead_ends (hop : pending.request.opcode = .read)
    (hlength : length.toNat = payloadLength pending) (hposted : pending.AsPosted)
    (hdone : h.remoteRead peer pending.request length = (.done n, k)) : h.Ends q pending n k := by
  unfold remoteRead at hdone
  split at hdone
  case isTrue =>
    obtain ⟨⟨⟩, rfl⟩ := Prod.mk.inj hdone
    refine .inr ⟨hlength, ⟨_, .fetched hop, ?_, ?_⟩,
      [], .oneSided (by rw [hop]; rfl), (List.append_nil _).symm⟩
    · rw [Sge.length_addresses, hposted.length]
      exact Nat.le_refl _
    · rw [read_scatterBytes, movedBytes, if_pos hop, hlength]
  case isFalse => cases hdone

/-- Whatever is done, atomics apart, was lost on an unreliable queue pair or landed. -/
theorem executeFor_ends (hnumbered : h.fabric.work.Numbered) (hposted : pending.AsPosted)
    (hop : pending.request.opcode.isAtomic = false)
    (hdone : h.executeFor q pending = (.done n, k)) : h.Ends q pending n k := by
  simp only [executeFor] at hdone
  split at hdone
  · cases hdone
  split at hdone
  · cases hdone
  split at hdone
  · cases hdone
  case isFalse hlong =>
  have hlength : (UInt32.ofNat (payloadLength pending)).toNat = payloadLength pending := by
    have hmax : maxMessageSize < UInt32.size := by decide
    exact UInt32.toNat_ofNat_of_lt' (Nat.lt_of_le_of_lt (Nat.not_lt.1 hlong) hmax)
  cases hpeer : peerOf? h.fabric q with
  | none =>
      simp only [hpeer] at hdone
      refine .of_lost hdone (by simp) (.unconnected fun peerId peer hconnected => ?_) rfl
      have hfound : peerOf? h.fabric.work q = some (peerId, peer) := hconnected.peerOf hnumbered
      cases hpeer.symm.trans hfound
  | some found =>
      obtain ⟨peerId, peer⟩ := found
      have hconnected : h.fabric.work.Connected q peerId peer :=
        Fabric.connected_of_peerOf hnumbered hpeer
      simp only [hpeer] at hdone
      cases hcase : pending.request.opcode <;> simp only [hcase] at hdone
      case send => exact deliver_ends hconnected hlength (.inl hcase) hposted hdone
      case sendWithImm => exact deliver_ends hconnected hlength (.inr hcase) hposted hdone
      case write => exact remoteWrite_ends hconnected hlength (.inl hcase) hposted hdone
      case writeWithImm => exact remoteWrite_ends hconnected hlength (.inr hcase) hposted hdone
      case read => exact remoteRead_ends hcase hlength hposted hdone
      case compareSwap | fetchAdd => rw [hcase] at hop; cases hop

/-! ## Steps of the engine -/

/-- What is written down of a send request that succeeds: it is retired, and its owner gets a completion
of the length unless it is not to be told. -/
def retirement (id : NativeId) (q : QueuePair) (request : SendRequest) (n : UInt32) : List Event :=
  .sendRetired id request .success ::
    if q.reports request .success then
      [.handed q.sendCq (sendCompletion q.number request .success n)]
    else []

/-- The data of a request landed: memory is as before but for what was stored in the target ranges, one
byte after the other, and every completion tells how much that was. Where the ranges are disjoint, the
data can be read back from them. -/
structure Lands (g : Host) (id : NativeId) (q : QueuePair) (request : SendRequest)
    (data : List UInt8) (k : Host) : Prop where
  stored : ∃ ranges, Target g.fabric q request ranges ∧ data.length ≤ ranges.flatten.length ∧
    k.memory.read = Memory.overwrite g.memory.read ranges.flatten data ∧
    (ranges.Pairwise List.Disjoint → (ranges.flatten.map k.memory.read).take data.length = data)
  told : ∃ n es, n.toNat = data.length ∧ Received request n es ∧
    k.entries = g.entries ++ es ++ retirement id q request n

theorem conclude_done (h : Host) (id : NativeId) (q : QueuePair) (pending : PendingSend)
    (n : UInt32) :
    (h.conclude id q pending (.done n)).2.memory = h.memory ∧
      (h.conclude id q pending (.done n)).2.entries =
        h.entries ++ retirement id q pending.request n := by
  have hreports : q.reports pending.request .success =
      (q.signalAll || pending.request.flags.contains .signaled) := by
    simp [Fabric.QueuePair.reports]
  have hretired := note_entries h (.sendRetired id pending.request .success)
  simp only [conclude, retirement, hreports]
  split
  · refine ⟨complete_memory _ _ _ _, ?_⟩
    rw [complete_entries, hretired]
    exact List.append_assoc _ _ _
  · exact ⟨rfl, hretired⟩

/-- Whether the owner of a queue pair is told, and where, does not change. -/
theorem retirement_congr {q' : QueuePair} (hfixed : q'.cleared = q.cleared) (id : NativeId)
    (request : SendRequest) (n : UInt32) :
    retirement id q' request n = retirement id q request n := by
  obtain ⟨-, hnumber, -, hsendCq, -, -, hsignal, -⟩ := QueuePair.fixed_of_cleared hfixed
  have hreports : q'.reports request .success = q.reports request .success := by
    simp only [Fabric.QueuePair.reports, hsignal]
  rw [retirement, retirement, hreports, hnumber, hsendCq]

/-- A step that executed a request that is done. -/
theorem Consumption.done (hc : g.Consumption id q pending rest (.done n) k)
    (hstep : g.step id = (true, k)) :
    ∃ e, (g.popped id rest).executeFor { q with sendQueue := rest } pending = (.done n, e) ∧
      k.memory = e.memory ∧ k.entries = e.entries ++ retirement id q pending.request n := by
  have hpopped := popped_find hc.found rest
  have hexecute : (g.popped id rest).execute id pending =
      (g.popped id rest).executeFor { q with sendQueue := rest } pending := by
    simp only [execute, hpopped]
  obtain ⟨hmoves, -, -⟩ := execute_executed hpopped pending
  obtain ⟨q', hq', hfixed⟩ := hmoves.find_qp hpopped
  have houtcome := hc.outcome_eq
  have heq := step_eq hc.found hc.ready hc.head
  simp only [hq', hstep, houtcome] at heq
  rw [hexecute] at houtcome heq
  refine ⟨_, Prod.ext houtcome rfl, ?_⟩
  obtain ⟨hmemory, hentries⟩ := conclude_done
    ((g.popped id rest).executeFor { q with sendQueue := rest } pending).2 id q' pending n
  rw [← heq] at hmemory hentries
  rw [retirement_congr hfixed] at hentries
  exact ⟨hmemory, hentries⟩

theorem target_of_popped {request : SendRequest} {ranges : List (List UInt64)}
    (ht : Target (g.popped id rest).fabric.work { q with sendQueue := rest } request ranges) :
    Target g.fabric q request ranges := by
  cases ht with
  | @received peerId p recv recvs hop hconnected hqueue =>
      obtain ⟨p', hconnected', -, -, hsrq⟩ := connected_of_popped hconnected
      have hsame : Fabric.recvQueueOf peerId p' = Fabric.recvQueueOf peerId p := by
        rw [Fabric.recvQueueOf, Fabric.recvQueueOf, hsrq]
      have hqueue' : g.fabric.recvRequests (Fabric.recvQueueOf peerId p') = recv :: recvs := by
        rw [hsame, ← popped_recvRequests g id rest]
        exact hqueue
      exact .received hop hconnected' hqueue'
  | written hop => exact .written hop
  | fetched hop => exact .fetched hop

/-- While a request is off its queue to be executed, its queue pair has the peer that it had. -/
theorem connected_popped {p : QueuePair} (hconnected : g.fabric.Connected q peerId p)
    (rest : List PendingSend) :
    ∃ p', (g.popped id rest).fabric.work.Connected { q with sendQueue := rest } peerId p' := by
  have hfound := hconnected.found
  by_cases hid : peerId = id
  · subst hid
    exact ⟨_, popped_find hfound rest, hconnected.number, hconnected.ready, hconnected.transport,
      hconnected.back⟩
  · refine ⟨p, ?_, hconnected.number, hconnected.ready, hconnected.transport, hconnected.back⟩
    have hother := Table.find?_modify g.fabric.qps id peerId fun q => { q with sendQueue := rest }
    rw [if_neg hid, hfound] at hother
    exact hother

/-- Why a request is lost has nothing to do with what waits behind it. -/
theorem loses_of_popped {request : SendRequest}
    (hl : Loses (g.popped id rest).fabric.work { q with sendQueue := rest } request) :
    Loses g.fabric q request := by
  have hqueue {peerId : NativeId} {p p' : QueuePair} (hsrq : p'.srq = p.srq) :
      g.fabric.recvRequests (Fabric.recvQueueOf peerId p') =
        (g.popped id rest).fabric.work.recvRequests (Fabric.recvQueueOf peerId p) := by
    have hsame : Fabric.recvQueueOf peerId p' = Fabric.recvQueueOf peerId p := by
      rw [Fabric.recvQueueOf, Fabric.recvQueueOf, hsrq]
    rw [hsame, ← popped_recvRequests g id rest]
    rfl
  cases hl with
  | unconnected hnone =>
      refine .unconnected fun peerId p hconnected => ?_
      obtain ⟨p', hconnected'⟩ := connected_popped hconnected rest
      exact hnone peerId p' hconnected'
  | denied hconnected hop hdenied =>
      obtain ⟨p', hconnected', hpd, haccess, -⟩ := connected_of_popped hconnected
      refine .denied hconnected' hop ?_
      rw [grants, hpd, haccess]
      exact hdenied
  | unreceived hconnected hop hempty =>
      obtain ⟨p', hconnected', -, -, hsrq⟩ := connected_of_popped hconnected
      exact .unreceived hconnected' hop ((hqueue hsrq).trans hempty)
  | unusable hconnected hop htaken hunusable =>
      obtain ⟨p', hconnected', hpd, -, hsrq⟩ := connected_of_popped hconnected
      refine .unusable hconnected' hop ((hqueue hsrq).trans htaken) ?_
      rw [hpd]
      exact hunusable

/-- What a request carries is known from its post: the payload of an inline request was taken then. -/
theorem movedBytes_ofPosted (posted : Memory × SendRequest) (m : Memory)
    (hplain : posted.2.isInline = true → posted.2.opcode.writesLocal = false) :
    movedBytes m (.ofPosted posted) = posted.2.carries posted.1 m := by
  simp only [SendRequest.carries, ← gatherBytes_eq]
  cases hinline : posted.2.isInline with
  | false => simp [movedBytes, PendingSend.ofPosted, payload, payloadLength, Memory.readBytes, hinline]
  | true =>
      have hsent : posted.2.opcode ≠ .read := by
        intro hread
        have hwrites := hplain hinline
        rw [hread] at hwrites
        cases hwrites
      simp [movedBytes, PendingSend.ofPosted, payload, hinline, hsent]

theorem Consumption.lands {posting : Memory × SendRequest}
    (hc : g.Consumption id q (.ofPosted posting) rest (.done n) k)
    (hstep : g.step id = (true, k)) (hg : g.Moment)
    (hop : posting.2.opcode.isAtomic = false) :
    (q.transport = .unreliable ∧ Loses g.fabric q posting.2 ∧ k.memory = g.memory) ∨
      g.Lands id q posting.2 (posting.2.carries posting.1 g.memory) k := by
  obtain ⟨e, hdone, hmemory, hentries⟩ := hc.done hstep
  have hposted := PendingSend.ofPosted_asPosted posting
  have hsame : (g.popped id rest).fabric.skeleton = g.fabric.skeleton :=
    g.fabric.updateQp_skeleton id fun _ => rfl
  have hnumbered : (g.popped id rest).fabric.work.Numbered :=
    (hg.sound.of_skeleton hsame).intact.numbers
  rcases executeFor_ends hnumbered hposted hop hdone with
    ⟨hunreliable, hloses, hkept⟩ | ⟨hlength, ⟨ranges, htarget, hfits, hstored⟩, es, hreceived, htaken⟩
  · exact .inl ⟨hunreliable, loses_of_popped hloses, hmemory.trans hkept⟩
  · have hhead : PendingSend.ofPosted posting ∈ q.sendQueue := by
      rw [hc.head]
      exact List.mem_cons_self
    -- an inline payload is the one of the post, any other is read now
    have hbytes := movedBytes_ofPosted posting g.memory fun hinline =>
      hg.takesOnly hc.found _ hhead (hposted.inlined.trans hinline)
    have hcarried := length_movedBytes g.memory (.ofPosted posting)
    rw [hbytes] at hcarried
    have hstored : k.memory.read =
        Memory.overwrite g.memory.read ranges.flatten (posting.2.carries posting.1 g.memory) := by
      rw [hmemory, hstored, ← hbytes]
      rfl
    rw [← hcarried] at hfits hlength
    refine .inr ⟨⟨ranges, target_of_popped htarget, hfits, hstored, fun hdisjoint => ?_⟩,
      n, es, hlength, hreceived, ?_⟩
    · rw [hstored]
      refine Memory.take_map_overwrite (List.nodup_flatten.2 ⟨htarget.nodup ?_, hdisjoint⟩) hfits
      rw [← hposted.length, ← hcarried, ← hlength]
      exact Nat.le_trans (Nat.le_of_lt n.toNat_lt) (by decide)
    · rw [hentries, htaken]
      rfl

/-- The engine consumed a request. It is one that was posted, and as many of those posted later are
still queued as there are in the queue behind it. If it is not atomic and was done, its data landed,
unless its sender is unreliable and it gets through to no peer: then memory is left alone. -/
structure Transferred (past : List (Host × Operation)) (g : Host) (id : NativeId) (q : QueuePair)
    (pending : PendingSend) (rest : List PendingSend) (outcome : SendOutcome) (k : Host) : Prop
    extends g.Consumption id q pending rest outcome k where
  transfer : ∃ before m after, posted id past = before ++ (m, pending.request) :: after ∧
    after.length = rest.length ∧
    (pending.request.opcode.isAtomic = false → (∃ n, outcome = .done n) →
      (q.transport = .unreliable ∧ Loses g.fabric q pending.request ∧ k.memory = g.memory) ∨
        g.Lands id q pending.request (pending.request.carries m g.memory) k)

/-- A step of the engine, after what was done in the past. -/
def Transfers (past : List (Host × Operation)) (g k : Host) : Prop :=
  ∃ id q pending rest outcome, g.step id = (true, k) ∧
    Transferred past g id q pending rest outcome k

variable {past : List (Host × Operation)}

theorem Recalls.transfers (hrecalls : g.Recalls past) (hg : g.Moment)
    (hstep : g.step id = (true, k)) : Transfers past g k := by
  obtain ⟨q, pending, rest, outcome, hc⟩ := step_consumption hstep
  -- the head of the queue is the post that has as many after it as are queued behind
  obtain ⟨older, hqueue⟩ := hrecalls hc.found
  rw [hc.head] at hqueue
  obtain ⟨before, queued, hposted, -, hqueued⟩ := List.map_eq_append_iff.1 hqueue.symm
  obtain ⟨posting, after, rfl, rfl, rfl⟩ := List.map_eq_cons_iff.1 hqueued
  refine ⟨id, q, _, _, outcome, hstep, hc, before, posting.1, after, hposted,
    (List.length_map _).symm, fun hop hdone => ?_⟩
  obtain ⟨n, rfl⟩ := hdone
  exact hc.lands hstep hg hop

theorem Steps.transfers (hs : g.Steps k) (hrecalls : g.Recalls past) (hg : g.Moment) :
    Relation.ReflTransGen (Transfers past) g k := by
  have hall : Relation.ReflTransGen (Transfers past) g k ∧ k.Moment := by
    induction hs with
    | refl => exact ⟨.refl, hg⟩
    | @tail i k hfirst hlast ih =>
        obtain ⟨id, hstep⟩ := hlast
        obtain ⟨htransfers, hmoment⟩ := ih
        have hi : i.Recalls past := Steps.recalls hfirst hrecalls
        exact ⟨htransfers.tail (hi.transfers hmoment hstep), (hmoment.step hstep).2⟩
  exact hall.1

/-- After any course of operations, another one executes requests in steps of the engine, and each
step executes a request that was posted before or by this operation. If it is done and its data was
not lost by an unreliable sender, the data landed exactly: memory is as it was just before the step,
but for the bytes that the request carries, in order over its target ranges. -/
theorem course_transfers (hc : Course devices past h) (op : Operation) :
    ∃ g, h.Prepares op g ∧
      Relation.ReflTransGen (Transfers (past ++ [(h, op)])) g (h.perform op) := by
  obtain ⟨g, hready⟩ := perform_readies hc.reachable.sound.fabric op
  exact ⟨g, hready.toPrepares, hready.steps.transfers (hready.recalls hc.recalls)
    (hready.toPrepares.moment hc.reachable)⟩

/-- An inline message waits for a receive request while memory is changed under it. What lands is what
was there when it was posted. -/
theorem inline_transfers :
    let connect (state : QpState) (mask : QpMask) : Operation :=
      .modifyQp 5 { state := state.code, port := 1, destination := 0x100 } (.state ||| mask)
    let h := (({} : Host).withDevices [{}]).performAll
      [.openDevice { native := 1, name := none }, .allocPd 2, .createCq 2 4 none 0 0,
        .createQp 3
          { sendCq := 4, recvCq := 4, srq := none, transport := .reliable, signalAll := true,
            caps := { maxInlineData := 8 } },
        connect .init .port, connect .rtr .destination, connect .rts {},
        .regMr 3 0x40000 64 .standard, .setMemory (({} : Memory).write 0x40000 7),
        .postSend 5 [{ sges := [⟨0x40000, 4, 0⟩], flags := .inlineData }], .setMemory {}]
    let receive : Operation := .postRecv 5 [{ sges := [⟨0x40010, 8, 0x1000⟩] }]
    h.memory.read 0x40000 = 0 ∧ (h.perform receive).memory.read 0x40010 = 7 ∧
      ∃ past g, Course [{}] past h ∧ h.Prepares receive g ∧
        Relation.ReflTransGen (Transfers (past ++ [(h, receive)])) g (h.perform receive) := by
  intro connect h receive
  obtain ⟨past, hc⟩ : ∃ past, Course [{}] past h :=
    reachable_iff_course.1 ((Reachable.fresh {}).performAll _)
  obtain ⟨g, hprepares, htransfers⟩ := course_transfers hc receive
  exact ⟨by decide +kernel, by decide +kernel, past, g, hc, hprepares, htransfers⟩

end Host

end Rdma
