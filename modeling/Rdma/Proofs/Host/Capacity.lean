import Rdma.Proofs.Transfer.Receiving

/-!
# Queues within their capacities

A post takes requests as long as there is room, and refuses those with too many entries. Whatever
else happens adds to no queue: the engine takes requests off, and creating and destroying bring and
remove whole queues. So every queue keeps within the capacity it was created with, also where the
engine puts a blocked request back.

* `Act.takesIn`, `Change.takesIn` — nothing gets into a queue that no event says it accepted;
* `intake_hasRoom` — there is room for what a post accepts;
* `Reachable.hasRoom` — the run.
-/

namespace Rdma

open Fabric (QueuePair PendingSend SharedQueue)

/-- At most `maxWr` requests, of at most `maxSge` entries each. -/
structure Within (maxWr maxSge : UInt32) (requests : List (List Sge)) : Prop where
  length : requests.length ≤ maxWr.toNat
  entries : ∀ sges ∈ requests, sges.length ≤ maxSge.toNat

namespace Fabric

/-- Every queue has room for what it holds and for what the events say that it accepted. -/
structure HasRoom (f : Fabric) (es : List Event) : Prop where
  sends : ∀ {id q}, f.qps.find? id = some q →
    Within q.caps.maxSendWr q.caps.maxSendSge
      ((q.sendQueue.map (·.request) ++ es.filterMap (Event.sendAccepted? id)).map (·.sges))
  inlined : ∀ {id q}, f.qps.find? id = some q →
    ∀ r ∈ q.sendQueue.map (·.request) ++ es.filterMap (Event.sendAccepted? id),
      r.isInline = true → r.totalLength ≤ q.caps.maxInlineData.toNat
  own : ∀ {id q}, f.qps.find? id = some q → q.srq = none →
    Within q.caps.maxRecvWr q.caps.maxRecvSge
      ((q.recvQueue ++ es.filterMap (Event.recvAccepted? (.ofQp id))).map (·.sges))
  shared : ∀ {id s}, f.srqs.find? id = some s →
    Within s.maxWr s.maxSge
      ((s.queue ++ es.filterMap (Event.recvAccepted? (.shared id))).map (·.sges))

/-- The queues of `g` are new and empty, or they are queues of `f` with nothing in them but what they
held and what the events say that they accepted. -/
structure TakesIn (f : Fabric) (es : List Event) (g : Fabric) : Prop where
  qps : ∀ {id q'}, g.qps.find? id = some q' → (q'.sendQueue = [] ∧ q'.recvQueue = []) ∨
    ∃ q, f.qps.find? id = some q ∧ q'.cleared = q.cleared ∧
      (q'.sendQueue.map (·.request)).Sublist
        (q.sendQueue.map (·.request) ++ es.filterMap (Event.sendAccepted? id)) ∧
      q'.recvQueue.Sublist (q.recvQueue ++ es.filterMap (Event.recvAccepted? (.ofQp id)))
  srqs : ∀ {id s'}, g.srqs.find? id = some s' → s'.queue = [] ∨
    ∃ s, f.srqs.find? id = some s ∧ s'.asCreated = s.asCreated ∧
      s'.queue.Sublist (s.queue ++ es.filterMap (Event.recvAccepted? (.shared id)))

end Fabric

section

variable {f g : Fabric} {es : List Event} {maxWr maxSge : UInt32}

theorem Within.nil : Within maxWr maxSge [] := ⟨Nat.zero_le _, List.forall_mem_nil _⟩

theorem Within.sublist {requests requests' : List (List Sge)} (h : Within maxWr maxSge requests)
    (hsub : requests'.Sublist requests) : Within maxWr maxSge requests' where
  length := Nat.le_trans hsub.length_le h.length
  entries sges hsges := h.entries sges (hsub.subset hsges)

/-- Room is used by nothing but what is accepted. -/
theorem Fabric.TakesIn.hasRoom (h : f.TakesIn es g) (hroom : f.HasRoom es) : g.HasRoom [] := by
  constructor
  case sends =>
    intro id q' hq'
    rw [List.filterMap_nil, List.append_nil]
    rcases h.qps hq' with ⟨hsends, -⟩ | ⟨q, hq, hfixed, hsends, -⟩
    · rw [hsends]
      exact .nil
    · obtain ⟨-, -, -, -, -, -, -, hcaps⟩ := QueuePair.fixed_of_cleared hfixed
      rw [hcaps]
      exact (hroom.sends hq).sublist (hsends.map _)
  case inlined =>
    intro id q' hq' r hr
    rw [List.filterMap_nil, List.append_nil] at hr
    rcases h.qps hq' with ⟨hsends, -⟩ | ⟨q, hq, hfixed, hsends, -⟩
    · rw [hsends] at hr
      cases hr
    · obtain ⟨-, -, -, -, -, -, -, hcaps⟩ := QueuePair.fixed_of_cleared hfixed
      rw [hcaps]
      exact hroom.inlined hq r (hsends.subset hr)
  case own =>
    intro id q' hq' hsrq
    rw [List.filterMap_nil, List.append_nil]
    rcases h.qps hq' with ⟨-, hrecvs⟩ | ⟨q, hq, hfixed, -, hrecvs⟩
    · rw [hrecvs]
      exact .nil
    · obtain ⟨-, -, -, -, -, hsame, -, hcaps⟩ := QueuePair.fixed_of_cleared hfixed
      rw [hcaps]
      exact (hroom.own hq (hsame.symm.trans hsrq)).sublist (hrecvs.map _)
  case shared =>
    intro id s' hs'
    rw [List.filterMap_nil, List.append_nil]
    rcases h.srqs hs' with hempty | ⟨s, hs, hfixed, hqueue⟩
    · rw [hempty]
      exact .nil
    · have hmaxWr : s'.maxWr = s.maxWr := congrArg (·.maxWr) hfixed
      have hmaxSge : s'.maxSge = s.maxSge := congrArg (·.maxSge) hfixed
      rw [hmaxWr, hmaxSge]
      exact (hroom.shared hs).sublist (hqueue.map _)

/-! ## Acts -/

/-- Acts take from shared receive queues, and leave them what they were created as. -/
theorem Act.srqs {s t : Scene} (h : Act s es t) {id : NativeId} {q' : SharedQueue}
    (hq' : t.fabric.srqs.find? id = some q') :
    ∃ q, s.fabric.srqs.find? id = some q ∧ q'.asCreated = q.asCreated ∧ q'.queue <:+ q.queue := by
  cases h with
  | fail | flushSend | flushRecv | launch | retire =>
      exact ⟨q', hq', rfl, List.suffix_refl _⟩
  | @receive f _ peerId _ _ peer r rest status _ _ _ _ _ hqueue _ =>
      have htaken : (f.afterReceipt (Fabric.recvQueueOf peerId peer) rest peerId status).srqs =
          (f.setRecvRequests rest (Fabric.recvQueueOf peerId peer)).srqs := by
        unfold Fabric.afterReceipt
        split <;> rfl
      rw [htaken] at hq'
      generalize Fabric.recvQueueOf peerId peer = queue at hqueue hq'
      cases queue with
      | ofQp => exact ⟨q', hq', rfl, List.suffix_refl _⟩
      | shared srq =>
          rcases Table.modified hq' with ⟨rfl, q, hq, rfl⟩ | hq'
          · simp only [Fabric.recvRequests, hq, Option.map_some, Option.getD_some] at hqueue
            refine ⟨q, hq, rfl, ?_⟩
            rw [hqueue]
            exact List.suffix_cons r rest
          · exact ⟨q', hq', rfl, List.suffix_refl _⟩

theorem Act.takesIn {s t : Scene} (h : Act s es t) : s.fabric.TakesIn [] t.fabric where
  qps hq' := by
    obtain ⟨q, hq, hbecomes⟩ := h.spends.earlier hq'
    refine .inr ⟨q, hq, hbecomes.fixed, ?_, ?_⟩
    · rw [List.filterMap_nil, List.append_nil]
      exact hbecomes.sends.sublist.map _
    · rw [List.filterMap_nil, List.append_nil]
      exact hbecomes.recvs.sublist
  srqs hq' := by
    obtain ⟨q, hq, hfixed, hqueue⟩ := h.srqs hq'
    refine .inr ⟨q, hq, hfixed, ?_⟩
    rw [List.filterMap_nil, List.append_nil]
    exact hqueue.sublist

theorem Acts.hasRoom {s t : Scene} (h : Acts s es t) (hroom : s.fabric.HasRoom []) :
    t.fabric.HasRoom [] :=
  h.keeps (P := fun s => s.fabric.HasRoom []) (fun _ _ _ hact => hact.takesIn.hasRoom) hroom

/-! ## Changes -/

/-- A change puts on a queue only what its events say was accepted. -/
theorem Change.takesIn (h : Change f es g) : f.TakesIn es g := by
  constructor
  case qps =>
    intro id q' hq'
    have hkept (hq : ∃ q, f.qps.find? id = some q ∧ q'.cleared = q.cleared ∧
        q'.sendQueue = q.sendQueue ∧ q'.recvQueue = q.recvQueue) :
        ∃ q, f.qps.find? id = some q ∧ q'.cleared = q.cleared ∧
          (q'.sendQueue.map (·.request)).Sublist
            (q.sendQueue.map (·.request) ++ es.filterMap (Event.sendAccepted? id)) ∧
          q'.recvQueue.Sublist (q.recvQueue ++ es.filterMap (Event.recvAccepted? (.ofQp id))) := by
      obtain ⟨q, hq, hfixed, hsends, hrecvs⟩ := hq
      rw [hsends, hrecvs]
      exact ⟨q, hq, hfixed, List.sublist_append_left _ _, List.sublist_append_left _ _⟩
    have hsame (hq : f.qps.find? id = some q') := hkept ⟨q', hq, rfl, rfl, rfl⟩
    cases h with
    | aside hqps | addSrq _ hqps | dropSrq _ hqps => exact .inr (hsame (hqps ▸ hq'))
    | addQp hnew _ hqps =>
        rcases Table.inserted (hqps ▸ hq') with ⟨-, rfl⟩ | hq'
        · rw [← hnew]
          exact .inl ⟨rfl, rfl⟩
        · exact .inr (hsame hq')
    | dropQp _ hqps => exact .inr (hsame (Table.erased (hqps ▸ hq')).2)
    | modify =>
        rcases Table.modified hq' with ⟨-, q, hq, rfl⟩ | hq'
        · exact .inr (hkept ⟨q, hq, rfl, rfl, rfl⟩)
        · exact .inr (hsame hq')
    | clear =>
        rcases Table.modified hq' with ⟨-, q, -, rfl⟩ | hq'
        · exact .inl ⟨rfl, rfl⟩
        · exact .inr (hsame hq')
    | @postSends _ _ accepted =>
        rcases Table.modified hq' with ⟨rfl, q, hq, rfl⟩ | hq'
        · have hread : (accepted.map fun p => Event.sendAccepted id p.request).filterMap
              (Event.sendAccepted? id) = accepted.map (·.request) := by
            rw [← filterMap_accepted id (accepted.map (·.request)), List.map_map]
            rfl
          refine .inr ⟨q, hq, rfl, ?_, List.sublist_append_left _ _⟩
          rw [hread, List.map_append]
        · exact .inr (hsame hq')
    | @postRecvs queue accepted =>
        cases queue with
        | shared => exact .inr (hsame hq')
        | ofQp id' =>
            rcases Table.modified hq' with ⟨rfl, q, hq, rfl⟩ | hq'
            · refine .inr ⟨q, hq, rfl, List.sublist_append_left _ _, ?_⟩
              rw [filterMap_recvAccepted]
              simp [Fabric.recvRequests, hq]
            · exact .inr (hsame hq')
  -- a shared queue grows by a post to it and by nothing else
  case srqs =>
    intro id s' hs'
    have hsame (hs : f.srqs.find? id = some s') : ∃ s, f.srqs.find? id = some s ∧
        s'.asCreated = s.asCreated ∧
          s'.queue.Sublist (s.queue ++ es.filterMap (Event.recvAccepted? (.shared id))) :=
      ⟨s', hs, rfl, List.sublist_append_left _ _⟩
    cases h with
    | aside _ hsrqs | addQp _ _ _ hsrqs | dropQp _ _ hsrqs => exact .inr (hsame (hsrqs ▸ hs'))
    | modify | clear | postSends => exact .inr (hsame hs')
    | addSrq hempty _ hsrqs =>
        rcases Table.inserted (hsrqs ▸ hs') with ⟨-, rfl⟩ | hs'
        · exact .inl hempty
        · exact .inr (hsame hs')
    | dropSrq _ _ hsrqs => exact .inr (hsame (Table.erased (hsrqs ▸ hs')).2)
    | @postRecvs queue accepted =>
        cases queue with
        | ofQp => exact .inr (hsame hs')
        | shared id' =>
            rcases Table.modified hs' with ⟨rfl, s, hs, rfl⟩ | hs'
            · refine .inr ⟨s, hs, rfl, ?_⟩
              rw [filterMap_recvAccepted]
              simp [Fabric.recvRequests, hs]
            · exact .inr (hsame hs')

/-! ## Posting -/

/-- A queue that has room for each request that is accepted has room for all of them. -/
theorem length_accept_le {α β : Type} {check : Nat → α → Except OsError β} {queued limit : Nat}
    (hcheck : ∀ i a b, check i a = .ok b → queued + i < limit) (index : Nat)
    (requests : List α) (hroom : queued + index ≤ limit) :
    queued + index + (Rdma.accept check index requests).1.length ≤ limit := by
  induction requests generalizing index with
  | nil => exact hroom
  | cons a rest ih =>
      simp only [accept]
      cases hok : check index a with
      | error => exact hroom
      | ok b =>
          have hrest := ih (index + 1) (hcheck index a b hok)
          simp only [List.length_cons]
          omega

/-- What a post accepts fits into the queue, if only what fits passes the check. -/
theorem Within.accept {α β : Type} {check : Nat → α → Except OsError β} (back : β → α)
    {entries : α → List Sge} {queued : List α}
    (hback : ∀ i a b, check i a = .ok b → back b = a)
    (hcheck : ∀ i a b, check i a = .ok b →
      queued.length + i < maxWr.toNat ∧ (entries a).length ≤ maxSge.toNat)
    (h : Within maxWr maxSge (queued.map entries)) (requests : List α) :
    Within maxWr maxSge
      ((queued ++ acceptedOf requests
        (Rejection.answer (Rdma.accept check 0 requests).2)).map entries) := by
  rw [← accept_answer hback]
  obtain ⟨-, -, hchecked⟩ := accept_spec hback 0 requests
  constructor
  case length =>
    have hlength := length_accept_le (fun i a b hok => (hcheck i a b hok).1) 0 requests
      (by simpa using h.length)
    simpa using hlength
  case entries =>
    intro sges hsges
    rw [List.map_append, List.mem_append] at hsges
    rcases hsges with hqueued | haccepted
    · exact h.entries sges hqueued
    · simp only [List.mem_map] at haccepted
      obtain ⟨_, ⟨b, hb, rfl⟩, rfl⟩ := haccepted
      obtain ⟨i, a, hok⟩ := hchecked b hb
      rw [hback i a b hok]
      exact (hcheck i a b hok).2

end

namespace Fabric

/-- A send that is accepted fits: in the queue, in its entries and, if inline, in its payload. -/
theorem acceptSend_room {f : Fabric} {m : Memory} {q : QueuePair} {queued : Nat}
    {request : SendRequest} {p : PendingSend} (hok : f.acceptSend m q queued request = .ok p) :
    queued < q.caps.maxSendWr.toNat ∧ request.sges.length ≤ q.caps.maxSendSge.toNat ∧
      (request.isInline = true → request.totalLength ≤ q.caps.maxInlineData.toNat) := by
  unfold acceptSend at hok
  obtain ⟨hentries, hok⟩ := refuse_eq_ok.1 hok
  have hentries := Nat.le_of_not_lt hentries
  by_cases hinline : request.isInline = true
  case neg =>
    simp only [hinline, Bool.false_eq_true, if_false, pure_eq_ok, ok_bind] at hok
    exact ⟨Nat.lt_of_not_le (refuse_eq_ok.1 hok).1, hentries, fun h => absurd h hinline⟩
  case pos =>
    cases hdata : f.captureInline m q.pd q.caps.maxInlineData request with
    | none => simp only [hinline, if_true, hdata, throw_eq_error, error_bind] at hok; cases hok
    | some data =>
        simp only [hinline, if_true, hdata, pure_eq_ok, ok_bind] at hok
        refine ⟨Nat.lt_of_not_le (refuse_eq_ok.1 hok).1, hentries, fun _ => ?_⟩
        -- a payload is captured only if it is not too long
        simp only [captureInline] at hdata
        split at hdata
        · cases hdata
        split at hdata
        · cases hdata
        case isFalse hlength => exact Nat.le_of_not_lt hlength

theorem acceptRecv_room {maxWr maxSge : UInt32} {queued : Nat} {request r : RecvRequest}
    (hok : acceptRecv maxWr maxSge queued request = .ok r) :
    queued < maxWr.toNat ∧ request.sges.length ≤ maxSge.toNat := by
  unfold acceptRecv at hok
  obtain ⟨hentries, hok⟩ := refuse_eq_ok.1 hok
  obtain ⟨hroom, -⟩ := refuse_eq_ok.1 hok
  exact ⟨Nat.lt_of_not_le hroom, Nat.le_of_not_lt hentries⟩

variable {f : Fabric} {id : NativeId}

/-- Nothing was accepted. -/
theorem HasRoom.of_nothing (hroom : f.HasRoom []) {es : List Event}
    (hsend : ∀ id, es.filterMap (Event.sendAccepted? id) = [])
    (hrecv : ∀ queue, es.filterMap (Event.recvAccepted? queue) = []) : f.HasRoom es where
  sends hq := by rw [hsend]; exact hroom.sends hq
  inlined hq := by rw [hsend]; exact hroom.inlined hq
  own hq := by rw [hrecv]; exact hroom.own hq
  shared hs := by rw [hrecv]; exact hroom.shared hs

/-- Posting sends leaves room if it does in the one send queue they go to. -/
theorem HasRoom.postSends (hroom : f.HasRoom []) {requests : List SendRequest}
    (hwithin : ∀ q, f.qps.find? id = some q → Within q.caps.maxSendWr q.caps.maxSendSge
      ((q.sendQueue.map (·.request) ++ requests).map (·.sges)))
    (hinlined : ∀ q, f.qps.find? id = some q → ∀ r ∈ requests, r.isInline = true →
      r.totalLength ≤ q.caps.maxInlineData.toNat) :
    f.HasRoom (requests.map (.sendAccepted id)) := by
  have hother {id' : NativeId} (hid : id' ≠ id) :
      (requests.map (.sendAccepted id)).filterMap (Event.sendAccepted? id') = [] :=
    filterMap_map_none (fun _ => if_neg (Ne.symm hid)) requests
  constructor
  case sends =>
    intro id' q hq
    by_cases hid : id' = id
    · subst hid
      rw [filterMap_accepted]
      exact hwithin q hq
    · rw [hother hid]
      exact hroom.sends hq
  case inlined =>
    intro id' q hq r hr
    by_cases hid : id' = id
    · subst hid
      rw [filterMap_accepted] at hr
      rcases List.mem_append.1 hr with hr | hr
      · exact hroom.inlined hq r (List.mem_append_left _ hr)
      · exact hinlined q hq r hr
    · rw [hother hid] at hr
      exact hroom.inlined hq r hr
  case own =>
    intro id' q hq
    rw [filterMap_map_none fun _ => rfl]
    exact hroom.own hq
  case shared =>
    intro id' s hs
    rw [filterMap_map_none fun _ => rfl]
    exact hroom.shared hs

/-- Posting receives leaves room if it does in the queue they go to, own or shared. -/
theorem HasRoom.postRecvs (hroom : f.HasRoom []) {queue : RecvQueue} {requests : List RecvRequest}
    (hown : ∀ id q, queue = .ofQp id → f.qps.find? id = some q → q.srq = none →
      Within q.caps.maxRecvWr q.caps.maxRecvSge ((q.recvQueue ++ requests).map (·.sges)))
    (hshared : ∀ id s, queue = .shared id → f.srqs.find? id = some s →
      Within s.maxWr s.maxSge ((s.queue ++ requests).map (·.sges))) :
    f.HasRoom (requests.map (.recvAccepted queue)) := by
  have hother {queue' : RecvQueue} (hqueue : queue' ≠ queue) :
      (requests.map (.recvAccepted queue)).filterMap (Event.recvAccepted? queue') = [] :=
    filterMap_map_none (fun _ => if_neg (Ne.symm hqueue)) requests
  constructor
  case sends =>
    intro id q hq
    rw [filterMap_map_none fun _ => rfl]
    exact hroom.sends hq
  case inlined =>
    intro id q hq r hr
    rw [filterMap_map_none fun _ => rfl] at hr
    exact hroom.inlined hq r hr
  case own =>
    intro id q hq hsrq
    by_cases hqueue : .ofQp id = queue
    · rw [hqueue, filterMap_recvAccepted]
      exact hown id q hqueue.symm hq hsrq
    · rw [hother hqueue]
      exact hroom.own hq hsrq
  case shared =>
    intro id s hs
    by_cases hqueue : .shared id = queue
    · rw [hqueue, filterMap_recvAccepted]
      exact hshared id s hqueue.symm hs
    · rw [hother hqueue]
      exact hroom.shared hs

end Fabric

namespace Host

variable {h : Host} {devices : List DeviceConfig}

/-- A post of sends leaves room, as each request is checked against the queue it will stand in. -/
theorem postSend_hasRoom (hroom : h.fabric.work.HasRoom []) (id : NativeId)
    (requests : List SendRequest) :
    h.fabric.work.HasRoom
      ((acceptedOf requests (postSend id requests h).1).map (.sendAccepted id)) := by
  unfold postSend
  cases hq : h.fabric.qps.find? id with
  | none => exact hroom
  | some q =>
      by_cases hstate : (q.state = .rts || q.state = .sqd || q.state = .error) = true
      case neg => simp only [hstate]; exact hroom
      simp only [hstate, if_true]
      have hfound {q' : QueuePair} (hq' : h.fabric.work.qps.find? id = some q') : q' = q :=
        Option.some.inj (hq'.symm.trans hq)
      have hback (i : Nat) (request : SendRequest) (p : PendingSend)
          (hok : h.fabric.acceptSend h.memory q (q.sendQueue.length + i) request = .ok p) :
          p.request = request := (Fabric.acceptSend_eq_ok hok).1
      refine hroom.postSends (fun q' hq' => ?_) fun q' hq' r hr => ?_
      · obtain rfl := hfound hq'
        refine Within.accept (·.request) hback (fun i request p hok => ?_) ?_ requests
        · obtain ⟨hlength, hentries, -⟩ := Fabric.acceptSend_room hok
          exact ⟨by simpa using hlength, hentries⟩
        · simpa using hroom.sends hq'
      · obtain rfl := hfound hq'
        rw [← accept_answer hback] at hr
        obtain ⟨p, hp, rfl⟩ := List.mem_map.1 hr
        obtain ⟨i, request, hok⟩ := (accept_spec hback 0 requests).2.2 p hp
        rw [hback i request p hok]
        exact (Fabric.acceptSend_room hok).2.2

theorem postRecv_hasRoom (hroom : h.fabric.work.HasRoom []) (id : NativeId)
    (requests : List RecvRequest) :
    h.fabric.work.HasRoom
      ((acceptedOf requests (postRecv id requests h).1).map (.recvAccepted (.ofQp id))) := by
  unfold postRecv
  cases hq : h.fabric.qps.find? id with
  | none => exact hroom
  | some q =>
      by_cases hrefused : (decide (q.state = .reset) || q.srq.isSome) = true
      case pos => simp only [hrefused, if_true]; exact hroom
      simp only [hrefused, Bool.false_eq_true, if_false]
      refine hroom.postRecvs (fun id' q' hid hq' hsrq => ?_) nofun
      obtain rfl := RecvQueue.ofQp.inj hid
      obtain rfl : q' = q := Option.some.inj (hq'.symm.trans hq)
      refine Within.accept (fun r => r) (fun _ _ _ => Fabric.acceptRecv_eq_ok)
        (fun _ _ _ => Fabric.acceptRecv_room) ?_ requests
      simpa using hroom.own hq' hsrq

theorem postSrqRecv_hasRoom (hroom : h.fabric.work.HasRoom []) (id : NativeId)
    (requests : List RecvRequest) :
    h.fabric.work.HasRoom
      ((acceptedOf requests (postSrqRecv id requests h).1).map (.recvAccepted (.shared id))) := by
  unfold postSrqRecv
  cases hs : h.fabric.srqs.find? id with
  | none => exact hroom
  | some s =>
      refine hroom.postRecvs nofun fun id' s' hid hs' => ?_
      obtain rfl := RecvQueue.shared.inj hid
      obtain rfl : s' = s := Option.some.inj (hs'.symm.trans hs)
      refine Within.accept (fun r => r) (fun _ _ _ => Fabric.acceptRecv_eq_ok)
        (fun _ _ _ => Fabric.acceptRecv_room) ?_ requests
      simpa using hroom.shared hs'

/-- Whatever an operation accepts, there is room for it. -/
theorem intake_hasRoom (hroom : h.fabric.work.HasRoom []) (op : Operation) :
    h.fabric.work.HasRoom (h.intake op) := by
  cases op with
  | postSend id requests => exact postSend_hasRoom hroom id requests
  | postRecv id requests => exact postRecv_hasRoom hroom id requests
  | postSrqRecv id requests => exact postSrqRecv_hasRoom hroom id requests
  | modifyQp =>
      simp only [intake]
      split
      · split
        · exact hroom.of_nothing (fun _ => rfl) fun _ => rfl
        · exact hroom
      · exact hroom
  | destroyQp =>
      simp only [intake]
      split
      · exact hroom.of_nothing (fun _ => rfl) fun _ => rfl
      · exact hroom
  | _ => exact hroom

theorem perform_hasRoom (hf : h.fabric.work.Fit) (hroom : h.fabric.work.HasRoom [])
    (op : Operation) : (h.perform op).fabric.work.HasRoom [] := by
  obtain ⟨g, es, hchange, hacts, -⟩ := perform_proceeds hf op
  exact hacts.hasRoom (hchange.takesIn.hasRoom (intake_hasRoom hroom op))

/-- On a reachable host no queue holds more than its capacity. -/
theorem Reachable.hasRoom (hr : Reachable devices h) : h.fabric.work.HasRoom [] := by
  induction hr with
  | fresh memory =>
      obtain ⟨attached, nextId, hwork⟩ := fresh_work memory devices
      rw [hwork]
      exact ⟨nofun, nofun, nofun, nofun⟩
  | perform op hr ih => exact perform_hasRoom hr.fit ih op
  | note e he _ ih => exact ih

end Host

end Rdma
