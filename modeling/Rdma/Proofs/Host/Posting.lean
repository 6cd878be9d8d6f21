import Rdma.Proofs.Host.Preparation

/-!
# Rejected posts

A post checks its requests one by one and stops at the first that it refuses. What it does then depends
on those before it alone: so a post that is rejected does what a post of these would do. This is stated
for all three queues at once (`posts_rejected`); that a queue can be posted to at all is one thing
(`Post.Open`), that a request can be queued behind those before it is another (`Post.Inadmissible`).

* `accept_some`, `accept_none` — the loop;
* `acceptSend_isOk`, `acceptRecv_isOk` — what a check lets pass, by what is wrong with the others;
* `Post.Settles.of_check` — a post, whatever its queue.
-/

namespace Rdma

section Accept

variable {α β : Type} {check : Nat → α → Except OsError β} {index : Nat} {requests : List α}

/-- If no request is refused, each passes its check. -/
theorem accept_none (h : (accept check index requests).2 = none) {i : Nat} {a : α}
    (ha : requests[i]? = some a) : ∃ b, check (index + i) a = .ok b := by
  induction requests generalizing index i with
  | nil => cases ha
  | cons first rest ih =>
      simp only [accept] at h
      cases hcheck : check index first with
      | error cause =>
          rw [hcheck] at h
          cases h
      | ok b =>
          rw [hcheck] at h
          cases i with
          | zero =>
              obtain rfl := Option.some.inj ha
              exact ⟨b, hcheck⟩
          | succ i =>
              obtain ⟨b', hb'⟩ := ih h ha
              rw [Nat.add_right_comm, Nat.add_assoc] at hb'
              exact ⟨b', hb'⟩

/-- The request that is refused fails its check, those before it pass theirs, and they alone are
accepted as they are here. -/
theorem accept_some {r : Rejection} (h : (accept check index requests).2 = some r) :
    ∃ i, r.index = index + i ∧ (∃ a, requests[i]? = some a ∧ check r.index a = .error r.cause) ∧
      (∀ j < i, ∀ a, requests[j]? = some a → ∃ b, check (index + j) a = .ok b) ∧
      accept check index (requests.take i) = ((accept check index requests).1, none) := by
  induction requests generalizing index with
  | nil => cases h
  | cons first rest ih =>
      simp only [accept] at h ⊢
      cases hcheck : check index first with
      | error cause =>
          rw [hcheck] at h
          obtain rfl := Option.some.inj h
          exact ⟨0, rfl, ⟨first, rfl, hcheck⟩, fun j hj => absurd hj j.not_lt_zero, rfl⟩
      | ok b =>
          rw [hcheck] at h
          obtain ⟨i, hindex, hrefused, hbefore, haccept⟩ := ih h
          refine ⟨i + 1, by omega, hrefused, fun j hj a ha => ?_, ?_⟩
          · cases j with
            | zero =>
                obtain rfl := Option.some.inj ha
                exact ⟨b, hcheck⟩
            | succ j =>
                obtain ⟨b', hb'⟩ := hbefore j (Nat.lt_of_succ_lt_succ hj) a ha
                rw [Nat.add_right_comm, Nat.add_assoc] at hb'
                exact ⟨b', hb'⟩
          · simp only [List.take_succ_cons, accept, hcheck, haccept]

end Accept

/-! ## Requests that are refused -/

namespace Fabric

/-- What is wrong with an inline request. -/
inductive RefusesInline (f : Fabric) (pd : NativeId) (limit : UInt32) (request : SendRequest) : Prop
  | bringsBack : request.opcode = .read ∨ request.opcode.isAtomic = true →
      RefusesInline f pd limit request
  | tooLong : limit.toNat < request.totalLength → RefusesInline f pd limit request
  | outside {sge : Sge} : sge ∈ request.sges → sge.length ≠ 0 →
      (∀ id r, f.regions.find? id = some r → r.pd = pd →
        ¬ r.covers sge.addr sge.length.toNat = true) → RefusesInline f pd limit request

/-- What is wrong with a request to a send queue that holds so many requests. -/
inductive RefusesSend (f : Fabric) (q : QueuePair) (queued : Nat) (request : SendRequest) : Prop
  | entries : q.caps.maxSendSge.toNat < request.sges.length → RefusesSend f q queued request
  | inlined : request.isInline = true → f.RefusesInline q.pd q.caps.maxInlineData request →
      RefusesSend f q queued request
  | full : q.caps.maxSendWr.toNat ≤ queued → RefusesSend f q queued request

/-- What is wrong with a request to a receive queue that holds so many requests. -/
inductive RefusesRecv (maxWr maxSge : UInt32) (queued : Nat) (request : RecvRequest) : Prop
  | entries : maxSge.toNat < request.sges.length → RefusesRecv maxWr maxSge queued request
  | full : maxWr.toNat ≤ queued → RefusesRecv maxWr maxSge queued request

variable {f : Fabric} {m : Memory} {q : QueuePair} {queued : Nat}

/-- An inline payload is captured unless the request brings data back, is too long or reads outside
every region of its domain. -/
theorem captureInline_isSome {pd : NativeId} {limit : UInt32} {request : SendRequest} :
    (∃ data, f.captureInline m pd limit request = some data) ↔
      ¬ f.RefusesInline pd limit request := by
  have hnothing : ¬ ∃ data : List UInt8, none = some data := by simp
  unfold captureInline
  by_cases hback : request.opcode.writesLocal = true
  · rw [if_pos hback]
    have hrefuses : f.RefusesInline pd limit request := by
      refine .bringsBack ?_
      rwa [SendOpcode.writesLocal, Bool.or_eq_true, decide_eq_true_eq] at hback
    exact iff_of_false hnothing (not_not_intro hrefuses)
  rw [if_neg hback]
  by_cases hlong : limit.toNat < request.totalLength
  · rw [if_pos hlong]
    exact iff_of_false hnothing (not_not_intro (.tooLong hlong))
  rw [if_neg hlong]
  split
  next hinside =>
    simp only [List.all_eq_true, Bool.or_eq_true, decide_eq_true_eq, Table.any_values,
      Bool.and_eq_true] at hinside
    refine ⟨fun _ => ?_, fun _ => ⟨_, rfl⟩⟩
    rintro (hopcode | hlength | ⟨hsge, hne, houtside⟩)
    · apply hback
      rwa [SendOpcode.writesLocal, Bool.or_eq_true, decide_eq_true_eq]
    · exact hlong hlength
    · obtain ⟨id, r, hr, hpd, hcovers⟩ := (hinside _ hsge).resolve_left hne
      exact houtside id r hr hpd hcovers
  next hinside =>
    simp only [List.all_eq_true, Bool.or_eq_true, decide_eq_true_eq, Table.any_values,
      Bool.and_eq_true, not_forall] at hinside
    obtain ⟨sge, hsge, hbad⟩ := hinside
    obtain ⟨hne, hnone⟩ := not_or.1 hbad
    have hrefuses : f.RefusesInline pd limit request :=
      .outside hsge hne fun id r hr hpd hcovers => hnone ⟨id, r, hr, hpd, hcovers⟩
    exact iff_of_false hnothing (not_not_intro hrefuses)

/-- A send is accepted just when nothing speaks against it. -/
theorem acceptSend_isOk {request : SendRequest} :
    (∃ p, f.acceptSend m q queued request = .ok p) ↔ ¬ f.RefusesSend q queued request := by
  have hpayload : (∃ data, f.captureInline m q.pd q.caps.maxInlineData request = some data) ↔
      ¬ f.RefusesInline q.pd q.caps.maxInlineData request := captureInline_isSome
  constructor
  · rintro ⟨p, hok⟩
    unfold acceptSend at hok
    obtain ⟨hentries, hok⟩ := refuse_eq_ok.1 hok
    by_cases hinline : request.isInline = true
    · cases hdata : f.captureInline m q.pd q.caps.maxInlineData request with
      | none =>
          simp only [hinline, if_true, hdata, throw_eq_error, error_bind] at hok
          cases hok
      | some data =>
          simp only [hinline, if_true, hdata, pure_eq_ok, ok_bind] at hok
          rintro (hbad | ⟨-, hbad⟩ | hbad)
          · exact hentries hbad
          · exact hpayload.1 ⟨data, hdata⟩ hbad
          · exact (refuse_eq_ok.1 hok).1 hbad
    · simp only [hinline, Bool.false_eq_true, if_false, pure_eq_ok, ok_bind] at hok
      rintro (hbad | ⟨hinline', -⟩ | hbad)
      · exact hentries hbad
      · exact hinline hinline'
      · exact (refuse_eq_ok.1 hok).1 hbad
  · intro hnot
    have hentries : ¬ q.caps.maxSendSge.toNat < request.sges.length := fun h => hnot (.entries h)
    have hroom : ¬ q.caps.maxSendWr.toNat ≤ queued := fun h => hnot (.full h)
    unfold acceptSend
    rw [if_neg hentries]
    by_cases hinline : request.isInline = true
    · obtain ⟨data, hdata⟩ := hpayload.2 fun h => hnot (.inlined hinline h)
      simp only [hinline, if_true, hdata, pure_eq_ok, ok_bind, if_neg hroom]
      exact ⟨_, rfl⟩
    · simp only [hinline, Bool.false_eq_true, if_false, pure_eq_ok, ok_bind, if_neg hroom]
      exact ⟨_, rfl⟩

theorem acceptRecv_isOk {maxWr maxSge : UInt32} {request : RecvRequest} :
    (∃ r, acceptRecv maxWr maxSge queued request = .ok r) ↔
      ¬ RefusesRecv maxWr maxSge queued request := by
  unfold acceptRecv
  simp only [refuse_eq_ok, exists_and_left]
  constructor
  · rintro ⟨hentries, hroom, -⟩ (hbad | hbad)
    · exact hentries hbad
    · exact hroom hbad
  · intro hnot
    exact ⟨fun hbad => hnot (.entries hbad), fun hbad => hnot (.full hbad), request, rfl⟩

end Fabric

namespace Host

open Fabric (QueuePair PendingSend)

/-- A post: requests for a send queue, for a queue pair's own receive queue, or for a shared one. -/
inductive Post where
  | sends (qp : NativeId) (requests : List SendRequest)
  | recvs (qp : NativeId) (requests : List RecvRequest)
  | sharedRecvs (srq : NativeId) (requests : List RecvRequest)

namespace Post

def run : Post → Posting
  | sends qp requests => postSend qp requests
  | recvs qp requests => postRecv qp requests
  | sharedRecvs srq requests => postSrqRecv srq requests

/-- The post of the first requests only. -/
def take (n : Nat) : Post → Post
  | sends qp requests => sends qp (requests.take n)
  | recvs qp requests => recvs qp (requests.take n)
  | sharedRecvs srq requests => sharedRecvs srq (requests.take n)

/-- The queue is there, and may be posted to. -/
inductive Open (h : Host) : Post → Prop
  | sends {qp : NativeId} {q : QueuePair} {requests : List SendRequest} :
      h.fabric.qps.find? qp = some q → q.state = .rts ∨ q.state = .sqd ∨ q.state = .error →
      Open h (sends qp requests)
  | recvs {qp : NativeId} {q : QueuePair} {requests : List RecvRequest} :
      h.fabric.qps.find? qp = some q → q.state ≠ .reset → q.srq = none → Open h (recvs qp requests)
  | sharedRecvs {srq : NativeId} {s : Fabric.SharedQueue} {requests : List RecvRequest} :
      h.fabric.srqs.find? srq = some s → Open h (sharedRecvs srq requests)

/-- The request at a place cannot be queued, counting those before it as queued. -/
inductive Inadmissible (h : Host) : Post → Nat → Prop
  | send {qp : NativeId} {q : QueuePair} {requests : List SendRequest} {i : Nat}
      {request : SendRequest} : h.fabric.qps.find? qp = some q → requests[i]? = some request →
      h.fabric.RefusesSend q (q.sendQueue.length + i) request → Inadmissible h (sends qp requests) i
  | recv {qp : NativeId} {q : QueuePair} {requests : List RecvRequest} {i : Nat}
      {request : RecvRequest} : h.fabric.qps.find? qp = some q → requests[i]? = some request →
      Fabric.RefusesRecv q.caps.maxRecvWr q.caps.maxRecvSge (q.recvQueue.length + i) request →
      Inadmissible h (recvs qp requests) i
  | sharedRecv {srq : NativeId} {s : Fabric.SharedQueue} {requests : List RecvRequest} {i : Nat}
      {request : RecvRequest} : h.fabric.srqs.find? srq = some s → requests[i]? = some request →
      Fabric.RefusesRecv s.maxWr s.maxSge (s.queue.length + i) request →
      Inadmissible h (sharedRecvs srq requests) i

end Post

variable {h : Host} {p : Post}

/-- A post that checks its requests one by one, and does what depends on those alone that pass, keeps
those before the first that is refused. -/
structure Post.Settles (h : Host) (p : Post) : Prop where
  accepts : (p.run h).1 = .ok () ↔ ∀ i, ¬ p.Inadmissible h i
  first : ∀ r, (p.run h).1 = .error r →
    p.Inadmissible h r.index ∧ ∀ i < r.index, ¬ p.Inadmissible h i
  keeps : ∀ r, (p.run h).1 = .error r → (p.take r.index).run h = (.ok (), (p.run h).2)

/-- A post settles if it is a fold of one check that refuses just what is inadmissible. -/
theorem Post.Settles.of_check {α β : Type} {post : List α → Post}
    {check : Nat → α → Except OsError β} {finish : List β → Host}
    (hrun : ∀ requests, (post requests).run h =
      (Rejection.answer (accept check 0 requests).2, finish (accept check 0 requests).1))
    (htake : ∀ requests n, (post requests).take n = post (requests.take n)) {requests : List α}
    {refused : Nat → α → Prop} (hcheck : ∀ i a, (∃ b, check i a = .ok b) ↔ ¬ refused i a)
    (hbad : ∀ i, (post requests).Inadmissible h i ↔ ∃ a, requests[i]? = some a ∧ refused i a) :
    (post requests).Settles h := by
  have hgood {i : Nat} (hok : ∀ a, requests[i]? = some a → ∃ b, check (0 + i) a = .ok b) :
      ¬ (post requests).Inadmissible h i := by
    rw [hbad]
    rintro ⟨a, ha, hi⟩
    have hchecked := hok a ha
    rw [Nat.zero_add] at hchecked
    exact (hcheck i a).1 hchecked hi
  -- a rejection says all there is to say about the requests up to it
  have hrejected (r : Rejection) (hr : ((post requests).run h).1 = .error r) :
      (post requests).Inadmissible h r.index ∧
        (∀ i < r.index, ¬ (post requests).Inadmissible h i) ∧
        ((post requests).take r.index).run h = (.ok (), ((post requests).run h).2) := by
    rw [hrun] at hr
    have hsome : (accept check 0 requests).2 = some r := by
      generalize (accept check 0 requests).2 = rejection at hr
      cases rejection with
      | none => cases hr
      | some r' => rw [Except.error.inj hr]
    obtain ⟨i, hindex, ⟨a, ha, herror⟩, hbefore, haccept⟩ := accept_some hsome
    obtain rfl : r.index = i := by omega
    refine ⟨(hbad _).2 ⟨a, ha, ?_⟩, fun j hj => hgood (hbefore j hj), ?_⟩
    · by_contra hnot
      obtain ⟨b, hok⟩ := (hcheck _ a).2 hnot
      rw [herror] at hok
      cases hok
    · rw [htake, hrun, hrun, haccept]
      rfl
  refine ⟨⟨fun hok i => hgood fun a ha => accept_none ?_ ha, fun hall => ?_⟩,
    fun r hr => ⟨(hrejected r hr).1, (hrejected r hr).2.1⟩, fun r hr => (hrejected r hr).2.2⟩
  · rw [hrun] at hok
    generalize (accept check 0 requests).2 = rejection at hok
    cases rejection with
    | none => rfl
    | some r => cases hok
  · cases hresult : ((post requests).run h).1 with
    | ok => rfl
    | error r => exact absurd (hrejected r hresult).1 (hall _)

/-- A post to a queue that is not open is refused as a whole. -/
theorem Post.run_of_not_open (hclosed : ¬ p.Open h) :
    ∃ cause, p.run h = (.error { index := 0, cause }, h) := by
  cases p with
  | sends id requests =>
      show ∃ cause, postSend id requests h = (.error { index := 0, cause }, h)
      unfold postSend
      cases hq : h.fabric.qps.find? id with
      | none => exact ⟨.invalid, rfl⟩
      | some q =>
          by_cases hstate : (q.state = .rts || q.state = .sqd || q.state = .error) = true
          · refine absurd (.sends hq ?_) hclosed
            simpa only [Bool.or_eq_true, decide_eq_true_eq, or_assoc] using hstate
          · simp only [hstate]
            exact ⟨.invalid, rfl⟩
  | recvs id requests =>
      show ∃ cause, postRecv id requests h = (.error { index := 0, cause }, h)
      unfold postRecv
      cases hq : h.fabric.qps.find? id with
      | none => exact ⟨.invalid, rfl⟩
      | some q =>
          by_cases hrefused : (decide (q.state = .reset) || q.srq.isSome) = true
          · simp only [hrefused, if_true]
            exact ⟨.invalid, rfl⟩
          · simp only [Bool.or_eq_true, decide_eq_true_eq, not_or, Bool.not_eq_true,
              Option.isSome_eq_false_iff, Option.isNone_iff_eq_none] at hrefused
            exact absurd (.recvs hq hrefused.1 hrefused.2) hclosed
  | sharedRecvs id requests =>
      show ∃ cause, postSrqRecv id requests h = (.error { index := 0, cause }, h)
      unfold postSrqRecv
      cases hs : h.fabric.srqs.find? id with
      | none => exact ⟨.invalid, rfl⟩
      | some s => exact absurd (.sharedRecvs hs) hclosed

theorem Post.sends_settles {id : NativeId} {q : QueuePair} (hq : h.fabric.qps.find? id = some q)
    (hstate : q.state = .rts ∨ q.state = .sqd ∨ q.state = .error) (requests : List SendRequest) :
    (Post.sends id requests).Settles h := by
  have hstate : (q.state = .rts || q.state = .sqd || q.state = .error) = true := by
    simpa only [Bool.or_eq_true, decide_eq_true_eq, or_assoc] using hstate
  let check (i : Nat) (r : SendRequest) :=
    h.fabric.acceptSend h.memory q (q.sendQueue.length + i) r
  let finish (accepted : List PendingSend) : Host :=
    let queued := h.updateQp id fun q => { q with sendQueue := q.sendQueue ++ accepted }
    let noted := accepted.foldl (fun h s => h.note (.sendAccepted id s.request)) queued
    (if q.state = .error then noted.flush id else noted).progress
  have hrun (requests : List SendRequest) : (Post.sends id requests).run h =
      (Rejection.answer (accept check 0 requests).2, finish (accept check 0 requests).1) :=
    postSend_eq hq hstate requests
  refine .of_check hrun (fun _ _ => rfl) (fun _ _ => Fabric.acceptSend_isOk) fun i => ?_
  constructor
  · rintro ⟨hq', ha, hrefused⟩
    obtain rfl := Option.some.inj (hq.symm.trans hq')
    exact ⟨_, ha, hrefused⟩
  · rintro ⟨_, ha, hrefused⟩
    exact .send hq ha hrefused

theorem Post.recvs_settles {id : NativeId} {q : QueuePair} (hq : h.fabric.qps.find? id = some q)
    (hstate : q.state ≠ .reset) (hsrq : q.srq = none) (requests : List RecvRequest) :
    (Post.recvs id requests).Settles h := by
  let check (i : Nat) (r : RecvRequest) :=
    Fabric.acceptRecv q.caps.maxRecvWr q.caps.maxRecvSge (q.recvQueue.length + i) r
  let finish (accepted : List RecvRequest) : Host :=
    let queued := h.updateQp id fun q => { q with recvQueue := q.recvQueue ++ accepted }
    let noted := accepted.foldl (fun h r => h.note (.recvAccepted (.ofQp id) r)) queued
    (if q.state = .error then noted.flush id else noted).progress
  have hrun (requests : List RecvRequest) : (Post.recvs id requests).run h =
      (Rejection.answer (accept check 0 requests).2, finish (accept check 0 requests).1) := by
    show postRecv id requests h = _
    simp only [postRecv, hq, hstate, hsrq, decide_false, Option.isSome_none, Bool.or_self,
      Bool.false_eq_true, if_false]
    rfl
  refine .of_check hrun (fun _ _ => rfl) (fun _ _ => Fabric.acceptRecv_isOk) fun i => ?_
  constructor
  · intro hbad
    cases hbad with
    | recv hq' ha hrefused =>
        obtain rfl := Option.some.inj (hq.symm.trans hq')
        exact ⟨_, ha, hrefused⟩
  · rintro ⟨_, ha, hrefused⟩
    exact .recv hq ha hrefused

theorem Post.sharedRecvs_settles {id : NativeId} {s : Fabric.SharedQueue}
    (hs : h.fabric.srqs.find? id = some s) (requests : List RecvRequest) :
    (Post.sharedRecvs id requests).Settles h := by
  let check (i : Nat) (r : RecvRequest) :=
    Fabric.acceptRecv s.maxWr s.maxSge (s.queue.length + i) r
  let finish (accepted : List RecvRequest) : Host :=
    let queued := { h with
      fabric := { h.fabric with
        srqs := h.fabric.srqs.modify id fun s => { s with queue := s.queue ++ accepted } } }
    (accepted.foldl (fun h r => h.note (.recvAccepted (.shared id) r)) queued).progress
  have hrun (requests : List RecvRequest) : (Post.sharedRecvs id requests).run h =
      (Rejection.answer (accept check 0 requests).2, finish (accept check 0 requests).1) := by
    show postSrqRecv id requests h = _
    simp only [postSrqRecv, hs]
    rfl
  refine .of_check hrun (fun _ _ => rfl) (fun _ _ => Fabric.acceptRecv_isOk) fun i => ?_
  constructor
  · intro hbad
    cases hbad with
    | sharedRecv hs' ha hrefused =>
        obtain rfl := Option.some.inj (hs.symm.trans hs')
        exact ⟨_, ha, hrefused⟩
  · rintro ⟨_, ha, hrefused⟩
    exact .sharedRecv hs ha hrefused

theorem Post.Open.settles (hopen : p.Open h) : p.Settles h := by
  cases hopen with
  | sends hq hstate => exact sends_settles hq hstate _
  | recvs hq hstate hsrq => exact recvs_settles hq hstate hsrq _
  | sharedRecvs hs => exact sharedRecvs_settles hs _

/-- On every host: if a queue is open, a post to it is accepted just if no request is inadmissible, and
is rejected with the index of the first that is. If it is not, the index is zero and nothing changes.
Either way the host is the one that a post of the requests before that index leaves. -/
theorem posts_rejected (h : Host) (p : Post) :
    (p.Open h → ((p.run h).1 = .ok () ↔ ∀ i, ¬ p.Inadmissible h i)) ∧
      (¬ p.Open h → ∃ cause, p.run h = (.error { index := 0, cause }, h)) ∧
      ∀ r, (p.run h).1 = .error r →
        (p.run h).2 = ((p.take r.index).run h).2 ∧
          (p.Open h → ((p.take r.index).run h).1 = .ok () ∧ p.Inadmissible h r.index ∧
            ∀ i < r.index, ¬ p.Inadmissible h i) := by
  refine ⟨fun hopen => hopen.settles.accepts, Post.run_of_not_open, fun r hr => ?_⟩
  by_cases hopen : p.Open h
  · have hkeeps := hopen.settles.keeps r hr
    rw [hkeeps]
    exact ⟨rfl, fun _ => ⟨rfl, hopen.settles.first r hr⟩⟩
  · have htake : ¬ (p.take r.index).Open h := by
      intro htake
      apply hopen
      cases p with
      | sends => cases htake with | sends hq hstate => exact .sends hq hstate
      | recvs => cases htake with | recvs hq hstate hsrq => exact .recvs hq hstate hsrq
      | sharedRecvs => cases htake with | sharedRecvs hs => exact .sharedRecvs hs
    obtain ⟨_, hrun⟩ := Post.run_of_not_open hopen
    obtain ⟨_, hrun'⟩ := Post.run_of_not_open htake
    rw [hrun, hrun']
    exact ⟨rfl, fun h' => absurd h' hopen⟩

/-- A read cannot be inline. The request before it is posted, and the one behind it is not. -/
theorem loopback_rejects :
    let h := (({} : Host).withDevices [{}]).performAll loopback
    let p := Post.sends 5
      [{ wrId := 1 }, { wrId := 2, opcode := .read, flags := .inlineData }, { wrId := 3 }]
    p.Open h ∧ (p.run h).1 = .error { index := 1, cause := .invalid } ∧
      (p.run h).2 = (postSend 5 [{ wrId := 1 }] h).2 ∧
      p.Inadmissible h 1 ∧ ¬ p.Inadmissible h 0 := by
  intro h p
  obtain ⟨q, hq, hstate⟩ : ∃ q, h.fabric.qps.find? 5 = some q ∧ q.state = .rts :=
    Option.map_eq_some_iff.1 (by decide +kernel)
  have hopen : p.Open h := .sends hq (.inl hstate)
  have hrejected : (p.run h).1 = .error { index := 1, cause := .invalid } := by rfl
  obtain ⟨-, -, hall⟩ := posts_rejected h p
  obtain ⟨hkeeps, hfirst⟩ := hall _ hrejected
  obtain ⟨-, hbad, hbefore⟩ := hfirst hopen
  exact ⟨hopen, hrejected, hkeeps, hbad, hbefore 0 Nat.one_pos⟩

end Host

end Rdma
