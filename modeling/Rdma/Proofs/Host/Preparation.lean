import Rdma.Proofs.Engine.Success
import Rdma.Proofs.Host.Change

/-!
# What a verb leaves to the engine

An operation revises queue pairs, then the engine consumes requests until the host is what the
operation leaves (`Host.Prepares`). No operation but the one that says so touches memory before the
engine does, and what can become of a queue pair is one of a few revisions.

* `perform_readies` — what waits in a send queue then waited there before, or is posted by the
  operation, and no request is done yet;
* `perform_prepares` — every operation prepares a run of the engine, possibly an empty one.
-/

namespace Rdma

open Fabric (QueuePair PendingSend Object)

/-- The queue pair after a modification was applied and its target state entered. -/
def Fabric.QueuePair.entered (q : QueuePair) (attributes : QpAttributes) (mask : QpMask)
    (target : QpState) : QueuePair :=
  match target with
  | .reset => q.cleared
  | .error =>
    if q.state = .error then q.modified attributes mask .error
    else (q.modified attributes mask .error).failed
  | target => q.modified attributes mask target

namespace Host

/-- What an operation makes of a queue pair before the engine runs. -/
inductive Revises (h : Host) (op : Operation) (id : NativeId) : QueuePair → QueuePair → Prop
  | same (q : QueuePair) : Revises h op id q q
  | modified {q : QueuePair} {attributes : QpAttributes} {mask : QpMask} {target : QpState} :
      op = .modifyQp id attributes mask → h.Allows q attributes mask target →
      (modifyQp id attributes mask h).1 = .ok () →
      Revises h op id q (q.entered attributes mask target)
  | sends {q : QueuePair} {accepted : List PendingSend} : (q.state = .rts ∨ q.state = .sqd) →
      (∀ p ∈ accepted, p.inlined.isSome = true → p.request.opcode.writesLocal = false) →
      Revises h op id q { q with sendQueue := q.sendQueue ++ accepted }
  | recvs {q : QueuePair} {accepted : List RecvRequest} : q.state ≠ .reset → q.state ≠ .error →
      q.srq = none → Revises h op id q { q with recvQueue := q.recvQueue ++ accepted }
  | flushed {q : QueuePair} : q.state = .error → Revises h op id q q.failed

/-- The operation makes `g` of the host, and the engine makes of `g` what the operation leaves. -/
structure Prepares (h : Host) (op : Operation) (g : Host) : Prop where
  steps : g.Steps (h.perform op)
  memory : (∀ m, op ≠ .setMemory m) → g.memory = h.memory
  origin : ∀ {id q'}, g.fabric.qps.find? id = some q' →
    (∃ q, h.fabric.qps.find? id = some q ∧ h.Revises op id q q') ∨
      h.fabric.qps.find? id = none ∧ q'.cleared = q'

/-- The requests that an operation puts into the send queue of a queue pair, going by its answer, each
with the memory that it finds. -/
def posts (h : Host) (id : NativeId) : Operation → List (Memory × SendRequest)
  | .postSend id' requests =>
    if id' = id then (acceptedOf requests (postSend id requests h).1).map (h.memory, ·) else []
  | _ => []

/-- The operation prepares `g`, where nothing waits in a send queue but what waited there before and
what the operation posts. Requests are done by the engine alone. -/
structure Readies (h : Host) (op : Operation) (g : Host) : Prop extends h.Prepares op g where
  queued : ∀ {id q'}, g.fabric.qps.find? id = some q' → q'.sendQueue = [] ∨
    ∃ q, h.fabric.qps.find? id = some q ∧ q'.sendQueue <:+
      q.sendQueue ++ (h.posts id op).map .ofPosted
  quiet : g.sendsDone = h.sendsDone

variable {h g k : Host} {op : Operation}

/-- Where nothing is posted, a queue that did not grow has nothing new in it. -/
theorem suffix_of_posts_nil {id : NativeId} {queue queue' : List PendingSend}
    (hnone : h.posts id op = []) (hsuffix : queue' <:+ queue) :
    queue' <:+ queue ++ (h.posts id op).map .ofPosted := by
  rwa [hnone, List.map_nil, List.append_nil]

theorem Readies.of_same (hsteps : g.Steps (h.perform op))
    (hmemory : (∀ m, op ≠ .setMemory m) → g.memory = h.memory)
    (hqps : g.fabric.qps = h.fabric.qps) (hnone : ∀ id, h.posts id op = [])
    (hquiet : g.sendsDone = h.sendsDone) : h.Readies op g where
  steps := hsteps
  memory := hmemory
  origin hq' := .inl ⟨_, hqps ▸ hq', .same _⟩
  queued {id q'} hq' := .inr ⟨q', hqps ▸ hq', suffix_of_posts_nil (hnone id) (List.suffix_refl _)⟩
  quiet := hquiet

/-- The engine does not run, and queue pairs stay as they are. -/
theorem Readies.aside (hmemory : (∀ m, op ≠ .setMemory m) → (h.perform op).memory = h.memory)
    (hqps : (h.perform op).fabric.qps = h.fabric.qps) (hnone : ∀ id, h.posts id op = [])
    (hquiet : (h.perform op).sendsDone = h.sendsDone) : h.Readies op (h.perform op) :=
  .of_same .refl hmemory hqps hnone hquiet

/-- The operation does nothing. -/
theorem Readies.idle (hsame : h.perform op = h) (hnone : ∀ id, h.posts id op = []) :
    h.Readies op (h.perform op) :=
  .aside (fun _ => by rw [hsame]) (by rw [hsame]) hnone (by rw [hsame])

/-- One queue pair is revised, and the engine runs. -/
theorem Readies.of_updateQp (id : NativeId) (change : QueuePair → QueuePair)
    (hsteps : g.Steps (h.perform op)) (hmemory : g.memory = h.memory)
    (hwork : g.fabric.work = h.fabric.work.updateQp id change)
    (hchange : ∀ q, h.fabric.qps.find? id = some q → h.Revises op id q (change q) ∧
      (change q).sendQueue <:+
        q.sendQueue ++ (h.posts id op).map .ofPosted)
    (hothers : ∀ id', id' ≠ id → h.posts id' op = []) (hquiet : g.sendsDone = h.sendsDone) :
    h.Readies op g := by
  have hqps : g.fabric.qps = h.fabric.qps.modify id change := congrArg (·.qps) hwork
  refine ⟨⟨hsteps, fun _ => hmemory, fun {id' q'} hq' => .inl ?_⟩, fun {id' q'} hq' => .inr ?_,
    hquiet⟩
  · rw [hqps] at hq'
    rcases Table.modified hq' with ⟨rfl, q, hq, rfl⟩ | hq'
    · exact ⟨q, hq, (hchange q hq).1⟩
    · exact ⟨q', hq', .same q'⟩
  · rw [hqps, Table.find?_modify] at hq'
    split at hq'
    case isTrue hid =>
      obtain ⟨q, hq, rfl⟩ := Option.map_eq_some_iff.1 hq'
      exact ⟨q, hid ▸ hq, hid ▸ (hchange q (hid ▸ hq)).2⟩
    case isFalse hid =>
      exact ⟨q', hq', suffix_of_posts_nil (hothers id' hid) (List.suffix_refl _)⟩

/-! ## Posting -/

/-- The host with requests written down, and flushed if they were posted in the error state. -/
theorem noted_leaves {α : Type} (event : α → Event)
    (hevent : ∀ a, (event a).ofRequest? = some (event a)) (items : List α) (h : Host) (id : NativeId)
    (c : Prop) [Decidable c] :
    let noted := items.foldl (fun h a => h.note (event a)) h
    let k := if c then noted.flush id else noted
    k.memory = h.memory ∧ k.fabric.work =
      if c then h.fabric.work.updateQp id (·.emptied) else h.fabric.work := by
  have hfabric := (foldl_note_entries event hevent items h).1
  have hmemory := foldl_memory (fun h a => h.note (event a)) (fun _ _ => rfl) items h
  simp only
  split
  · rw [flush_memory, flush_work, hfabric]
    exact ⟨hmemory, rfl⟩
  · rw [hfabric]
    exact ⟨hmemory, rfl⟩

/-- Writing down that requests are posted, and flushing them, does none. -/
theorem noted_sendsDone {α : Type} (event : α → Event)
    (hsilent : ∀ a, (event a).sendDone? = none) (items : List α) (h : Host) (id : NativeId)
    (c : Prop) [Decidable c] :
    let noted := items.foldl (fun h a => h.note (event a)) h
    (if c then noted.flush id else noted).sendsDone = h.sendsDone := by
  have hnoted := foldl_sendsDone (fun h a => h.note (event a))
    (fun k a => note_sendsDone_of_none k (hsilent a)) items h
  simp only
  split
  · rw [flush_sendsDone, hnoted]
  · exact hnoted

/-- What a post comes to that is not refused: requests are queued, or flushed at once. -/
theorem Readies.of_post {α : Type} {id : NativeId} {q : QueuePair} (event : α → Event)
    (hevent : ∀ a, (event a).ofRequest? = some (event a)) (hsilent : ∀ a, (event a).sendDone? = none)
    (items : List α) (append : QueuePair → QueuePair) (hq : h.fabric.qps.find? id = some q)
    (hemptied : (append q).emptied = q.emptied)
    (hsteps :
      let noted := items.foldl (fun h a => h.note (event a)) (h.updateQp id append)
      (if q.state = .error then noted.flush id else noted).Steps (h.perform op))
    (happend : q.state ≠ .error → h.Revises op id q (append q))
    (hqueued : (append q).sendQueue <:+ q.sendQueue ++ (h.posts id op).map .ofPosted)
    (hothers : ∀ id', id' ≠ id → h.posts id' op = []) : ∃ g, h.Readies op g := by
  obtain ⟨hmemory, hwork⟩ := noted_leaves event hevent items (h.updateQp id append) id
    (q.state = .error)
  refine ⟨_, .of_updateQp id
    (fun p => if q.state = .error then (append p).emptied else append p) hsteps hmemory ?_ ?_ hothers
    (noted_sendsDone event hsilent items (h.updateQp id append) id _)⟩
  · rw [hwork]
    split
    · rw [updateQp_fabric, Fabric.updateQp_work, Fabric.updateQp_updateQp]
      rfl
    · rfl
  · intro p hp
    obtain rfl := Option.some.inj (hp.symm.trans hq)
    split
    case isTrue herror =>
      rw [hemptied, ← QueuePair.failed_of_error herror]
      exact ⟨.flushed herror, List.nil_suffix⟩
    case isFalse hne => exact ⟨happend hne, hqueued⟩

/-- A post that is refused altogether. -/
theorem posts_of_refused {id : NativeId} {requests : List SendRequest} {cause : OsError}
    (hrefused : (postSend id requests h).1 = .error ⟨0, cause⟩) (id' : NativeId) :
    h.posts id' (.postSend id requests) = [] := by
  simp only [posts]
  split
  case isTrue hid =>
    subst hid
    rw [hrefused]
    rfl
  case isFalse => rfl

/-- A post to a queue pair that takes requests. -/
theorem postSend_eq {id : NativeId} {q : QueuePair} (hq : h.fabric.qps.find? id = some q)
    (hstate : (q.state = .rts || q.state = .sqd || q.state = .error) = true)
    (requests : List SendRequest) :
    let check (i : Nat) (r : SendRequest) :=
      h.fabric.acceptSend h.memory q (q.sendQueue.length + i) r
    let posted := accept check 0 requests
    let queued := h.updateQp id fun q => { q with sendQueue := q.sendQueue ++ posted.1 }
    let noted := posted.1.foldl (fun h s => h.note (.sendAccepted id s.request)) queued
    postSend id requests h = (Rejection.answer posted.2,
      (if q.state = .error then noted.flush id else noted).progress) := by
  simp only [postSend, hq, hstate, if_true]

/-- A post of sends queues what it accepts, with the memory it finds, before the engine runs. -/
theorem postSend_readies (h : Host) (id : NativeId) (requests : List SendRequest) :
    ∃ g, h.Readies (.postSend id requests) g := by
  have hrefused (cause : OsError)
      (hresult : postSend id requests h = (.error ⟨0, cause⟩, h)) :
      ∃ g, h.Readies (.postSend id requests) g := by
    have hperform : h.perform (.postSend id requests) = h := congrArg Prod.snd hresult
    exact ⟨_, .idle hperform (posts_of_refused (congrArg Prod.fst hresult))⟩
  cases hq : h.fabric.qps.find? id with
  | none => exact hrefused .invalid (by simp only [postSend, hq]; rfl)
  | some q =>
      by_cases hstate : (q.state = .rts || q.state = .sqd || q.state = .error) = true
      case neg => exact hrefused .invalid (by simp only [postSend, hq, hstate]; rfl)
      have hback (i : Nat) (request : SendRequest) (p : PendingSend)
          (hok : h.fabric.acceptSend h.memory q (q.sendQueue.length + i) request = .ok p) :
          p.request = request := (Fabric.acceptSend_eq_ok hok).1
      have hanswer := accept_answer hback requests
      obtain ⟨-, -, hchecked⟩ := accept_spec hback 0 requests
      have hresult := postSend_eq hq hstate requests
      simp only at hresult
      generalize accept _ 0 requests = posted at hresult hchecked hanswer
      obtain ⟨accepted, rejection⟩ := posted
      -- each request is queued with the memory that the post finds
      have hposts : (h.posts id (.postSend id requests)).map .ofPosted = accepted := by
        simp only [posts, if_true, hresult, ← hanswer, List.map_map]
        refine .trans (List.map_congr_left fun p hp => ?_) accepted.map_id
        obtain ⟨_, _, hok⟩ := hchecked p hp
        obtain ⟨rfl, -⟩ := Fabric.acceptSend_posted hok
        rfl
      refine Readies.of_post (fun s : PendingSend => .sendAccepted id s.request) (fun _ => rfl)
        (fun _ => rfl) accepted (fun q => { q with sendQueue := q.sendQueue ++ accepted }) hq rfl ?_
        (fun herror => ?_) ?_ fun id' hid => ?_
      · rw [perform, hresult]
        exact progress_steps _
      · refine .sends ?_ fun p hp => ?_
        · simp only [Bool.or_eq_true, decide_eq_true_eq] at hstate
          exact hstate.resolve_right herror
        · obtain ⟨_, _, hok⟩ := hchecked p hp
          exact (Fabric.acceptSend_eq_ok hok).2.2
      · exact hposts ▸ List.suffix_refl _
      · simp only [posts, if_neg (Ne.symm hid)]

theorem postRecv_readies (h : Host) (id : NativeId) (requests : List RecvRequest) :
    ∃ g, h.Readies (.postRecv id requests) g := by
  have hperform : h.perform (.postRecv id requests) = (postRecv id requests h).2 := rfl
  have hrefused (hsame : (postRecv id requests h).2 = h) :
      ∃ g, h.Readies (.postRecv id requests) g :=
    ⟨_, .idle (hperform.trans hsame) fun _ => rfl⟩
  unfold postRecv at hperform hrefused
  cases hq : h.fabric.qps.find? id with
  | none => exact hrefused (by simp only [hq])
  | some q =>
      simp only [hq] at hperform hrefused
      by_cases hcannot : (decide (q.state = .reset) || q.srq.isSome) = true
      case pos => exact hrefused (by simp only [hcannot, if_true])
      simp only [hcannot, Bool.false_eq_true, if_false] at hperform
      simp only [Bool.or_eq_true, decide_eq_true_eq, not_or, Bool.not_eq_true,
        Option.isSome_eq_false_iff, Option.isNone_iff_eq_none] at hcannot
      generalize accept _ 0 requests = posted at hperform
      obtain ⟨accepted, rejection⟩ := posted
      refine Readies.of_post (.recvAccepted (.ofQp id)) (fun _ => rfl) (fun _ => rfl) accepted
        (fun q => { q with recvQueue := q.recvQueue ++ accepted }) hq rfl ?_
        (fun herror => .recvs hcannot.1 herror hcannot.2)
        (suffix_of_posts_nil rfl (List.suffix_refl _)) fun _ _ => rfl
      rw [hperform]
      exact progress_steps _

theorem postSrqRecv_readies (h : Host) (id : NativeId) (requests : List RecvRequest) :
    ∃ g, h.Readies (.postSrqRecv id requests) g := by
  have hperform : h.perform (.postSrqRecv id requests) = (postSrqRecv id requests h).2 := rfl
  unfold postSrqRecv at hperform
  cases hs : h.fabric.srqs.find? id with
  | none =>
      simp only [hs] at hperform
      exact ⟨_, .idle hperform fun _ => rfl⟩
  | some s =>
      simp only [hs] at hperform
      generalize accept _ 0 requests = posted at hperform
      obtain ⟨accepted, rejection⟩ := posted
      let queued : Host := { h with
        fabric := { h.fabric with
          srqs := h.fabric.srqs.modify id fun s => { s with queue := s.queue ++ accepted } } }
      have hfabric := (foldl_note_entries (.recvAccepted (.shared id)) (fun _ => rfl) accepted
        queued).1
      have hmemory := foldl_memory (fun h r => h.note (.recvAccepted (.shared id) r))
        (fun _ _ => rfl) accepted queued
      have hquiet := foldl_sendsDone (fun h r => h.note (.recvAccepted (.shared id) r))
        (fun k _ => note_sendsDone_of_none k rfl) accepted queued
      refine ⟨_, .of_same ?_ (fun _ => hmemory) (by rw [hfabric]) (fun _ => rfl) hquiet⟩
      rw [hperform]
      exact progress_steps _

/-! ## Queue pairs -/

/-- What entering a state leaves of the tables. No request is done by it. -/
theorem enterState_leaves {id : NativeId} {q : QueuePair} (hq : h.fabric.qps.find? id = some q)
    (attributes : QpAttributes) (mask : QpMask) (target : QpState) :
    let k := (h.updateQp id (·.modified attributes mask target)).enterState id q.state target
    k.memory = h.memory ∧
        k.fabric.work = h.fabric.work.updateQp id (·.entered attributes mask target) ∧
      k.sendsDone = h.sendsDone := by
  have hchange (change : QueuePair → QueuePair)
      (hsame : change q = q.entered attributes mask target) :
      h.fabric.work.updateQp id change =
        h.fabric.work.updateQp id (·.entered attributes mask target) := by
    simp only [Fabric.updateQp]
    rw [Table.modify_congr fun p hp => ?_]
    obtain rfl := Option.some.inj (hq.symm.trans hp)
    exact hsame
  cases target with
  | reset =>
      refine ⟨rfl, Eq.trans ?_ (hchange (fun q => (q.modified attributes mask .reset).cleared) rfl),
        note_sendsDone_of_none _ rfl⟩
      exact h.fabric.work.updateQp_updateQp id (·.modified attributes mask .reset) (·.cleared)
  | error =>
      by_cases herror : q.state = .error
      · simp only [enterState, herror, if_true]
        refine ⟨rfl, hchange (·.modified attributes mask .error) ?_, rfl⟩
        simp [QueuePair.entered, herror]
      · simp only [enterState, herror, if_false, enterError_memory, enterError_work,
          enterError_sendsDone]
        refine ⟨rfl, Eq.trans ?_
          (hchange (fun q => (q.modified attributes mask .error).failed) ?_), rfl⟩
        · exact h.fabric.work.updateQp_updateQp id (·.modified attributes mask .error) (·.failed)
        · simp [QueuePair.entered, herror]
  | init | rtr | rts | sqd | sqe => exact ⟨rfl, hchange (·.modified attributes mask _) rfl, rfl⟩

/-- Entering a state adds nothing to a send queue. -/
theorem entered_sendQueue (q : QueuePair) (attributes : QpAttributes) (mask : QpMask)
    (target : QpState) : (q.entered attributes mask target).sendQueue <:+ q.sendQueue := by
  cases target with
  | reset => exact List.nil_suffix
  | error =>
      simp only [QueuePair.entered]
      split
      · exact List.suffix_refl _
      · exact List.nil_suffix
  | init | rtr | rts | sqd | sqe => exact List.suffix_refl _

/-- A modification queues nothing: it leaves the sends of its queue pair, or takes them away. -/
theorem modifyQp_readies (h : Host) (id : NativeId) (attributes : QpAttributes) (mask : QpMask) :
    ∃ g, h.Readies (.modifyQp id attributes mask) g := by
  have hperform : h.perform (.modifyQp id attributes mask) = (modifyQp id attributes mask h).2 := rfl
  rcases h.modifyQp_cases id attributes mask with
    ⟨cause, journal, hresult, hentries⟩ | ⟨q, target, hq, hallows, hresult⟩
  · rw [hresult] at hperform
    exact ⟨_, .aside (fun _ => by rw [hperform]) (by rw [hperform]) (fun _ => rfl)
      (hperform ▸ sendsDone_of_entries hentries)⟩
  · rw [hresult] at hperform
    obtain ⟨hmemory, hwork, hquiet⟩ := enterState_leaves hq attributes mask target
    refine ⟨_, .of_updateQp id (·.entered attributes mask target) ?_ hmemory hwork ?_
      (fun _ _ => rfl) hquiet⟩
    · rw [hperform]
      exact progress_steps _
    · intro q' hq'
      obtain rfl := Option.some.inj (hq.symm.trans hq')
      exact ⟨.modified rfl hallows (by rw [hresult]),
        suffix_of_posts_nil rfl (entered_sendQueue q attributes mask target)⟩

/-! ## All operations -/

/-- A creation queues nothing, since a new queue pair has nothing to send. -/
theorem Created.readies {α : Type} {describes : α → NativeId → Object → Prop}
    {result : Except OsError α × Host} (hc : h.Created describes result) (hf : h.fabric.Sound)
    (hperform : h.perform op = result.2) (hnone : ∀ id, h.posts id op = []) :
    ∃ g, h.Readies op g := by
  cases hc with
  | refused => exact ⟨_, .idle hperform hnone⟩
  | made o _ _ _ hnew _ _ _ =>
      cases o with
      | qp new =>
          have hfresh : h.fabric.qps.find? h.fabric.nextId = none := by
            simpa [Fabric.object?] using hf.next_free .queuePair
          refine ⟨_, ⟨.refl, fun _ => by rw [hperform], fun {id q'} hq' => ?_⟩,
            fun {id q'} hq' => ?_, by rw [hperform]; rfl⟩
          all_goals
            rw [hperform] at hq'
            rcases Table.inserted hq' with ⟨hid, rfl⟩ | hq'
          · exact .inr ⟨hid ▸ hfresh, hnew⟩
          · exact .inl ⟨q', hq', .same q'⟩
          · exact .inl (congrArg (·.sendQueue) hnew).symm
          · exact .inr ⟨q', hq', suffix_of_posts_nil (hnone id) (List.suffix_refl _)⟩
      | context | pd | region | channel | cq | srq =>
          exact ⟨_, .aside (fun _ => by rw [hperform]) (by rw [hperform]; rfl) hnone
            (by rw [hperform]; rfl)⟩

theorem drainTokens_memory (h : Host) (channel : NativeId) (n : Nat) :
    (drainTokens channel n h).memory = h.memory := by
  induction n generalizing h with
  | zero => rfl
  | succ n ih =>
      simp only [drainTokens]
      split
      · rfl
      split
      · rfl
      split
      · exact ih _
      · rfl

theorem withoutEvents_memory (h : Host) (id : NativeId) (channel : Option NativeId) :
    (h.withoutEvents id channel).memory = h.memory := by
  cases channel with
  | none => rfl
  | some channel =>
      simp only [withoutEvents, dropEvents]
      split
      · rfl
      · exact drainTokens_memory _ channel _

/-- A destruction queues nothing; the sends of a queue pair go with it. -/
theorem Destroyed.readies {kind : ResourceKind} {id : NativeId}
    {result : Except OsError Unit × Host} (hd : h.Destroyed kind id result)
    (hperform : h.perform op = result.2) (hnone : ∀ id, h.posts id op = []) :
    ∃ g, h.Readies op g := by
  cases hd with
  | absent | inUse => exact ⟨_, .idle hperform hnone⟩
  | @removed o k ho _ hdismissed =>
      cases hdismissed with
      | plain _ hqp =>
          cases o with
          | qp => exact absurd rfl hqp
          | context | pd | region | channel | cq | srq =>
              exact ⟨_, .aside (fun _ => by rw [hperform]; rfl) (by rw [hperform]; rfl) hnone
                (by rw [hperform]; rfl)⟩
      | cq q _ =>
          refine ⟨_, .aside (fun _ => ?_) ?_ hnone ?_⟩
          · rw [hperform]
            exact h.withoutEvents_memory id q.channel
          · rw [hperform]
            exact (h.withoutEvents_frame id q.channel).1
          · rw [hperform]
            exact sendsDone_of_entries (h.withoutEvents_entries id q.channel)
      | qp q _ =>
          let gone := (h.without id (.qp q.cleared)).note (.queuesCleared id)
          have hkept {id' : NativeId} {q' : QueuePair} (hq' : gone.fabric.qps.find? id' = some q') :
              h.fabric.qps.find? id' = some q' :=
            (Table.erased (show (h.fabric.qps.erase id).find? id' = some q' from hq')).2
          refine ⟨gone, ⟨?_, fun _ => rfl, fun {id' q'} hq' => ?_⟩, fun {id' q'} hq' => ?_,
            note_sendsDone_of_none _ rfl⟩
          · rw [hperform]
            exact progress_steps _
          · exact .inl ⟨q', hkept hq', .same q'⟩
          · exact .inr ⟨q', hkept hq', suffix_of_posts_nil (hnone id') (List.suffix_refl _)⟩

/-- What the engine works on is as it was, and no request was done. -/
def Leaves (h k : Host) : Prop :=
  k.memory = h.memory ∧ k.fabric.qps = h.fabric.qps ∧ k.sendsDone = h.sendsDone

theorem leaves_refl (h : Host) : h.Leaves h := ⟨rfl, rfl, rfl⟩

/-- What is said is of something else. -/
theorem leaves_note {e : Event} (hleaves : h.Leaves k) (he : e.sendDone? = none) :
    h.Leaves (k.note e) :=
  ⟨hleaves.1, hleaves.2.1, (note_sendsDone_of_none k he).trans hleaves.2.2⟩

theorem getCqEvent_leaves (h : Host) (channel : NativeId) :
    h.Leaves (getCqEvent channel h).2 := by
  unfold getCqEvent
  split
  · exact h.leaves_refl
  split
  · exact h.leaves_refl
  split
  · exact ⟨rfl, rfl, rfl⟩
  · exact leaves_note ⟨rfl, rfl, rfl⟩ rfl

/-- A checked update leaves alone what its commitment does. -/
theorem guarded_leaves {α β : Type} {check : Host → Except OsError α}
    {commit : α → Host → β × Host} (hcommit : ∀ a, h.Leaves (commit a h).2) :
    h.Leaves (Step.guarded check commit h).2 :=
  Step.guarded_cases (P := fun r : Except OsError β × Host => h.Leaves r.2)
    (fun _ _ => h.leaves_refl) fun a _ => hcommit a

/-- Every operation revises queue pairs and posts what its answer says, and the engine runs from there.
-/
theorem perform_readies (hf : h.fabric.Sound) (op : Operation) : ∃ g, h.Readies op g := by
  have hplain (hleaves : h.Leaves (h.perform op)) (hnone : ∀ id, h.posts id op = []) :
      ∃ g, h.Readies op g :=
    ⟨_, .aside (fun _ => hleaves.1) hleaves.2.1 hnone hleaves.2.2⟩
  cases op with
  | deviceList | queryDevice | queryPort | queryGid | channelDescriptor | queryQpState
  | ackCqEvents | setDescriptorsLeft | setDescriptor =>
      exact hplain ⟨rfl, rfl, rfl⟩ fun _ => rfl
  | plug | unplug => exact hplain ⟨rfl, rfl, note_sendsDone_of_none _ rfl⟩ fun _ => rfl
  | setMemory memory =>
      exact ⟨_, .aside (fun hop => absurd rfl (hop memory)) rfl (fun _ => rfl) rfl⟩
  | openDevice device => exact (h.openDevice_created device).readies hf rfl fun _ => rfl
  | closeDevice ctx => exact (h.closeDevice_destroyed ctx).readies rfl fun _ => rfl
  | allocPd ctx => exact (h.allocPd_created ctx).readies hf rfl fun _ => rfl
  | deallocPd pd => exact (h.deallocPd_destroyed pd).readies rfl fun _ => rfl
  | regMr pd addr length permission =>
      exact (h.regMr_created pd addr length permission).readies hf rfl fun _ => rfl
  | deregMr mr => exact (h.deregMr_destroyed mr).readies rfl fun _ => rfl
  | createChannel ctx => exact (h.createChannel_created ctx).readies hf rfl fun _ => rfl
  | destroyChannel channel => exact (h.destroyChannel_destroyed channel).readies rfl fun _ => rfl
  | createCq ctx depth channel cookie vector =>
      exact (h.createCq_created ctx depth channel cookie vector).readies hf rfl fun _ => rfl
  | destroyCq cq => exact (h.destroyCq_destroyed cq).readies rfl fun _ => rfl
  | pollCq cq n => exact hplain (guarded_leaves fun _ => leaves_note ⟨rfl, rfl, rfl⟩ rfl) fun _ => rfl
  | reqNotifyCq cq solicitedOnly =>
      exact hplain (guarded_leaves fun _ => leaves_note ⟨rfl, rfl, rfl⟩ rfl) fun _ => rfl
  | getCqEvent channel => exact hplain (h.getCqEvent_leaves channel) fun _ => rfl
  | createSrq pd init => exact (h.createSrq_created pd init).readies hf rfl fun _ => rfl
  | destroySrq srq => exact (h.destroySrq_destroyed srq).readies rfl fun _ => rfl
  | postSrqRecv srq requests => exact h.postSrqRecv_readies srq requests
  | createQp pd init => exact (h.createQp_created pd init).readies hf rfl fun _ => rfl
  | modifyQp qp attributes mask => exact h.modifyQp_readies qp attributes mask
  | destroyQp qp => exact (h.destroyQp_destroyed qp).readies rfl fun _ => rfl
  | postSend qp requests => exact h.postSend_readies qp requests
  | postRecv qp requests => exact h.postRecv_readies qp requests

/-- Every operation revises queue pairs, and the engine runs from there. -/
theorem perform_prepares (hf : h.fabric.Sound) (op : Operation) : ∃ g, h.Prepares op g := by
  obtain ⟨g, hreadies⟩ := perform_readies hf op
  exact ⟨g, hreadies.toPrepares⟩

end Host

end Rdma
