import Rdma.Proofs.Fabric.Destruction

/-!
# Sound hosts

A host is sound if its fabric is, every completion on it tells of the request's own fate, and every
event on a channel is about a live completion queue that reports to the channel. The engine keeps a
host sound, and so do the verbs that create and destroy.

* `Moves.sound` — the engine;
* `Created.sound`, `Destroyed.sound` — the verbs that create and destroy.
-/

namespace Rdma.Host

open Fabric (Object QueuePair CompletionQueue)

structure Sound (h : Host) : Prop where
  fabric : h.fabric.Sound
  orderly : ∀ e ∈ h.journal.newestFirst, e.Orderly
  entries : ∀ {id q}, h.fabric.cqs.find? id = some q →
    ∀ c ∈ q.entries.toList, c.status ≠ CompletionStatus.fatal.code
  pending : ∀ {id c}, h.fabric.channels.find? id = some c → ∀ e ∈ c.pending,
    ∃ q, h.fabric.object? .completionQueue e.cq = some (.cq q) ∧ q.channel = some id ∧
      q.cookie = e.cookie

variable {h k : Host}

/-! ## Small changes -/

theorem Sound.note (hh : h.Sound) {e : Event} (he : e.Orderly) : (h.note e).Sound where
  fabric := hh.fabric
  orderly := by
    intro e' he'
    rcases List.mem_cons.1 he' with rfl | hold
    · exact he
    · exact hh.orderly e' hold
  entries := hh.entries
  pending := hh.pending

/-- Work on queue pairs and shared receive queues is not seen. -/
theorem Sound.of_frame (hh : h.Sound) (hsame : k.fabric.skeleton = h.fabric.skeleton)
    (hcqs : k.fabric.cqs = h.fabric.cqs) (hchannels : k.fabric.channels = h.fabric.channels)
    (hjournal : k.journal = h.journal) : k.Sound where
  fabric := hh.fabric.of_skeleton hsame
  orderly := by rw [hjournal]; exact hh.orderly
  entries := by rw [hcqs]; exact hh.entries
  pending := by rw [hchannels, Fabric.object?_congr hsame]; exact hh.pending

theorem Sound.updateCq (hh : h.Sound) (id : NativeId) {change : CompletionQueue → CompletionQueue}
    (hkeep : ∀ q, (change q).asCreated = q.asCreated)
    (hentries : ∀ q, h.fabric.cqs.find? id = some q →
      ∀ c ∈ (change q).entries.toList, c.status ≠ CompletionStatus.fatal.code) :
    (h.updateCq id change).Sound where
  fabric := hh.fabric.of_skeleton (h.fabric.updateCq_skeleton id hkeep)
  orderly := hh.orderly
  entries := by
    intro id' q' hq'
    rcases Table.modified hq' with ⟨hid, q, hq, rfl⟩ | hq'
    · exact hentries q (hid ▸ hq)
    · exact hh.entries hq'
  pending := by
    rw [updateCq_fabric, Fabric.object?_congr (h.fabric.updateCq_skeleton id hkeep)]
    exact hh.pending

theorem Sound.updateChannel (hh : h.Sound) (id : NativeId)
    {change : Fabric.Channel → Fabric.Channel} (hkeep : ∀ c, (change c).asCreated = c.asCreated)
    (hpending : ∀ c, h.fabric.channels.find? id = some c → ∀ e ∈ (change c).pending,
      ∃ q, h.fabric.object? .completionQueue e.cq = some (.cq q) ∧ q.channel = some id ∧
        q.cookie = e.cookie) :
    ({ h with fabric := h.fabric.updateChannel id change } : Host).Sound where
  fabric := hh.fabric.of_skeleton (h.fabric.updateChannel_skeleton id hkeep)
  orderly := hh.orderly
  entries := hh.entries
  pending := by
    intro id' c' hc'
    rw [Fabric.object?_congr (h.fabric.updateChannel_skeleton id hkeep)]
    rcases Table.modified hc' with ⟨hid, c, hc, rfl⟩ | hc'
    · rw [hid] at hc ⊢
      exact hpending c hc
    · exact hh.pending hc'

/-- A queue pair completes into queues that are there. -/
theorem Sound.cq_of_completesInto (hh : h.Sound) {cq : NativeId}
    (hc : h.fabric.CompletesInto cq) : ∃ q, h.fabric.cqs.find? cq = some q := by
  obtain ⟨id, qp, hqp, hcq⟩ := hc
  obtain ⟨ctx, hrefs⟩ := hh.fabric.supported
    (show h.fabric.object? .queuePair id = some (.qp qp.cleared) by simp [Fabric.object?, hqp])
  have hbelongs : h.fabric.Belongs .completionQueue cq ctx := by
    rcases hcq with rfl | rfl
    · exact hrefs (.completionQueue, qp.sendCq) (by simp [Object.references, QueuePair.cleared])
    · exact hrefs (.completionQueue, qp.recvCq) (by simp [Object.references, QueuePair.cleared])
  cases hbelongs with
  | cq ho =>
      obtain ⟨q, hq, -⟩ := Option.map_eq_some_iff.1 ho
      exact ⟨q, hq⟩

/-! ## Completing -/

/-- An event of a live queue, raised on its channel with its cookie, keeps the host sound. -/
theorem Sound.raiseEvent (hh : h.Sound) {cq channel : NativeId} {q : CompletionQueue}
    (hq : h.fabric.object? .completionQueue cq = some (.cq q)) (hchannel : q.channel = some channel) :
    (h.raiseEvent channel { cq, cookie := q.cookie }).Sound := by
  have hqueued (descriptor : Descriptor → Descriptor) :
      ({ h with fabric := h.fabric.updateChannel channel fun c =>
        { c with
          descriptor := descriptor c.descriptor
          pending := c.pending ++ [{ cq, cookie := q.cookie }] } } : Host).Sound := by
    refine hh.updateChannel channel (fun _ => rfl) fun c hc e he => ?_
    rcases List.mem_append.1 he with he | he
    · exact hh.pending hc e he
    · obtain rfl := List.mem_singleton.1 he
      exact ⟨q, hq, hchannel, rfl⟩
  unfold Host.raiseEvent
  split
  · exact hh
  case h_2 c _ =>
    split
    case h_1 descriptor _ =>
      have hraised := hqueued fun _ => descriptor
      exact hraised.note trivial
    case h_2 cause _ =>
      have hraised := hqueued fun _ => c.descriptor
      refine (hraised.note ?_).note ?_ <;> trivial

theorem Sound.wake (hh : h.Sound) {cq : NativeId} {q : CompletionQueue}
    (hq : h.fabric.object? .completionQueue cq = some (.cq q.asCreated)) : (h.wake cq q).Sound := by
  have hdisarmed : (h.updateCq cq fun q => { q with armed := none }).Sound :=
    hh.updateCq cq (fun _ => rfl) fun _ hq c hc => hh.entries hq c hc
  have hsame : (h.fabric.updateCq cq fun q => { q with armed := none }).skeleton =
      h.fabric.skeleton := h.fabric.updateCq_skeleton cq fun _ => rfl
  cases hc : q.channel with
  | none => simpa only [Host.wake, hc] using hdisarmed
  | some channel =>
      have hq : (h.updateCq cq fun q => { q with armed := none }).fabric.object? .completionQueue
          cq = some (.cq q.asCreated) := by rwa [updateCq_fabric, Fabric.object?_congr hsame]
      have hraised := hdisarmed.raiseEvent hq hc
      simp only [Host.wake, hc]
      exact hraised

/-- Completing into a live queue keeps the host sound, whether the completion is stored or lost. -/
theorem Sound.complete (hh : h.Sound) {cq : NativeId} {c : Completion} {q : CompletionQueue}
    (hq : h.fabric.cqs.find? cq = some q) (hc : c.status ≠ CompletionStatus.fatal.code)
    (solicited : Bool) : (h.complete cq c solicited).Sound := by
  have hobject : h.fabric.object? .completionQueue cq = some (.cq q.asCreated) := by
    simp [Fabric.object?, hq]
  unfold Host.complete
  simp only [hq]
  split
  -- a full queue loses the completion, which is written down all the same
  · have hlost : (h.updateCq cq fun q => { q with overflowed := true }).Sound :=
      hh.updateCq cq (fun _ => rfl) fun _ hq c hc => hh.entries hq c hc
    have hnoted : (((h.updateCq cq fun q => { q with overflowed := true }).note
        (.completed cq c solicited false))).Sound := hlost.note hc
    unfold loseCompletion
    split
    · exact hnoted
    · exact hnoted.note trivial
  · have hstored : (h.storeCompletion cq c solicited).Sound := by
      have hpushed : (h.updateCq cq fun q => { q with entries := q.entries.push c }).Sound := by
        refine hh.updateCq cq (fun _ => rfl) fun q hq c' hc' => ?_
        rw [Fifo.toList_push] at hc'
        rcases List.mem_append.1 hc' with hc' | hc'
        · exact hh.entries hq c' hc'
        · exact List.mem_singleton.1 hc' ▸ hc
      exact hpushed.note hc
    split
    · have hsame : (h.storeCompletion cq c solicited).fabric.skeleton = h.fabric.skeleton :=
        h.fabric.updateCq_skeleton cq fun _ => rfl
      exact hstored.wake (by rwa [Fabric.object?_congr hsame])
    · exact hstored

/-! ## The engine -/

theorem Motion.sound (hm : h.Motion k) (hh : h.Sound) : k.Sound := by
  cases hm with
  | note he => exact hh.note he.orderly
  | store => exact hh.of_frame rfl rfl rfl rfl
  | updateQp id hkeep _ => exact hh.of_frame (h.fabric.updateQp_skeleton id hkeep) rfl rfl rfl
  | setRecv requests queue =>
      refine hh.of_frame (h.fabric.setRecvRequests_skeleton requests queue) ?_ ?_ rfl <;>
        cases queue <;> rfl
  | complete solicited hcq hc =>
      obtain ⟨q, hq⟩ := hh.cq_of_completesInto hcq
      exact hh.complete hq hc solicited

/-- The engine keeps a host sound. -/
theorem Moves.sound (hm : h.Moves k) (hh : h.Sound) : k.Sound := by
  induction hm with
  | refl => exact hh
  | tail _ hlast ih => exact hlast.sound ih

/-! ## Creating and destroying -/

/-- Creation keeps the host sound: what is new is empty. -/
theorem Created.sound {α : Type} {describes : α → NativeId → Object → Prop}
    {result : Except OsError α × Host} (hc : h.Created describes result) (hh : h.Sound) :
    result.2.Sound := by
  cases hc with
  | refused => exact hh
  | made o nextKey _ _ hnew hfree hcandidate hsup =>
      have hadd := Fabric.put_adds hnew hfree nextKey hcandidate
      refine ⟨hadd.sound hsup hh.fabric, hh.orderly, fun {id q} hq => ?_, fun {id c} hc e he => ?_⟩
      -- a completion queue was there before, or it is the new one and empty
      · have hold : h.fabric.cqs.find? id = some q ∨ q.asCreated = q := by
          cases o with
          | cq q' =>
              rcases Table.inserted hq with ⟨-, rfl⟩ | hq
              · exact .inr hnew
              · exact .inl hq
          | _ => exact .inl hq
        rcases hold with hold | hempty
        · exact hh.entries hold
        · intro c hc
          rw [← hempty] at hc
          cases hc
      -- and so it is with a channel and its events
      · have hold : h.fabric.channels.find? id = some c ∨ c.asCreated = c := by
          cases o with
          | channel c' =>
              rcases Table.inserted hc with ⟨-, rfl⟩ | hc
              · exact .inr hnew
              · exact .inl hc
          | _ => exact .inl hc
        rcases hold with hold | hempty
        · obtain ⟨q, hq, hrest⟩ := hh.pending hold e he
          exact ⟨q, hadd.object_old hh.fabric hq, hrest⟩
        · rw [← hempty] at he
          cases he

/-- The host keeps its completions, and the channels keep no event but those they had. -/
structure Fewer (h k : Host) : Prop where
  orderly : ∀ e ∈ k.journal.newestFirst, e ∈ h.journal.newestFirst ∨ e.Orderly
  cqs : k.fabric.cqs = h.fabric.cqs
  channels : ∀ {id c}, k.fabric.channels.find? id = some c →
    ∃ c', h.fabric.channels.find? id = some c' ∧ ∀ e ∈ c.pending, e ∈ c'.pending

theorem Fewer.refl (h : Host) : h.Fewer h := ⟨fun _ => .inl, rfl, fun hc => ⟨_, hc, fun _ he => he⟩⟩

/-- Draining tokens adds no pending event. -/
theorem drainTokens_fewer (h : Host) (channel : NativeId) (n : Nat) :
    h.Fewer (drainTokens channel n h) := by
  induction n generalizing h with
  | zero => exact .refl h
  | succ n ih =>
      simp only [drainTokens]
      split
      · exact .refl h
      split
      · exact .refl h
      split
      case h_1 descriptor _ =>
        obtain ⟨horderly, hcqs, hchannels⟩ := ih (h.setDescriptor channel descriptor)
        refine ⟨horderly, hcqs, fun hc => ?_⟩
        obtain ⟨c', hc', hpending⟩ := hchannels hc
        rcases Table.modified hc' with ⟨-, c₀, hc₀, rfl⟩ | hc'
        · exact ⟨c₀, hc₀, hpending⟩
        · exact ⟨c', hc', hpending⟩
      case h_2 cause _ =>
        -- a token that cannot be taken is written down, and that is the end of it
        refine ⟨fun e he => ?_, rfl, (Fewer.refl h).channels⟩
        rcases List.mem_cons.1 he with rfl | he
        · exact .inr trivial
        · exact .inl he

/-- Once its events are dropped, nothing pending on its channel is of the completion queue. -/
theorem withoutEvents_fewer (h : Host) (id : NativeId) (channel : Option NativeId) :
    h.Fewer (h.withoutEvents id channel) ∧
      ∀ {i c}, (h.withoutEvents id channel).fabric.channels.find? i = some c →
        channel = some i → ∀ e ∈ c.pending, e.cq ≠ id := by
  cases channel with
  | none => exact ⟨.refl h, nofun⟩
  | some channel =>
      simp only [withoutEvents, dropEvents]
      split
      case h_1 hnone =>
        refine ⟨.refl h, fun hc hchannel => ?_⟩
        cases hchannel
        simp [hnone] at hc
      case h_2 c₀ hc₀ =>
        let kept := c₀.pending.filter (·.cq ≠ id)
        let dropped : Host :=
          { h with fabric := h.fabric.updateChannel channel fun c => { c with pending := kept } }
        have hdrained := dropped.drainTokens_fewer channel (c₀.pending.length - kept.length)
        -- what is left on the channel itself is what was kept
        have hkept {c} (hc : dropped.fabric.channels.find? channel = some c) : c.pending = kept := by
          simp only [dropped, Fabric.updateChannel, Table.find?_modify, hc₀, if_true,
            Option.map_some, Option.some.injEq] at hc
          rw [← hc]
        refine ⟨⟨hdrained.orderly, hdrained.cqs, fun {i c} hc => ?_⟩, fun {i c} hc hi e he => ?_⟩
        · obtain ⟨c', hc', hpending⟩ := hdrained.channels hc
          by_cases hi : i = channel
          · subst hi
            refine ⟨c₀, hc₀, fun e he => ?_⟩
            have he := hpending e he
            rw [hkept hc'] at he
            exact (List.mem_filter.1 he).1
          · simp only [dropped, Fabric.updateChannel, Table.find?_modify, hi, if_false] at hc'
            exact ⟨c', hc', hpending⟩
        · obtain rfl := Option.some.inj hi
          obtain ⟨c', hc', hpending⟩ := hdrained.channels hc
          have he := hpending e he
          rw [hkept hc'] at he
          simpa using (List.mem_filter.1 he).2

/-- Nothing refers to a queue pair, so none is missed. -/
theorem Sound.withoutQp (hh : h.Sound) {id : NativeId} {q : QueuePair}
    (hq : h.fabric.qps.find? id = some q) : (h.without id (.qp q.cleared)).Sound := by
  have hrem : h.fabric.Removes (h.fabric.drop id (.qp q.cleared)) (.qp q.cleared) id :=
    Fabric.drop_removes (by simp [Object.kind, Fabric.object?, hq])
  refine ⟨hrem.sound Fabric.not_referenced_qp hh.fabric, hh.orderly, hh.entries,
    fun {id' c} hc e he => ?_⟩
  obtain ⟨q', hq', hrest⟩ := hh.pending hc e he
  exact ⟨q', hrem.object_old hq' (by simp [Object.kind]), hrest⟩

/-- Dropping an object that nothing refers to keeps the host sound. -/
theorem Dismissed.sound {o : Object} {id : NativeId} (hd : h.Dismissed id o k)
    (ho : h.fabric.object? o.kind id = some o) (hunused : ¬ h.fabric.Referenced o.kind id)
    (hh : h.Sound) : k.Sound := by
  have hrem := hd.removes ho
  have hfabric := hrem.sound hunused hh.fabric
  cases hd with
  | plain hcq _ =>
      refine ⟨hfabric, hh.orderly, ?_, fun {id' c} hc e he => ?_⟩
      · cases o with
        | cq => exact absurd rfl hcq
        | _ => exact hh.entries
      · have hold : h.fabric.channels.find? id' = some c := by
          cases o with
          | channel =>
              exact (Table.erased hc).2
          | _ => exact hc
        obtain ⟨q, hq, hrest⟩ := hh.pending hold e he
        exact ⟨q, hrem.object_old hq fun hsame => hcq hsame.1.symm, hrest⟩
  | cq q hq =>
      obtain ⟨hfewer, hnone⟩ := h.withoutEvents_fewer id q.channel
      refine ⟨hfabric, fun e he => ?_, fun {id' q'} hq' => ?_, fun {id' c} hc e he => ?_⟩
      · exact (hfewer.orderly e he).elim (hh.orderly e) fun he => he
      · simp only [without, Fabric.drop, hfewer.cqs, Table.find?_erase] at hq'
        split at hq'
        · cases hq'
        · exact hh.entries hq'
      · obtain ⟨c', hc', hpending⟩ := hfewer.channels hc
        obtain ⟨q', hq', hchannel, hcookie⟩ := hh.pending hc' e (hpending e he)
        refine ⟨q', hrem.object_old hq' ?_, hchannel, hcookie⟩
        rintro ⟨-, hcq⟩
        -- an event of the queue itself would wait on the queue's own channel
        have hsame : q' = q.asCreated := by
          rw [hcq] at hq'
          exact Object.cq.inj (Option.some.inj (hq'.symm.trans ho))
        rw [hsame] at hchannel
        exact hnone hc hchannel e he hcq
  | qp q hq => exact (progress_moves _).sound ((hh.withoutQp hq).note trivial)

theorem Destroyed.sound {kind : ResourceKind} {id : NativeId}
    {result : Except OsError Unit × Host} (hd : h.Destroyed kind id result) (hh : h.Sound) :
    result.2.Sound := by
  cases hd with
  | absent | inUse => exact hh
  | removed ho hunused hdismissed =>
      obtain rfl := Fabric.object?_kind ho
      exact hdismissed.sound ho (fun href => hunused (.inl href)) hh

end Rdma.Host
