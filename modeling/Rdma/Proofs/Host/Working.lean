import Rdma.Fabric.Operation
import Rdma.Proofs.Host.Sound

/-!
# Verbs that work with objects

The verbs that neither create nor destroy leave every object as it was created. Those that queue
requests or change the state of a queue pair end with a run of the engine (`Ran`); the others touch
one completion queue or one channel. None of them makes an object come or go, and all of them keep a
host sound (`Works`).
-/

namespace Rdma.Host

open Fabric (Object QueuePair CompletionQueue)

variable {h k : Host}

/-! ## Verbs that run the engine -/

/-- Nothing but the work of queue pairs and shared receive queues changed. -/
structure Requeued (h k : Host) : Prop where
  skeleton : k.fabric.skeleton = h.fabric.skeleton
  cqs : k.fabric.cqs = h.fabric.cqs
  channels : k.fabric.channels = h.fabric.channels
  journal : k.journal = h.journal

/-- A verb was refused, or it changed the work of some queue and the engine ran to a standstill. -/
inductive Ran (h : Host) : Host → Prop
  | refused : Ran h h
  | noted {e : Event} : e.Plain → Ran h (h.note e)
  | ran {g k : Host} : h.Requeued g → g.Moves k → k.Still → Ran h k

theorem updateQp_requeued (h : Host) (id : NativeId) {change : QueuePair → QueuePair}
    (hkeep : ∀ q, (change q).cleared = q.cleared) : h.Requeued (h.updateQp id change) where
  skeleton := h.fabric.updateQp_skeleton id hkeep
  cqs := rfl
  channels := rfl
  journal := rfl

/-- Whatever was queued, and whatever the engine did before, it runs to a standstill. -/
theorem Requeued.ran_progress {g : Host} (hg : h.Requeued g) (hm : g.Moves k) : h.Ran k.progress :=
  .ran hg (hm.trans (progress_moves k)) (progress_still k)

theorem foldl_note_moves {α : Type} (event : α → Event) (hevent : ∀ a, (event a).Plain)
    (items : List α) (h : Host) : h.Moves (items.foldl (fun h a => h.note (event a)) h) :=
  foldl_moves items (fun k a _ => .single (.note k (hevent a))) h .refl

theorem flushIf_moves (h : Host) (c : Prop) [Decidable c] (id : NativeId) :
    h.Moves (if c then h.flush id else h) := by
  split
  · exact flush_moves h id
  · exact .refl

theorem postSend_ran (h : Host) (id : NativeId) (requests : List SendRequest) :
    h.Ran (postSend id requests h).2 := by
  have hqueued (accepted : List Fabric.PendingSend) : h.Requeued (h.updateQp id fun q =>
      { q with sendQueue := q.sendQueue ++ accepted }) := h.updateQp_requeued id fun _ => rfl
  have hnoted (accepted : List Fabric.PendingSend) (k : Host) :=
    foldl_note_moves (fun s : Fabric.PendingSend => .sendAccepted id s.request) (fun _ => trivial)
      accepted k
  unfold postSend
  split
  · exact .refused
  split
  · exact (hqueued _).ran_progress ((hnoted _ _).trans (flushIf_moves _ _ id))
  · exact .refused

theorem postRecv_ran (h : Host) (id : NativeId) (requests : List RecvRequest) :
    h.Ran (postRecv id requests h).2 := by
  have hqueued (accepted : List RecvRequest) : h.Requeued (h.updateQp id fun q =>
      { q with recvQueue := q.recvQueue ++ accepted }) := h.updateQp_requeued id fun _ => rfl
  have hnoted (accepted : List RecvRequest) (k : Host) :=
    foldl_note_moves (fun r => .recvAccepted (.ofQp id) r) (fun _ => trivial) accepted k
  unfold postRecv
  split
  · exact .refused
  split
  · exact .refused
  · exact (hqueued _).ran_progress ((hnoted _ _).trans (flushIf_moves _ _ id))

theorem postSrqRecv_ran (h : Host) (id : NativeId) (requests : List RecvRequest) :
    h.Ran (postSrqRecv id requests h).2 := by
  unfold postSrqRecv
  split
  · exact .refused
  · refine Requeued.ran_progress ?_
      (foldl_note_moves (.recvAccepted (.shared id)) (fun _ => trivial) _ _)
    constructor
    case skeleton =>
      have hkeep (accepted : List RecvRequest) (s : Fabric.SharedQueue) :
          ({ s with queue := s.queue ++ accepted } : Fabric.SharedQueue).asCreated =
            s.asCreated := rfl
      simp only [Fabric.skeleton, Table.map_modify (hkeep _)]
    case cqs => rfl
    case channels => rfl
    case journal => rfl

theorem enterState_moves (h : Host) (id : NativeId) (source target : QpState) :
    h.Moves (h.enterState id source target) := by
  cases target with
  | reset =>
      have hcleared : h.Motion (h.updateQp id (·.cleared)) :=
        .updateQp h id (fun _ => rfl) fun _ _ => Nat.zero_le _
      exact .tail (.single hcleared) (.note _ trivial)
  | error =>
      by_cases hs : source = .error
      · simp only [enterState, hs, if_true]
        exact .refl
      · simp only [enterState, hs, if_false]
        exact h.enterError_moves id
  | init | rtr | rts | sqd | sqe => exact .refl

theorem modifyQp_ran (h : Host) (id : NativeId) (attributes : QpAttributes) (mask : QpMask) :
    h.Ran (modifyQp id attributes mask h).2 := by
  have hmodified (target : QpState) :
      h.Requeued (h.updateQp id (·.modified attributes mask target)) :=
    h.updateQp_requeued id fun _ => rfl
  unfold modifyQp
  split
  · exact .refused
  simp only
  split
  · exact .refused
  split
  · exact .noted trivial
  split
  · exact .refused
  · exact (hmodified _).ran_progress (enterState_moves _ id _ _)

theorem Ran.skeleton (hr : h.Ran k) : k.fabric.skeleton = h.fabric.skeleton := by
  cases hr with
  | refused | noted => rfl
  | ran hg hm _ => exact hm.skeleton.trans hg.skeleton

theorem Ran.sound (hr : h.Ran k) (hh : h.Sound) : k.Sound := by
  cases hr with
  | refused => exact hh
  | noted he => exact hh.note he.orderly
  | ran hg hm _ => exact hm.sound (hh.of_frame hg.skeleton hg.cqs hg.channels hg.journal)

/-! ## Any work -/

/-- No object came or went, and a sound host is still sound. -/
structure Works (h k : Host) : Prop where
  objects : k.fabric.object? = h.fabric.object?
  sound : h.Sound → k.Sound

theorem Works.refl (h : Host) : h.Works h := ⟨rfl, id⟩

theorem Works.trans {g : Host} (hg : h.Works g) (hk : g.Works k) : h.Works k :=
  ⟨hk.objects.trans hg.objects, hk.sound ∘ hg.sound⟩

theorem Ran.works (hr : h.Ran k) : h.Works k :=
  ⟨Fabric.object?_congr hr.skeleton, hr.sound⟩

/-! ## Verbs on completion queues and channels -/

theorem setDescriptor_works (h : Host) (channel : NativeId) (descriptor : Descriptor) :
    h.Works (h.setDescriptor channel descriptor) where
  objects := Fabric.object?_congr (h.fabric.updateChannel_skeleton channel fun _ => rfl)
  sound hh := hh.updateChannel channel (fun _ => rfl) fun _ hc e he => hh.pending hc e he

theorem ackCqEvents_works (h : Host) (id : NativeId) (n : UInt32) :
    h.Works (ackCqEvents id n h) where
  objects := Fabric.object?_congr (h.fabric.updateCq_skeleton id fun _ => rfl)
  sound hh := hh.updateCq id (fun _ => rfl) fun _ hq c hc => hh.entries hq c hc

theorem reqNotifyCq_works (h : Host) (id : NativeId) (solicitedOnly : Bool) :
    h.Works (reqNotifyCq id solicitedOnly h).2 := by
  refine Step.guarded_cases (P := fun r : Except OsError Unit × Host => h.Works r.2)
    (fun _ _ => .refl h) fun _ _ => ⟨?_, fun hh => ?_⟩
  · exact Fabric.object?_congr (h.fabric.updateCq_skeleton id fun _ => rfl)
  · have harmed : (h.updateCq id fun q =>
        { q with armed := some (q.armed ≠ some false && solicitedOnly) }).Sound :=
      hh.updateCq id (fun _ => rfl) fun _ hq c hc => hh.entries hq c hc
    exact harmed.note trivial

theorem pollCq_works (h : Host) (id : NativeId) (n : Nat) : h.Works (pollCq id n h).2 := by
  refine Step.guarded_cases (P := fun r : Except OsError (List Completion) × Host => h.Works r.2)
    (fun _ _ => .refl h) fun taken htaken => ⟨?_, fun hh => ?_⟩
  · exact Fabric.object?_congr (h.fabric.updateCq_skeleton id fun _ => rfl)
  · have hdropped : (h.updateCq id fun q => { q with entries := q.entries.drop n }).Sound := by
      refine hh.updateCq id (fun _ => rfl) fun q hq c hc => ?_
      rw [Fifo.toList_drop] at hc
      exact hh.entries hq c (List.mem_of_mem_drop hc)
    -- what was polled was in the queue
    have hpolled : (Event.polled id taken).Orderly := by
      intro c hc
      cases hq : h.fabric.cqs.find? id with
      | none => simp [hq] at htaken
      | some q =>
          simp only [hq] at htaken
          split at htaken
          · cases htaken
          · obtain rfl := Except.ok.inj htaken
            exact hh.entries hq c (List.mem_of_mem_take hc)
    exact hdropped.note hpolled

theorem getCqEvent_works (h : Host) (channel : NativeId) : h.Works (getCqEvent channel h).2 := by
  unfold getCqEvent
  split
  · exact .refl h
  case h_2 c hc =>
    split
    · exact .refl h
    case h_2 descriptor _ =>
      split
      · exact h.setDescriptor_works channel descriptor
      case h_2 event rest hpending =>
        -- the event leaves its channel, then its queue counts it as fetched
        have htaken : h.Works { h with fabric := h.fabric.updateChannel channel fun c =>
            { c with descriptor, pending := rest } } := by
          refine ⟨Fabric.object?_congr (h.fabric.updateChannel_skeleton channel fun _ => rfl),
            fun hh => hh.updateChannel channel (fun _ => rfl) fun c' hc' e he => ?_⟩
          obtain rfl : c' = c := Option.some.inj (hc'.symm.trans hc)
          exact hh.pending hc e (by rw [hpending]; exact List.mem_cons_of_mem _ he)
        have hcounted (k : Host) : k.Works ((k.updateCq event.cq fun q =>
            { q with unacknowledged := q.unacknowledged + 1 }).note
              (.eventFetched channel event)) := by
          refine ⟨Fabric.object?_congr (k.fabric.updateCq_skeleton event.cq fun _ => rfl),
            fun hk => Sound.note ?_ trivial⟩
          exact hk.updateCq event.cq (fun _ => rfl) fun _ hq c hc => hk.entries hq c hc
        exact htaken.trans (hcounted _)

end Rdma.Host
