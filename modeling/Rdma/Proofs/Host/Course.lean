import Rdma.Proofs.Host.Preparation

/-!
# Where queued requests come from

A course is a run that remembers its operations and what they found (`Host.Course`). It tells which
requests were put into a send queue, and what memory held at the time. Only the last of them are
still queued, in their order and as they were posted: the payload of an inline request stays the one
that its post took, whatever became of that memory since.

* `Readies.recalls`, `Steps.recalls` — an operation adds what it posts, and the engine takes from the
  front;
* `Course.recalls` — the run.
-/

namespace Rdma.Host

open Fabric (QueuePair PendingSend)

/-- A run from a fresh host with the given devices, and what was done in it, oldest first: operations,
each with the host that it found. -/
inductive Course (devices : List DeviceConfig) : List (Host × Operation) → Host → Prop
  | fresh (memory : Memory) : Course devices [] (({ memory } : Host).withDevices devices)
  | perform {past : List (Host × Operation)} {h : Host} (op : Operation) : Course devices past h →
      Course devices (past ++ [(h, op)]) (h.perform op)
  | note {past : List (Host × Operation)} {h : Host} (e : Event) : e.ofHandleLayer →
      Course devices past h → Course devices past (h.note e)

/-- All requests that were put into the send queue of a queue pair, oldest first, each with the memory
that its post found. -/
def posted (id : NativeId) (past : List (Host × Operation)) : List (Memory × SendRequest) :=
  past.flatMap fun done => done.1.posts id done.2

/-- Each send queue holds the last of the requests that were put into it. -/
def Recalls (h : Host) (past : List (Host × Operation)) : Prop :=
  ∀ {id q}, h.fabric.qps.find? id = some q → q.sendQueue <:+ (posted id past).map .ofPosted

variable {h g k : Host} {devices : List DeviceConfig} {past : List (Host × Operation)}
  {op : Operation}

theorem posted_concat (id : NativeId) (past : List (Host × Operation)) (h : Host) (op : Operation) :
    posted id (past ++ [(h, op)]) = posted id past ++ h.posts id op := by
  simp [posted]

/-- Only a post of send requests puts some into a send queue. -/
theorem mem_of_posts {id : NativeId} {p : Memory × SendRequest} (hp : p ∈ h.posts id op) :
    ∃ requests, op = .postSend id requests ∧ p.2 ∈ requests := by
  cases op with
  | postSend id' requests =>
      simp only [posts] at hp
      split at hp
      case isTrue hid =>
        obtain ⟨request, hrequest, rfl⟩ := List.mem_map.1 hp
        refine ⟨requests, by rw [hid], ?_⟩
        cases hanswer : (postSend id requests h).1 with
        | ok =>
            rw [hanswer] at hrequest
            exact hrequest
        | error rejection =>
            rw [hanswer] at hrequest
            exact List.mem_of_mem_take hrequest
      case isFalse => cases hp
  | _ => cases hp

/-- Courses lead to the reachable hosts. -/
theorem reachable_iff_course : Reachable devices h ↔ ∃ past, Course devices past h := by
  constructor
  · intro hr
    induction hr with
    | fresh memory => exact ⟨[], .fresh memory⟩
    | perform op _ ih => exact ih.elim fun _ hc => ⟨_, hc.perform op⟩
    | note e he _ ih => exact ih.elim fun _ hc => ⟨_, hc.note e he⟩
  · rintro ⟨past, hc⟩
    induction hc with
    | fresh memory => exact .fresh memory
    | perform op _ ih => exact ih.perform op
    | note e he _ ih => exact ih.note e he

theorem Course.reachable (hc : Course devices past h) : Reachable devices h :=
  reachable_iff_course.2 ⟨past, hc⟩

/-- Operations in a row, each with the host that it finds. -/
def history (h : Host) : List Operation → List (Host × Operation)
  | [] => []
  | op :: rest => (h, op) :: (h.perform op).history rest

theorem map_history (h : Host) (ops : List Operation) : (h.history ops).map (·.2) = ops := by
  induction ops generalizing h with
  | nil => rfl
  | cons op rest ih => rw [history, List.map_cons, ih]

theorem Course.performAll (hc : Course devices past h) (ops : List Operation) :
    Course devices (past ++ h.history ops) (h.performAll ops) := by
  induction ops generalizing past h with
  | nil =>
      rw [history, List.append_nil]
      exact hc
  | cons op rest ih =>
      rw [history, List.append_cons]
      exact ih (hc.perform op)

theorem Readies.recalls (hready : h.Readies op g) (hh : h.Recalls past) :
    g.Recalls (past ++ [(h, op)]) := by
  intro id q' hq'
  rw [posted_concat, List.map_append]
  rcases hready.queued hq' with hempty | ⟨q, hq, hsuffix⟩
  · rw [hempty]
    exact List.nil_suffix
  · obtain ⟨older, holder⟩ := hh hq
    rw [← holder, List.append_assoc]
    exact hsuffix.trans (List.suffix_append _ _)

theorem Steps.recalls (hs : g.Steps k) (hg : g.Recalls past) : k.Recalls past := by
  intro id q' hq'
  obtain ⟨q, hq, hspent⟩ := hs.wanes.earlier hq'
  cases hspent with
  | fewer hsends => exact hsends.trans (hg hq)
  | failed => exact List.nil_suffix

theorem Course.recalls (hc : Course devices past h) : h.Recalls past := by
  induction hc with
  | fresh memory =>
      intro id q hq
      obtain ⟨attached, nextId, hfabric⟩ := Fabric.ofDevices_eq devices
      simp only [withDevices, hfabric] at hq
      cases hq
  | perform op hc ih =>
      obtain ⟨g, hready⟩ := perform_readies hc.reachable.sound.fabric op
      exact hready.steps.recalls (hready.recalls ih)
  | note _ _ _ ih => exact ih

end Rdma.Host
