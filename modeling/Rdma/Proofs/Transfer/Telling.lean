import Rdma.Proofs.Host.Course
import Rdma.Proofs.Transfer.Sending

/-!
# A run, told stretch by stretch

A run goes from one operation to the next, and within an operation from one request that the engine
executes to the next. A telling names these stretches in order (`Host.Told`): what an operation does
before the engine runs, and each step of the engine, with the request that it takes from a queue. Memory
changes on stretches only, so what every stretch does to it is what the run does.

* `Leads.told` — every run can be told;
* `Told.isOf` — what the stretches of a run are;
* `Told.flows`, `Told.sendsDone` — memory goes through the stretches, and the journal has the requests
  that were done in their order;
* `Course.inTurn` — requests of one queue pair are done in the order in which they were posted.
-/

namespace Rdma.Host

open Fabric (QueuePair PendingSend)

/-- A part of a run: what an operation does before the engine runs, or a step of the engine, which takes
a request from the queue of a queue pair with an outcome. -/
structure Stretch where
  before : Host
  after : Host
  executed? : Option (NativeId × SendRequest × SendOutcome)

/-- The request that was done on the stretch, with its queue pair. -/
def Stretch.done? (s : Stretch) : Option (NativeId × SendRequest) :=
  s.executed?.bind fun (id, request, outcome) => outcome.retired? id request

/-- The engine gets from `g` to another host on these stretches. -/
inductive Executes (g : Host) : List Stretch → Host → Prop
  | still : Executes g [] g
  | step {stretches : List Stretch} {i k : Host} {id : NativeId} {q : QueuePair}
      {pending : PendingSend} {rest : List PendingSend} {outcome : SendOutcome} :
      Executes g stretches i → i.step id = (true, k) →
      i.Consumption id q pending rest outcome k →
      Executes g (stretches ++ [⟨i, k, some (id, pending.request, outcome)⟩]) k

/-- A run from `h` to another host: its operations, each with the host that it found, and its stretches.
-/
inductive Told (h : Host) : List (Host × Operation) → List Stretch → Host → Prop
  | still : Told h [] [] h
  | perform {done : List (Host × Operation)} {stretches more : List Stretch} {j g : Host}
      {op : Operation} : Told h done stretches j → j.Readies op g →
      g.Executes more (j.perform op) →
      Told h (done ++ [(j, op)]) (stretches ++ ⟨j, g, none⟩ :: more) (j.perform op)
  | note {done : List (Host × Operation)} {stretches : List Stretch} {j : Host} (e : Event) :
      e.ofHandleLayer → Told h done stretches j → Told h done stretches (j.note e)

variable {h g j k : Host} {devices : List DeviceConfig} {past done : List (Host × Operation)}
  {stretches : List Stretch} {s : Stretch} {id : NativeId} {op : Operation}

/-! ## Telling -/

theorem Steps.executes (hs : g.Steps k) : ∃ stretches, g.Executes stretches k := by
  induction hs with
  | refl => exact ⟨[], .still⟩
  | tail _ hlast ih =>
      obtain ⟨stretches, hfirst⟩ := ih
      obtain ⟨id, hstep⟩ := hlast
      obtain ⟨_, _, _, _, hc⟩ := step_consumption hstep
      exact ⟨_, hfirst.step hstep hc⟩

/-- The telling goes on with another operation. -/
theorem Told.perform_of_reachable (ht : h.Told done stretches j) (hj : Reachable devices j)
    (op : Operation) :
    ∃ more, h.Told (done ++ [(j, op)]) (stretches ++ more) (j.perform op) := by
  obtain ⟨g, hready⟩ := perform_readies hj.sound.fabric op
  obtain ⟨more, hexecutes⟩ := hready.steps.executes
  exact ⟨_, ht.perform hready hexecutes⟩

theorem Leads.told (hk : h.Leads k) (hr : Reachable devices h) :
    ∃ done stretches, h.Told done stretches k := by
  induction hk with
  | refl => exact ⟨[], [], .still⟩
  | perform op hj ih =>
      obtain ⟨done, stretches, ht⟩ := ih
      obtain ⟨more, ht⟩ := ht.perform_of_reachable (hj.reachable hr) op
      exact ⟨_, _, ht⟩
  | note e he _ ih =>
      obtain ⟨done, stretches, ht⟩ := ih
      exact ⟨done, stretches, ht.note e he⟩

/-- Operations in a row are told with the hosts that they find. -/
theorem told_performAll (hr : Reachable devices h) (ops : List Operation) :
    ∃ stretches, h.Told (h.history ops) stretches (h.performAll ops) := by
  have hfrom (ops : List Operation) : ∀ {done stretches j}, h.Told done stretches j →
      Reachable devices j → ∃ stretches, h.Told (done ++ j.history ops) stretches
        (j.performAll ops) := by
    induction ops with
    | nil =>
        intro done stretches j ht _
        refine ⟨stretches, ?_⟩
        rw [history, List.append_nil]
        exact ht
    | cons op rest ih =>
        intro done stretches j ht hj
        obtain ⟨more, ht⟩ := ht.perform_of_reachable hj op
        rw [history, List.append_cons]
        exact ih ht (hj.perform op)
  exact hfrom ops .still hr

theorem Told.course (ht : h.Told done stretches k) (hc : Course devices past h) :
    Course devices (past ++ done) k := by
  induction ht with
  | still =>
      rw [List.append_nil]
      exact hc
  | perform _ _ _ ih =>
      rw [← List.append_assoc]
      exact ih.perform _
  | note e he _ ih => exact ih.note e he

/-! ## What the stretches are -/

/-- A stretch of a run in which these operations were done. A request that is executed was posted. -/
inductive Stretch.IsOf (past : List (Host × Operation)) : Stretch → Prop
  | readied {j g : Host} {op : Operation} : (j, op) ∈ past → j.Readies op g → IsOf past ⟨j, g, none⟩
  | step {i k : Host} {id : NativeId} {q : QueuePair} {pending : PendingSend}
      {rest : List PendingSend} {outcome : SendOutcome} :
      i.Consumption id q pending rest outcome k →
      pending.request ∈ (posted id past).map (·.2) →
      IsOf past ⟨i, k, some (id, pending.request, outcome)⟩

theorem Stretch.IsOf.mono (hs : s.IsOf past) (later : List (Host × Operation)) :
    s.IsOf (past ++ later) := by
  cases hs with
  | readied hmem hready => exact .readied (List.mem_append_left _ hmem) hready
  | step hc hposted =>
      refine .step hc ?_
      rw [posted, List.flatMap_append, List.map_append]
      exact List.mem_append_left _ hposted

theorem Executes.steps (he : g.Executes stretches k) : g.Steps k := by
  induction he with
  | still => exact .refl
  | step _ hstep _ ih => exact ih.tail ⟨_, hstep⟩

theorem Executes.isOf (he : g.Executes stretches k) (hg : g.Recalls past) :
    ∀ s ∈ stretches, s.IsOf past := by
  induction he with
  | still => exact List.forall_mem_nil _
  | step hfirst _ hc ih =>
      intro s hs
      rcases List.mem_append.1 hs with hs | hs
      · exact ih s hs
      · obtain rfl := List.mem_singleton.1 hs
        refine .step hc ?_
        -- the head of a queue is one of those that were put into it
        have hsuffix := hfirst.steps.recalls hg hc.found
        rw [hc.head] at hsuffix
        obtain ⟨posting, hposting, hpending⟩ := List.mem_map.1 (hsuffix.subset List.mem_cons_self)
        exact List.mem_map.2 ⟨posting, hposting, congrArg (·.request) hpending⟩

theorem Told.isOf (ht : h.Told done stretches k) (hc : Course devices past h) :
    ∀ s ∈ stretches, s.IsOf (past ++ done) := by
  induction ht with
  | still => exact List.forall_mem_nil _
  | @perform done stretches more j g op hj hready hexecutes ih =>
      rw [← List.append_assoc]
      intro s hs
      rcases List.mem_append.1 hs with hs | hs
      · exact (ih s hs).mono _
      rcases List.mem_cons.1 hs with rfl | hs
      · exact .readied (List.mem_append_right _ List.mem_cons_self) hready
      · exact hexecutes.isOf (hready.recalls (hj.course hc).recalls) s hs
  | note _ _ _ ih => exact ih

/-! ## Memory -/

/-- Memory on its way through the stretches: each finds what the one before left. -/
def Flows (m : Memory) : List Stretch → Memory → Prop
  | [], m' => m' = m
  | s :: rest, m' => s.before.memory = m ∧ Flows s.after.memory rest m'

theorem flows_append {m m' : Memory} {stretches' : List Stretch} :
    Flows m (stretches ++ stretches') m' ↔
      ∃ between, Flows m stretches between ∧ Flows between stretches' m' := by
  induction stretches generalizing m with
  | nil =>
      constructor
      · intro hflows
        exact ⟨m, rfl, hflows⟩
      · rintro ⟨_, rfl, hflows⟩
        exact hflows
  | cons s rest ih =>
      constructor
      · rintro ⟨hbefore, hflows⟩
        obtain ⟨between, hfirst, hlast⟩ := ih.1 hflows
        exact ⟨between, ⟨hbefore, hfirst⟩, hlast⟩
      · rintro ⟨between, ⟨hbefore, hfirst⟩, hlast⟩
        exact ⟨hbefore, ih.2 ⟨between, hfirst, hlast⟩⟩

theorem Executes.flows (he : g.Executes stretches k) : Flows g.memory stretches k.memory := by
  induction he with
  | still => rfl
  | step _ _ _ ih => exact flows_append.2 ⟨_, ih, rfl, rfl⟩

theorem Told.flows (ht : h.Told done stretches k) : Flows h.memory stretches k.memory := by
  induction ht with
  | still => rfl
  | perform _ _ hexecutes ih => exact flows_append.2 ⟨_, ih, rfl, hexecutes.flows⟩
  | note _ _ _ ih => exact ih

/-! ## The journal -/

theorem Executes.sendsDone (he : g.Executes stretches k) :
    k.sendsDone = g.sendsDone ++ stretches.filterMap Stretch.done? := by
  induction he with
  | still => exact (List.append_nil _).symm
  | @step stretches i k id q pending rest outcome _ hstep hc ih =>
      rw [hc.sendsDone hstep, ih, List.filterMap_append, List.append_assoc]
      cases outcome <;> rfl

/-- What is written down of handles says nothing of requests. -/
theorem note_sendsDone_of_handleLayer (h : Host) {e : Event} (he : e.ofHandleLayer) :
    (h.note e).sendsDone = h.sendsDone :=
  sendsDone_of_entries (h.note_entries_of_none (ofRequest?_of_handleLayer he))

theorem Told.sendsDone (ht : h.Told done stretches k) :
    k.sendsDone = h.sendsDone ++ stretches.filterMap Stretch.done? := by
  induction ht with
  | still => exact (List.append_nil _).symm
  | perform _ hready hexecutes ih =>
      rw [hexecutes.sendsDone, hready.quiet, ih, List.filterMap_append, List.append_assoc]
      rfl
  | note e he _ ih =>
      rw [note_sendsDone_of_handleLayer _ he]
      exact ih

/-! ## Posting order -/

/-- Those requests of a list that are of one queue pair. -/
def requestsOf (id : NativeId) (requests : List (NativeId × SendRequest)) : List SendRequest :=
  (requests.filter (·.1 = id)).map (·.2)

theorem requestsOf_append (id : NativeId) (requests requests' : List (NativeId × SendRequest)) :
    requestsOf id (requests ++ requests') = requestsOf id requests ++ requestsOf id requests' := by
  simp only [requestsOf, List.filter_append, List.map_append]

theorem sendRequests_of_find {q : QueuePair} (hq : h.fabric.qps.find? id = some q) :
    h.sendRequests id = q.sendQueue.map (·.request) := by
  rw [sendRequests, hq]
  rfl

/-- The requests that were done and those that wait were posted in this order. -/
def InTurn (h : Host) (past : List (Host × Operation)) : Prop :=
  ∀ id, (requestsOf id h.sendsDone ++ h.sendRequests id).Sublist ((posted id past).map (·.2))

theorem InTurn.sendsDone (hh : h.InTurn past) (id : NativeId) :
    (requestsOf id h.sendsDone).Sublist ((posted id past).map (·.2)) :=
  (List.sublist_append_left _ _).trans (hh id)

theorem wanes_sendRequests (hw : g.fabric.Wanes k.fabric) (id : NativeId) :
    k.sendRequests id <:+ g.sendRequests id := by
  cases hq' : k.fabric.qps.find? id with
  | none =>
      rw [sendRequests, hq']
      exact List.nil_suffix
  | some q' =>
      obtain ⟨q, hq, hspent⟩ := hw.earlier hq'
      rw [sendRequests_of_find hq, sendRequests_of_find hq']
      cases hspent with
      | fewer hsends => exact hsends.map _
      | failed => exact List.nil_suffix

/-- The engine takes the request that it executes from the front of its queue. -/
theorem Consumption.inTurn {q : QueuePair} {pending : PendingSend} {rest : List PendingSend}
    {outcome : SendOutcome} (hc : g.Consumption id q pending rest outcome k)
    (hstep : g.step id = (true, k)) (hg : g.InTurn past) : k.InTurn past := by
  intro id'
  have hwaits := wanes_sendRequests hc.popped_wanes id'
  by_cases hid : id' = id
  case neg =>
    have hsame : (g.popped id rest).sendRequests id' = g.sendRequests id' := by
      simp [sendRequests, popped, Fabric.updateQp, Table.find?_modify, hid]
    have hothers : requestsOf id' (outcome.retired? id pending.request).toList = [] := by
      cases outcome with
      | done => simp [SendOutcome.retired?, requestsOf, Ne.symm hid]
      | blocked | failed => rfl
    rw [hsame] at hwaits
    rw [hc.sendsDone hstep, requestsOf_append, hothers, List.append_nil]
    exact ((List.Sublist.refl _).append hwaits.sublist).trans (hg id')
  case pos =>
    subst hid
    have hqueue : g.sendRequests id' = pending.request :: rest.map (·.request) := by
      rw [sendRequests_of_find hc.found, hc.head]
      rfl
    rw [sendRequests_of_find (popped_find hc.found rest)] at hwaits
    have htaken : (requestsOf id' (outcome.retired? id' pending.request).toList).Sublist
        [pending.request] := by
      cases outcome with
      | done => simp [SendOutcome.retired?, requestsOf]
      | blocked | failed => exact List.nil_sublist _
    have hposted := hg id'
    rw [hqueue, List.append_cons] at hposted
    rw [hc.sendsDone hstep, requestsOf_append]
    exact (((List.Sublist.refl _).append htaken).append hwaits.sublist).trans hposted

theorem Steps.inTurn (hs : g.Steps k) (hg : g.InTurn past) : k.InTurn past := by
  induction hs with
  | refl => exact hg
  | tail _ hlast ih =>
      obtain ⟨id, hstep⟩ := hlast
      obtain ⟨_, _, _, _, hc⟩ := step_consumption hstep
      exact hc.inTurn hstep ih

/-- What an operation posts waits behind all the others. -/
theorem Readies.inTurn (hready : h.Readies op g) (hh : h.InTurn past) :
    g.InTurn (past ++ [(h, op)]) := by
  intro id
  rw [hready.quiet, posted_concat, List.map_append]
  have hwaits : (g.sendRequests id).Sublist
      (h.sendRequests id ++ (h.posts id op).map (·.2)) := by
    cases hq' : g.fabric.qps.find? id with
    | none =>
        rw [sendRequests, hq']
        exact List.nil_sublist _
    | some q' =>
        rw [sendRequests_of_find hq']
        rcases hready.queued hq' with hempty | ⟨q, hq, hsuffix⟩
        · rw [hempty]
          exact List.nil_sublist _
        · have hmapped := (hsuffix.map (·.request)).sublist
          rw [List.map_append, List.map_map] at hmapped
          rw [sendRequests_of_find hq]
          exact hmapped
  refine ((List.Sublist.refl _).append hwaits).trans ?_
  rw [← List.append_assoc]
  exact (hh id).append (List.Sublist.refl _)

/-- Along every course sends are done in the order of their posts. -/
theorem Course.inTurn (hc : Course devices past h) : h.InTurn past := by
  induction hc with
  | fresh memory =>
      intro id
      obtain ⟨attached, nextId, hwork⟩ := fresh_work memory devices
      have hentries := noteInvalidMtus_entries { memory } devices
      have hqps : (({ memory } : Host).withDevices devices).fabric.qps = {} :=
        congrArg (·.qps) hwork
      have hdone : (({ memory } : Host).withDevices devices).sendsDone = [] :=
        sendsDone_of_entries (h := { memory }) hentries
      rw [hdone, sendRequests, hqps]
      exact List.nil_sublist _
  | perform op hc ih =>
      obtain ⟨g, hready⟩ := perform_readies hc.reachable.sound.fabric op
      exact hready.steps.inTurn (hready.inTurn ih)
  | note e he _ ih =>
      intro id
      rw [note_sendsDone_of_handleLayer _ he]
      exact ih id

end Rdma.Host
