import Rdma.Proofs.Engine.Enact
import Rdma.Proofs.Engine.Standstill

/-!
# Operations change requests, then the engine acts

Every operation makes one change to the requests of a fabric, and acts of the engine follow
(`Host.Proceeds`). What the change says of requests is known from the answer: a post says which
requests it accepted, and moving a queue pair to reset, or destroying it, that its queues were
emptied (`Host.intake`).

* `Change.fit` — changes keep a fabric fit for the engine;
* `perform_proceeds` — an operation is the change that its answer tells of, then acts.
-/

namespace Rdma

open Fabric (QueuePair PendingSend)

/-! ## Changes -/

/-- There is such a receive queue. -/
def Fabric.Holds (f : Fabric) : RecvQueue → Prop
  | .ofQp id => ∃ q, f.qps.find? id = some q
  | .shared id => ∃ s, f.srqs.find? id = some s

/-- What a verb does to requests, and to what they queue at, before the engine acts. -/
inductive Change : Fabric → List Event → Fabric → Prop
  | aside {f g : Fabric} : g.qps = f.qps → g.srqs = f.srqs → g.qpNumbers = f.qpNumbers →
      f.nextId ≤ g.nextId → Change f [] g
  | addQp {f g : Fabric} {q : QueuePair} : q.cleared = q → f.qpNumbers.find? q.number = none →
      g.qps = f.qps.insert f.nextId q → g.srqs = f.srqs →
      g.qpNumbers = f.qpNumbers.insert q.number f.nextId → g.nextId = f.nextId + 1 → Change f [] g
  | addSrq {f g : Fabric} {s : Fabric.SharedQueue} : s.queue = [] → g.qps = f.qps →
      g.srqs = f.srqs.insert f.nextId s → g.qpNumbers = f.qpNumbers → g.nextId = f.nextId + 1 →
      Change f [] g
  | dropQp {f g : Fabric} {id : NativeId} {q : QueuePair} : f.qps.find? id = some q →
      g.qps = f.qps.erase id → g.srqs = f.srqs → g.qpNumbers = f.qpNumbers.erase q.number →
      g.nextId = f.nextId → Change f [.queuesCleared id] g
  | dropSrq {f g : Fabric} (id : NativeId) : g.qps = f.qps → g.srqs = f.srqs.erase id →
      g.qpNumbers = f.qpNumbers → g.nextId = f.nextId → Change f [] g
  | modify {f : Fabric} {id : NativeId} {attributes : QpAttributes} {mask : QpMask}
      {target : QpState} : target ≠ .reset →
      (∀ q, f.qps.find? id = some q → q.state = .error → target = .error) →
      Change f [] (f.updateQp id (·.modified attributes mask target))
  | clear {f : Fabric} {id : NativeId} {q : QueuePair} : f.qps.find? id = some q →
      Change f [.queuesCleared id] (f.updateQp id (·.cleared))
  | postSends {f : Fabric} {id : NativeId} {q : QueuePair} {accepted : List PendingSend} :
      f.qps.find? id = some q → q.state ≠ .reset → (∀ p ∈ accepted, p.AsPosted) →
      Change f (accepted.map fun s => .sendAccepted id s.request)
        (f.updateQp id fun q => { q with sendQueue := q.sendQueue ++ accepted })
  | postRecvs {f : Fabric} {queue : RecvQueue} {accepted : List RecvRequest} : f.Holds queue →
      (∀ id q, queue = .ofQp id → f.qps.find? id = some q → q.state ≠ .reset ∧ q.srq = none) →
      Change f (accepted.map (.recvAccepted queue))
        (f.setRecvRequests (f.recvRequests queue ++ accepted) queue)

namespace Fabric

variable {f g : Fabric}

/-- A change of one queue pair keeps a fabric fit if it keeps the number and what is queued is as it
was posted. -/
theorem Fit.updateQp (hf : f.Fit) {id : NativeId} {change : QueuePair → QueuePair}
    (hnumber : ∀ q, (change q).number = q.number)
    (hposted : ∀ q, f.qps.find? id = some q → ∀ p ∈ (change q).sendQueue, p.AsPosted)
    (hidle : ∀ q, f.qps.find? id = some q → (change q).state = .reset →
      (change q).sendQueue = [] ∧ (change q).recvQueue = []) : (f.updateQp id change).Fit := by
  have hfound {id' : NativeId} {q' : QueuePair}
      (hq' : (f.updateQp id change).qps.find? id' = some q') :
      (id' = id ∧ ∃ q, f.qps.find? id = some q ∧ q' = change q) ∨ f.qps.find? id' = some q' := by
    rcases Table.modified hq' with ⟨rfl, q, hq, rfl⟩ | hq'
    · exact .inl ⟨rfl, q, hq, rfl⟩
    · exact .inr hq'
  constructor
  case numbered => exact hf.numbered.updateQp hnumber
  case qpBelow =>
    intro id' q' hq'
    rcases hfound hq' with ⟨rfl, q, hq, -⟩ | hq
    · exact hf.qpBelow hq
    · exact hf.qpBelow hq
  case srqBelow => exact hf.srqBelow
  case posted =>
    intro id' q' hq'
    rcases hfound hq' with ⟨-, q, hq, rfl⟩ | hq
    · exact hposted q hq
    · exact hf.posted hq
  case idle =>
    intro id' q' hq'
    rcases hfound hq' with ⟨-, q, hq, rfl⟩ | hq
    · exact hidle q hq
    · exact hf.idle hq

/-- Requests in shared receive queues are not looked at. -/
theorem Fit.of_frame (hf : f.Fit) (hqps : g.qps = f.qps)
    (hsrqs : ∀ {id s}, g.srqs.find? id = some s → id < g.nextId)
    (hnumbers : g.qpNumbers = f.qpNumbers) (hnext : f.nextId ≤ g.nextId) : g.Fit where
  numbered number id := by rw [hqps, hnumbers]; exact hf.numbered number id
  qpBelow hq := Nat.lt_of_lt_of_le (hf.qpBelow (hqps ▸ hq)) hnext
  srqBelow := hsrqs
  posted hq := hf.posted (hqps ▸ hq)
  idle hq := hf.idle (hqps ▸ hq)

/-- A new queue pair of a free number under the next identity. -/
theorem Fit.addQp (hf : f.Fit) {q : QueuePair} (hnew : q.cleared = q)
    (hfree : f.qpNumbers.find? q.number = none) (hqps : g.qps = f.qps.insert f.nextId q)
    (hsrqs : g.srqs = f.srqs) (hnumbers : g.qpNumbers = f.qpNumbers.insert q.number f.nextId)
    (hnext : g.nextId = f.nextId + 1) : g.Fit := by
  have hqueues : q.sendQueue = [] ∧ q.recvQueue = [] := by
    rw [← hnew]
    exact ⟨rfl, rfl⟩
  have hfound {id : NativeId} {q' : QueuePair} (hq' : g.qps.find? id = some q') :
      (id = f.nextId ∧ q' = q) ∨ f.qps.find? id = some q' := by
    rw [hqps, Table.find?_insert] at hq'
    split at hq'
    case isTrue hid => exact .inl ⟨hid, (Option.some.inj hq').symm⟩
    case isFalse => exact .inr hq'
  constructor
  case numbered =>
    intro number id
    rw [hqps, hnumbers, Table.find?_insert, Table.find?_insert]
    by_cases hnumber : number = q.number
    · -- no other queue pair has the number
      rw [if_pos hnumber]
      constructor
      · rintro ⟨⟩
        exact ⟨q, if_pos rfl, hnumber.symm⟩
      · rintro ⟨q', hq', hsame⟩
        split at hq'
        case isTrue hid => rw [hid]
        case isFalse =>
          have hused := (hf.numbered number id).2 ⟨q', hq', hsame⟩
          rw [hnumber, hfree] at hused
          cases hused
    · rw [if_neg hnumber, hf.numbered]
      constructor
      · rintro ⟨q', hq', hsame⟩
        have hid : id ≠ f.nextId := Nat.ne_of_lt (hf.qpBelow hq')
        exact ⟨q', by rw [if_neg hid, hq'], hsame⟩
      · rintro ⟨q', hq', hsame⟩
        split at hq'
        case isTrue =>
          obtain rfl := Option.some.inj hq'
          exact absurd hsame.symm hnumber
        case isFalse => exact ⟨q', hq', hsame⟩
  case qpBelow =>
    intro id q' hq'
    rw [hnext]
    rcases hfound hq' with ⟨rfl, -⟩ | hq'
    · exact Nat.lt_succ_self _
    · exact Nat.lt_succ_of_lt (hf.qpBelow hq')
  case srqBelow =>
    intro id s hs
    rw [hnext]
    exact Nat.lt_succ_of_lt (hf.srqBelow (hsrqs ▸ hs))
  case posted =>
    intro id q' hq'
    rcases hfound hq' with ⟨-, rfl⟩ | hq'
    · rw [hqueues.1]; exact List.forall_mem_nil _
    · exact hf.posted hq'
  case idle =>
    intro id q' hq'
    rcases hfound hq' with ⟨-, rfl⟩ | hq'
    · exact fun _ => hqueues
    · exact hf.idle hq'

/-- A queue pair goes, and its number becomes free. -/
theorem Fit.dropQp (hf : f.Fit) {id : NativeId} {q : QueuePair} (hq : f.qps.find? id = some q)
    (hqps : g.qps = f.qps.erase id) (hsrqs : g.srqs = f.srqs)
    (hnumbers : g.qpNumbers = f.qpNumbers.erase q.number) (hnext : g.nextId = f.nextId) :
    g.Fit := by
  have hfound {id' : NativeId} {q' : QueuePair} (hq' : g.qps.find? id' = some q') :
      id' ≠ id ∧ f.qps.find? id' = some q' := by
    rw [hqps] at hq'
    exact Table.erased hq'
  constructor
  case numbered =>
    intro number id'
    rw [hnumbers, Table.find?_erase]
    by_cases hnumber : number = q.number
    · rw [if_pos hnumber]
      refine iff_of_false (Option.some_ne_none _).symm ?_
      rintro ⟨q', hq', hsame⟩
      obtain ⟨hid, hq'⟩ := hfound hq'
      exact hid (hf.number_inj hq hq' (hsame.trans hnumber))
    · rw [if_neg hnumber, hf.numbered]
      constructor
      · rintro ⟨q', hq', hsame⟩
        refine ⟨q', ?_, hsame⟩
        rw [hqps, Table.find?_erase, if_neg, hq']
        rintro rfl
        obtain rfl := Option.some.inj (hq.symm.trans hq')
        exact hnumber hsame.symm
      · rintro ⟨q', hq', hsame⟩
        exact ⟨q', (hfound hq').2, hsame⟩
  case qpBelow =>
    intro id' q' hq'
    rw [hnext]
    exact hf.qpBelow (hfound hq').2
  case srqBelow =>
    intro id' s hs
    rw [hnext]
    exact hf.srqBelow (hsrqs ▸ hs)
  case posted => exact fun hq' => hf.posted (hfound hq').2
  case idle => exact fun hq' => hf.idle (hfound hq').2

end Fabric

/-- Every change keeps the fabric fit for the engine. -/
theorem Change.fit {f g : Fabric} {es : List Event} (h : Change f es g) (hf : f.Fit) : g.Fit := by
  cases h with
  | aside hqps hsrqs hnumbers hnext =>
      exact hf.of_frame hqps (fun hs => Nat.lt_of_lt_of_le (hf.srqBelow (hsrqs ▸ hs)) hnext)
        hnumbers hnext
  | addQp hnew hfree hqps hsrqs hnumbers hnext => exact hf.addQp hnew hfree hqps hsrqs hnumbers hnext
  | addSrq hempty hqps hsrqs hnumbers hnext =>
      refine hf.of_frame hqps (fun hs => ?_) hnumbers (hnext ▸ Nat.le_succ _)
      rw [hsrqs, Table.find?_insert] at hs
      split at hs
      case isTrue hid => rw [hnext, hid]; exact Nat.lt_succ_self _
      case isFalse => rw [hnext]; exact Nat.lt_succ_of_lt (hf.srqBelow hs)
  | dropQp hq hqps hsrqs hnumbers hnext => exact hf.dropQp hq hqps hsrqs hnumbers hnext
  | dropSrq id hqps hsrqs hnumbers hnext =>
      refine hf.of_frame hqps (fun hs => ?_) hnumbers (Nat.le_of_eq hnext.symm)
      rw [hsrqs] at hs
      obtain ⟨-, hs⟩ := Table.erased hs
      rw [hnext]; exact hf.srqBelow hs
  | modify htarget herror =>
      exact hf.updateQp (fun _ => rfl) (fun q hq => hf.posted (q := q) hq)
        fun q hq hreset => absurd hreset htarget
  | clear _ =>
      exact hf.updateQp (fun _ => rfl) (fun _ _ _ hp => by cases hp) fun _ _ _ => ⟨rfl, rfl⟩
  | postSends hq hstate hposted =>
      refine hf.updateQp (fun _ => rfl) (fun q' hq' p hp => ?_) fun q' hq' hreset => ?_
      · exact (List.mem_append.1 hp).elim (hf.posted hq' p) (hposted p)
      · obtain rfl := Option.some.inj (hq'.symm.trans hq)
        exact absurd hreset hstate
  | @postRecvs queue accepted hholds howner =>
      cases queue with
      | ofQp id =>
          exact hf.updateQp (fun _ => rfl) (fun q hq => hf.posted (q := q) hq)
            fun q hq hreset => absurd hreset (howner id q rfl hq).1
      | shared srq =>
          refine hf.of_frame rfl (fun {id s} hs => ?_) rfl (Nat.le_refl _)
          rcases Table.modified hs with ⟨-, s', hs', -⟩ | hs
          · exact hf.srqBelow hs'
          · exact hf.srqBelow hs

/-! ## What an answer tells -/

/-- The requests that a post accepted, going by its answer: all, or those before the one refused. -/
def acceptedOf {α : Type} (requests : List α) : Except Rejection Unit → List α
  | .ok _ => requests
  | .error rejection => requests.take rejection.index

/-- Requests are accepted in order up to the one refused, each as its check left it. -/
theorem accept_spec {α β : Type} {check : Nat → α → Except OsError β} {back : β → α}
    (hback : ∀ i a b, check i a = .ok b → back b = a) (index : Nat) (requests : List α) :
    (accept check index requests).1.map back =
        (match (accept check index requests).2 with
        | none => requests
        | some rejection => requests.take (rejection.index - index)) ∧
      (∀ rejection, (accept check index requests).2 = some rejection → index ≤ rejection.index) ∧
      ∀ b ∈ (accept check index requests).1, ∃ i a, check i a = .ok b := by
  induction requests generalizing index with
  | nil => exact ⟨rfl, nofun, nofun⟩
  | cons a rest ih =>
      simp only [accept]
      cases hcheck : check index a with
      | error cause =>
          refine ⟨by simp, ?_, nofun⟩
          rintro _ ⟨⟩
          exact Nat.le_refl _
      | ok b =>
          obtain ⟨hmap, hle, hchecked⟩ := ih (index + 1)
          refine ⟨?_, fun rejection hr => Nat.le_of_succ_le (hle rejection hr), fun b' hb' => ?_⟩
          · simp only [List.map_cons, hback _ _ _ hcheck, hmap]
            cases hr : (accept check (index + 1) rest).2 with
            | none => rfl
            | some rejection =>
                have hlt := hle rejection hr
                obtain ⟨n, hn⟩ : ∃ n, rejection.index - index = n + 1 :=
                  ⟨rejection.index - index - 1, by omega⟩
                have hrest : rejection.index - (index + 1) = n := by omega
                change a :: rest.take _ = (a :: rest).take _
                rw [hn, hrest, List.take_succ_cons]
          · rcases List.mem_cons.1 hb' with rfl | hb'
            · exact ⟨index, a, hcheck⟩
            · exact hchecked b' hb'

/-- What a post accepts is what its answer says. -/
theorem accept_answer {α β : Type} {check : Nat → α → Except OsError β} {back : β → α}
    (hback : ∀ i a b, check i a = .ok b → back b = a) (requests : List α) :
    (accept check 0 requests).1.map back =
      acceptedOf requests (Rejection.answer (accept check 0 requests).2) := by
  rw [(accept_spec hback 0 requests).1]
  cases (accept check 0 requests).2 <;> rfl

namespace Fabric

theorem length_gatherBytes (m : Memory) (sges : List Sge) :
    (Host.gatherBytes m sges).length = Sge.totalLength sges := by
  induction sges with
  | nil => rfl
  | cons sge rest ih =>
      have hbytes : (m.readBytes sge.addr sge.length.toNat).length = sge.length.toNat := by
        simp [Memory.readBytes, Memory.span]
      rw [Host.gatherBytes, List.flatMap_cons, List.length_append, hbytes]
      exact congrArg _ ih

/-- A request as it is queued when it is posted. The payload of an inline request is what its entries
hold in the memory of that moment. -/
def PendingSend.ofPosted (posted : Memory × SendRequest) : PendingSend where
  request := posted.2
  inlined := if posted.2.isInline then some (Host.gatherBytes posted.1 posted.2.sges) else none

theorem PendingSend.ofPosted_asPosted (posted : Memory × SendRequest) :
    (PendingSend.ofPosted posted).AsPosted := by
  unfold ofPosted
  cases hinline : posted.2.isInline
  · exact ⟨rfl, hinline.symm⟩
  · exact ⟨length_gatherBytes posted.1 posted.2.sges, hinline.symm⟩

/-- A request that is accepted is queued with the memory of that moment, and brings no data back if its
payload was taken from it. -/
theorem acceptSend_posted {f : Fabric} {m : Memory} {q : QueuePair} {queued : Nat}
    {request : SendRequest} {p : PendingSend}
    (hok : f.acceptSend m q queued request = .ok p) :
    p = .ofPosted (m, request) ∧ (request.isInline = true → request.opcode.writesLocal = false) := by
  unfold acceptSend at hok
  obtain ⟨-, hok⟩ := refuse_eq_ok.1 hok
  by_cases hinline : request.isInline = true
  case neg =>
    simp only [hinline, Bool.false_eq_true, if_false, pure_eq_ok, ok_bind] at hok
    obtain ⟨-, hok⟩ := refuse_eq_ok.1 hok
    obtain rfl := Except.ok.inj hok
    exact ⟨by simp [PendingSend.ofPosted, hinline], fun h => absurd h hinline⟩
  case pos =>
    cases hdata : f.captureInline m q.pd q.caps.maxInlineData request with
    | none => simp only [hinline, if_true, hdata, throw_eq_error, error_bind] at hok; cases hok
    | some data =>
        simp only [hinline, if_true, hdata, pure_eq_ok, ok_bind] at hok
        obtain ⟨-, hok⟩ := refuse_eq_ok.1 hok
        obtain rfl := Except.ok.inj hok
        have hgathered : data = Host.gatherBytes m request.sges ∧
            request.opcode.writesLocal = false := by
          simp only [captureInline] at hdata
          split at hdata
          · cases hdata
          case isFalse hplain =>
          split at hdata
          · cases hdata
          split at hdata
          · exact ⟨(Option.some.inj hdata).symm, Bool.not_eq_true _ ▸ hplain⟩
          · cases hdata
        exact ⟨by simp [PendingSend.ofPosted, hinline, hgathered.1], fun _ => hgathered.2⟩

theorem acceptSend_eq_ok {f : Fabric} {m : Memory} {q : QueuePair} {queued : Nat}
    {request : SendRequest} {p : PendingSend}
    (hok : f.acceptSend m q queued request = .ok p) :
    p.request = request ∧ p.AsPosted ∧
      (p.inlined.isSome = true → p.request.opcode.writesLocal = false) := by
  obtain ⟨rfl, hplain⟩ := acceptSend_posted hok
  have hposted := PendingSend.ofPosted_asPosted (m, request)
  exact ⟨rfl, hposted, fun hinlined => hplain (hposted.inlined ▸ hinlined)⟩

theorem acceptRecv_eq_ok {maxWr maxSge : UInt32} {queued : Nat} {request r : RecvRequest}
    (hok : acceptRecv maxWr maxSge queued request = .ok r) : r = request := by
  unfold acceptRecv at hok
  obtain ⟨-, hok⟩ := refuse_eq_ok.1 hok
  obtain ⟨-, hok⟩ := refuse_eq_ok.1 hok
  exact (Except.ok.inj hok).symm

end Fabric

namespace Host

/-- What an operation says of requests before the engine acts, going by its answer: the requests
that a post accepted, and that the queues of a queue pair were emptied because it was destroyed or
moved to reset. -/
def intake (h : Host) : Operation → List Event
  | .postSend id requests =>
    (acceptedOf requests (postSend id requests h).1).map (.sendAccepted id)
  | .postRecv id requests =>
    (acceptedOf requests (postRecv id requests h).1).map (.recvAccepted (.ofQp id))
  | .postSrqRecv id requests =>
    (acceptedOf requests (postSrqRecv id requests h).1).map (.recvAccepted (.shared id))
  | .modifyQp id attributes mask =>
    match (modifyQp id attributes mask h).1, h.fabric.qps.find? id with
    | .ok _, some q =>
      if Fabric.targetState q attributes mask = .ok .reset then [.queuesCleared id] else []
    | _, _ => []
  | .destroyQp id =>
    match (destroyQp id h).1 with
    | .ok _ => [.queuesCleared id]
    | .error _ => []
  | _ => []

/-- A change that says something of requests, then acts of the engine. -/
def Proceeds (h : Host) (said : List Event) (k : Host) : Prop :=
  ∃ g es, Change h.fabric.work said g ∧ Acts ⟨g, none⟩ es ⟨k.fabric.work, none⟩ ∧
    k.entries = h.entries ++ said ++ es

variable {h g k : Host} {said : List Event}

theorem Proceeds.of_enacts (hchange : Change h.fabric.work said g.fabric.work)
    (hentries : g.entries = h.entries ++ said) (hk : g.Enacts none k none) :
    h.Proceeds said k := by
  obtain ⟨es, hacts, hentries'⟩ := hk
  exact ⟨g.fabric.work, es, hchange, hacts, by rw [hentries', hentries]⟩

theorem Proceeds.of_change (hchange : Change h.fabric.work said k.fabric.work)
    (hentries : k.entries = h.entries ++ said) : h.Proceeds said k :=
  .of_enacts hchange hentries (.refl k)

/-- Whatever changed, requests and what they queue at did not. -/
theorem Proceeds.aside (hqps : k.fabric.qps = h.fabric.qps) (hsrqs : k.fabric.srqs = h.fabric.srqs)
    (hnumbers : k.fabric.qpNumbers = h.fabric.qpNumbers)
    (hnext : h.fabric.nextId ≤ k.fabric.nextId) (hentries : k.entries = h.entries) :
    h.Proceeds [] k :=
  .of_change (.aside hqps hsrqs hnumbers hnext) (by rw [hentries, List.append_nil])

theorem Proceeds.of_same (hwork : k.fabric.work = h.fabric.work) (hentries : k.entries = h.entries) :
    h.Proceeds [] k :=
  .aside (congrArg (·.qps) hwork) (congrArg (·.srqs) hwork) (congrArg (·.qpNumbers) hwork)
    (Nat.le_of_eq (congrArg (·.nextId) hwork).symm) hentries

theorem Proceeds.refl (h : Host) : h.Proceeds [] h := .of_same rfl rfl

/-- A change, what the engine does at once, and a run of the engine. -/
theorem Proceeds.of_progress (hf : h.fabric.work.Fit)
    (hchange : Change h.fabric.work said g.fabric.work) (hentries : g.entries = h.entries ++ said)
    (hk : g.Enacts none k none) : h.Proceeds said k.progress :=
  .of_enacts hchange hentries (hk.trans (progress_enacts (hk.fit (hchange.fit hf))))

/-! ## Posting -/

theorem foldl_note_entries {α : Type} (event : α → Event)
    (hevent : ∀ a, (event a).ofRequest? = some (event a)) (items : List α) (h : Host) :
    let k := items.foldl (fun h a => h.note (event a)) h
    k.fabric = h.fabric ∧ k.entries = h.entries ++ items.map event := by
  induction items generalizing h with
  | nil => exact ⟨rfl, (List.append_nil _).symm⟩
  | cons a rest ih =>
      obtain ⟨hfabric, hentries⟩ := ih (h.note (event a))
      refine ⟨hfabric, hentries.trans ?_⟩
      rw [note_entries, hevent]
      simp

theorem flushIf_enacts (h : Host) (c : Prop) [Decidable c] (id : NativeId)
    (herror : c → ∀ q, h.fabric.qps.find? id = some q → q.state = .error) :
    h.Enacts none (if c then h.flush id else h) none := by
  split
  case isTrue hc => exact flush_enacts h id none (herror hc)
  case isFalse => exact .refl h

/-- What the verbs that post have in common: they queue the requests that pass the check, write them
down, perhaps flush, and run the engine. -/
theorem Proceeds.of_post {α β : Type} (check : Nat → α → Except OsError β) (back : β → α)
    (event : α → Event) (queued : List β → Host) (after : Host → Host) (hf : h.fabric.work.Fit)
    (hback : ∀ i a b, check i a = .ok b → back b = a)
    (hevent : ∀ a, (event a).ofRequest? = some (event a))
    (hchange : ∀ accepted, (∀ b ∈ accepted, ∃ i a, check i a = .ok b) →
      Change h.fabric.work (accepted.map fun b => event (back b)) (queued accepted).fabric.work)
    (hquiet : ∀ accepted, (queued accepted).entries = h.entries)
    (hafter : ∀ accepted (k : Host), k.fabric = (queued accepted).fabric →
      k.Enacts none (after k) none)
    (requests : List α) :
    let posted := accept check 0 requests
    h.Proceeds ((acceptedOf requests (Rejection.answer posted.2)).map event)
      (after (posted.1.foldl (fun h b => h.note (event (back b))) (queued posted.1))).progress := by
  have hanswer := accept_answer hback requests
  obtain ⟨-, -, hchecked⟩ := accept_spec hback 0 requests
  generalize accept check 0 requests = posted at hanswer hchecked ⊢
  obtain ⟨accepted, rejection⟩ := posted
  obtain ⟨hfabric, hentries⟩ := foldl_note_entries (fun b => event (back b))
    (fun b => hevent (back b)) accepted (queued accepted)
  simp only at hanswer ⊢
  rw [← hanswer, List.map_map]
  refine .of_progress hf (hfabric ▸ hchange accepted hchecked) ?_ (hafter accepted _ hfabric)
  rw [hentries, hquiet]
  rfl

/-- A post of sends is one change, a flush if the queue pair has failed, and a run of the engine. -/
theorem postSend_proceeds (hf : h.fabric.work.Fit) (id : NativeId) (requests : List SendRequest) :
    h.Proceeds ((acceptedOf requests (postSend id requests h).1).map (.sendAccepted id))
      (postSend id requests h).2 := by
  unfold postSend
  cases hq : h.fabric.qps.find? id with
  | none => exact .refl h
  | some q =>
      by_cases hstate : (q.state = .rts || q.state = .sqd || q.state = .error) = true
      case neg => simp only [hstate]; exact .refl h
      simp only [hstate, if_true]
      have hreset : q.state ≠ .reset := by
        rintro hreset
        rw [hreset] at hstate
        cases hstate
      refine .of_post
        (fun i request => h.fabric.acceptSend h.memory q (q.sendQueue.length + i) request)
        (·.request) (.sendAccepted id)
        (fun accepted => h.updateQp id fun q => { q with sendQueue := q.sendQueue ++ accepted })
        (fun k => if q.state = .error then k.flush id else k) hf
        (fun _ _ _ hok => (Fabric.acceptSend_eq_ok hok).1) (fun _ => rfl) (fun accepted hchecked => ?_)
        (fun _ => rfl) (fun accepted k hk => ?_) requests
      · refine .postSends hq hreset fun p hp => ?_
        obtain ⟨i, request, hok⟩ := hchecked p hp
        exact (Fabric.acceptSend_eq_ok hok).2.1
      · refine flushIf_enacts k _ id fun herror q' hq' => ?_
        simp only [hk, updateQp_fabric, Fabric.updateQp, Table.find?_modify, if_true, hq,
          Option.map_some, Option.some.injEq] at hq'
        rw [← hq']
        exact herror

/-- Adding to a queue is replacing it by the longer one. -/
theorem appendRecvs_ofQp (f : Fabric) (id : NativeId) (accepted : List RecvRequest) :
    (f.updateQp id fun q => { q with recvQueue := q.recvQueue ++ accepted }).work =
      f.work.setRecvRequests (f.work.recvRequests (.ofQp id) ++ accepted) (.ofQp id) := by
  have hqps : f.qps.modify id (fun q => { q with recvQueue := q.recvQueue ++ accepted }) =
      f.qps.modify id (fun q =>
        { q with recvQueue := f.work.recvRequests (.ofQp id) ++ accepted }) := by
    refine Table.modify_congr fun q hq => ?_
    simp [Fabric.recvRequests, Fabric.work, hq]
  simp only [Fabric.updateQp, hqps]
  rfl

theorem appendRecvs_shared (f : Fabric) (srq : NativeId) (accepted : List RecvRequest) :
    ({ f with
        srqs := f.srqs.modify srq fun s => { s with queue := s.queue ++ accepted } } : Fabric).work =
      f.work.setRecvRequests (f.work.recvRequests (.shared srq) ++ accepted) (.shared srq) := by
  have hsrqs : f.srqs.modify srq (fun s => { s with queue := s.queue ++ accepted }) =
      f.srqs.modify srq (fun s =>
        { s with queue := f.work.recvRequests (.shared srq) ++ accepted }) := by
    refine Table.modify_congr fun s hs => ?_
    simp [Fabric.recvRequests, Fabric.work, hs]
  simp only [hsrqs]
  rfl

/-- A post of receives goes as one of sends; with a shared queue or in reset it is refused whole. -/
theorem postRecv_proceeds (hf : h.fabric.work.Fit) (id : NativeId) (requests : List RecvRequest) :
    h.Proceeds ((acceptedOf requests (postRecv id requests h).1).map (.recvAccepted (.ofQp id)))
      (postRecv id requests h).2 := by
  unfold postRecv
  cases hq : h.fabric.qps.find? id with
  | none => exact .refl h
  | some q =>
      by_cases hrefused : (decide (q.state = .reset) || q.srq.isSome) = true
      case pos => simp only [hrefused, if_true]; exact .refl h
      simp only [hrefused, Bool.false_eq_true, if_false]
      simp only [Bool.or_eq_true, decide_eq_true_eq, not_or, Bool.not_eq_true,
        Option.isSome_eq_false_iff, Option.isNone_iff_eq_none] at hrefused
      refine .of_post
        (fun i request => Fabric.acceptRecv q.caps.maxRecvWr q.caps.maxRecvSge
          (q.recvQueue.length + i) request)
        (fun r => r) (.recvAccepted (.ofQp id))
        (fun accepted => h.updateQp id fun q => { q with recvQueue := q.recvQueue ++ accepted })
        (fun k => if q.state = .error then k.flush id else k) hf
        (fun _ _ _ hok => Fabric.acceptRecv_eq_ok hok) (fun _ => rfl) (fun accepted _ => ?_)
        (fun _ => rfl) (fun accepted k hk => ?_) requests
      · rw [updateQp_fabric, appendRecvs_ofQp]
        refine .postRecvs ⟨q, hq⟩ fun id' q' hid hq' => ?_
        obtain rfl := RecvQueue.ofQp.inj hid
        obtain rfl := Option.some.inj (hq.symm.trans hq')
        exact hrefused
      · refine flushIf_enacts k _ id fun herror q' hq' => ?_
        simp only [hk, updateQp_fabric, Fabric.updateQp, Table.find?_modify, if_true, hq,
          Option.map_some, Option.some.injEq] at hq'
        rw [← hq']
        exact herror

theorem postSrqRecv_proceeds (hf : h.fabric.work.Fit) (id : NativeId)
    (requests : List RecvRequest) :
    h.Proceeds ((acceptedOf requests (postSrqRecv id requests h).1).map (.recvAccepted (.shared id)))
      (postSrqRecv id requests h).2 := by
  unfold postSrqRecv
  cases hs : h.fabric.srqs.find? id with
  | none => exact .refl h
  | some s =>
      refine .of_post
        (fun i request => Fabric.acceptRecv s.maxWr s.maxSge (s.queue.length + i) request)
        (fun r => r) (.recvAccepted (.shared id))
        (fun accepted => { h with
          fabric := { h.fabric with
            srqs := h.fabric.srqs.modify id fun s => { s with queue := s.queue ++ accepted } } })
        (fun k => k) hf (fun _ _ _ hok => Fabric.acceptRecv_eq_ok hok) (fun _ => rfl)
        (fun accepted _ => ?_) (fun _ => rfl) (fun _ k _ => .refl k) requests
      rw [appendRecvs_shared]
      exact .postRecvs ⟨s, hs⟩ nofun

/-! ## Queue pairs -/

/-- The modification passes all checks and leads to the target state. -/
structure Allows (h : Host) (q : QueuePair) (attributes : QpAttributes) (mask : QpMask)
    (target : QpState) : Prop where
  leads : Fabric.targetState q attributes mask = .ok target
  legal : Fabric.legalTransition mask q.state target = true
  valid : ∃ c, h.fabric.contextOfPd q.pd = .ok c ∧
    Fabric.checkAttributes c.config attributes mask = .ok ()

/-- What a modification comes to: it is refused, or it is legal, applied, and entered. -/
theorem modifyQp_cases (h : Host) (id : NativeId) (attributes : QpAttributes) (mask : QpMask) :
    (∃ cause journal, modifyQp id attributes mask h = (.error cause, { h with journal }) ∧
      ({ h with journal } : Host).entries = h.entries) ∨
    ∃ q target, h.fabric.qps.find? id = some q ∧ h.Allows q attributes mask target ∧
      modifyQp id attributes mask h =
        (.ok (), ((h.updateQp id (·.modified attributes mask target)).enterState id q.state
          target).progress) := by
  unfold modifyQp
  cases hq : h.fabric.qps.find? id with
  | none => exact .inl ⟨_, h.journal, rfl, rfl⟩
  | some q =>
      simp only
      cases hc : h.fabric.contextOfPd q.pd with
      | error cause => exact .inl ⟨_, h.journal, rfl, rfl⟩
      | ok c =>
          cases ht : Fabric.targetState q attributes mask with
          | error cause => exact .inl ⟨_, h.journal, rfl, rfl⟩
          | ok target =>
              simp only [ok_bind, pure_eq_ok]
              cases hlegal : Fabric.legalTransition mask q.state target with
              | false =>
                  exact .inl ⟨_, _, rfl, note_entries_of_none h rfl⟩
              | true =>
                  cases ha : Fabric.checkAttributes c.config attributes mask with
                  | error cause => exact .inl ⟨_, h.journal, rfl, rfl⟩
                  | ok => exact .inr ⟨q, target, rfl, ⟨ht, hlegal, c, hc, ha⟩, rfl⟩

/-- A modification is one change and what the new state does to the queues, then the engine runs. -/
theorem modifyQp_proceeds (hf : h.fabric.work.Fit) (id : NativeId) (attributes : QpAttributes)
    (mask : QpMask) :
    h.Proceeds (h.intake (.modifyQp id attributes mask)) (modifyQp id attributes mask h).2 := by
  rcases h.modifyQp_cases id attributes mask with
    ⟨cause, journal, hresult, hentries⟩ | ⟨q, target, hq, ⟨htarget, hlegal, -⟩, hresult⟩
  · simp only [intake, hresult]
    exact .of_same rfl hentries
  · simp only [intake, hresult, hq, htarget, Except.ok.injEq]
    let modified := h.updateQp id (·.modified attributes mask target)
    have hmodified (hreset : target ≠ .reset) : Change h.fabric.work [] modified.fabric.work := by
      refine .modify hreset fun q' hq' herror => ?_
      obtain rfl := Option.some.inj (hq'.symm.trans hq)
      -- from the error state a queue pair can only be reset
      rw [herror] at hlegal
      cases target <;> first | rfl | exact absurd rfl hreset | cases hlegal
    have hplain (hreset : target ≠ .reset) {k : Host} (hk : modified.Enacts none k none) :
        h.Proceeds [] k.progress :=
      .of_progress hf (hmodified hreset) (List.append_nil _).symm hk
    cases target with
    | reset =>
        -- a reset undoes the modification: what is left is the queue pair as created
        let cleared := modified.updateQp id (·.cleared)
        have hcleared : cleared.fabric.work = h.fabric.work.updateQp id (·.cleared) := by
          simp only [cleared, modified, updateQp, Fabric.updateQp, Table.modify_modify]
          rfl
        have hchange : Change h.fabric.work [.queuesCleared id] cleared.fabric.work := by
          rw [hcleared]
          exact .clear hq
        rw [if_pos rfl]
        exact .of_progress (g := cleared.note (.queuesCleared id)) hf hchange
          (note_entries cleared (.queuesCleared id)) (.refl _)
    | error =>
        refine hplain (by decide) ?_
        unfold enterState
        simp only
        split
        · exact .refl _
        · exact enterError_enacts _ id
    | init | rtr | rts | sqd | sqe => exact hplain (by decide) (.refl _)

theorem destroyQp_proceeds (hf : h.fabric.work.Fit) (id : NativeId) :
    h.Proceeds (h.intake (.destroyQp id)) (destroyQp id h).2 := by
  simp only [intake, destroyQp, Step.guarded]
  cases hq : h.fabric.qps.find? id with
  | none => exact .refl h
  | some q =>
      let f : Fabric := { h.fabric with
        qps := h.fabric.qps.erase id
        qpNumbers := h.fabric.qpNumbers.erase q.number }
      have hchange : Change h.fabric.work [.queuesCleared id] f.work :=
        .dropQp (q := q) hq rfl rfl rfl rfl
      exact .of_progress hf hchange (note_entries { h with fabric := f } (.queuesCleared id))
        (.refl _)

/-! ## All operations -/

theorem Created.proceeds {α : Type} {describes : α → NativeId → Fabric.Object → Prop}
    {result : Except OsError α × Host} (hc : h.Created describes result) :
    h.Proceeds [] result.2 := by
  cases hc with
  | refused => exact .refl h
  | made o _ _ _ hnew hfree _ _ =>
      cases o with
      | srq s =>
          have hempty : s.queue = [] := (congrArg (·.queue) hnew).symm
          exact .of_change (.addSrq hempty rfl rfl rfl rfl) (List.append_nil _).symm
      | qp q =>
          exact .of_change (.addQp hnew (hfree _ rfl) rfl rfl rfl rfl) (List.append_nil _).symm
      | context | pd | region | channel | cq =>
          exact .aside rfl rfl rfl (Nat.le_succ _) rfl

theorem drainTokens_entries (h : Host) (channel : NativeId) (n : Nat) :
    (drainTokens channel n h).entries = h.entries := by
  induction n generalizing h with
  | zero => rfl
  | succ n ih =>
      simp only [drainTokens]
      split
      · rfl
      split
      · rfl
      split
      · exact ih _
      · exact note_entries_of_none h rfl

theorem withoutEvents_entries (h : Host) (id : NativeId) (channel : Option NativeId) :
    (h.withoutEvents id channel).entries = h.entries := by
  cases channel with
  | none => rfl
  | some channel =>
      simp only [withoutEvents, dropEvents]
      split
      · rfl
      · exact drainTokens_entries _ channel _

/-- Destroying anything but a queue pair. -/
theorem Destroyed.proceeds {kind : ResourceKind} {id : NativeId}
    {result : Except OsError Unit × Host} (hd : h.Destroyed kind id result)
    (hkind : kind ≠ .queuePair) : h.Proceeds [] result.2 := by
  cases hd with
  | absent | inUse => exact .refl h
  | @removed o k ho _ hdismissed =>
      have hkind' := Fabric.object?_kind ho
      cases hdismissed with
      | plain =>
          cases o with
          | qp q => exact absurd hkind'.symm hkind
          | srq s =>
              exact .of_change (.dropSrq id rfl rfl rfl rfl) (List.append_nil _).symm
          | context | pd | region | channel | cq => exact .aside rfl rfl rfl (Nat.le_refl _) rfl
      | cq q _ =>
          obtain ⟨hqps, hsrqs⟩ := h.withoutEvents_frame id q.channel
          have hskeleton := h.withoutEvents_skeleton id q.channel
          exact .aside hqps hsrqs (congrArg (·.qpNumbers) hskeleton)
            (Nat.le_of_eq (congrArg (·.nextId) hskeleton).symm) (h.withoutEvents_entries id q.channel)
      | qp q _ => exact absurd hkind'.symm hkind

theorem pollCq_proceeds (h : Host) (id : NativeId) (n : Nat) :
    h.Proceeds [] (pollCq id n h).2 :=
  Step.guarded_cases (P := fun r : Except OsError (List Completion) × Host => h.Proceeds [] r.2)
    (fun _ _ => .refl h) fun _ _ => .of_same rfl (note_entries_of_none _ rfl)

theorem reqNotifyCq_proceeds (h : Host) (id : NativeId) (solicitedOnly : Bool) :
    h.Proceeds [] (reqNotifyCq id solicitedOnly h).2 :=
  Step.guarded_cases (P := fun r : Except OsError Unit × Host => h.Proceeds [] r.2)
    (fun _ _ => .refl h) fun _ _ => .of_same rfl (note_entries_of_none _ rfl)

theorem getCqEvent_proceeds (h : Host) (channel : NativeId) :
    h.Proceeds [] (getCqEvent channel h).2 := by
  unfold getCqEvent
  split
  · exact .refl h
  split
  · exact .refl h
  split
  · exact .of_same rfl rfl
  · exact .of_same rfl (note_entries_of_none _ rfl)

/-- An operation makes the change that its answer tells of, and the engine acts. -/
theorem perform_proceeds (hf : h.fabric.work.Fit) (op : Operation) :
    h.Proceeds (h.intake op) (h.perform op) := by
  cases op with
  | deviceList | queryDevice | queryPort | queryGid | channelDescriptor | queryQpState =>
      exact .refl h
  | openDevice device => exact (h.openDevice_created device).proceeds
  | closeDevice ctx => exact (h.closeDevice_destroyed ctx).proceeds nofun
  | allocPd ctx => exact (h.allocPd_created ctx).proceeds
  | deallocPd pd => exact (h.deallocPd_destroyed pd).proceeds nofun
  | regMr pd addr length permission => exact (h.regMr_created pd addr length permission).proceeds
  | deregMr mr => exact (h.deregMr_destroyed mr).proceeds nofun
  | createChannel ctx => exact (h.createChannel_created ctx).proceeds
  | destroyChannel channel => exact (h.destroyChannel_destroyed channel).proceeds nofun
  | createCq ctx depth channel cookie vector =>
      exact (h.createCq_created ctx depth channel cookie vector).proceeds
  | destroyCq cq => exact (h.destroyCq_destroyed cq).proceeds nofun
  | pollCq cq n => exact h.pollCq_proceeds cq n
  | reqNotifyCq cq solicitedOnly => exact h.reqNotifyCq_proceeds cq solicitedOnly
  | getCqEvent channel => exact h.getCqEvent_proceeds channel
  | createSrq pd init => exact (h.createSrq_created pd init).proceeds
  | destroySrq srq => exact (h.destroySrq_destroyed srq).proceeds nofun
  | postSrqRecv srq requests => exact postSrqRecv_proceeds hf srq requests
  | createQp pd init => exact (h.createQp_created pd init).proceeds
  | modifyQp qp attributes mask => exact modifyQp_proceeds hf qp attributes mask
  | destroyQp qp => exact destroyQp_proceeds hf qp
  | postSend qp requests => exact postSend_proceeds hf qp requests
  | postRecv qp requests => exact postRecv_proceeds hf qp requests
  | plug device =>
      exact .aside rfl rfl rfl (Nat.le_succ _) (note_entries_of_none h rfl)
  | unplug name => exact .aside rfl rfl rfl (Nat.le_refl _) (note_entries_of_none h rfl)
  | ackCqEvents | setMemory | setDescriptorsLeft | setDescriptor => exact .of_same rfl rfl

end Host

end Rdma
