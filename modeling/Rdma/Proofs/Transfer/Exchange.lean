import Rdma.Proofs.Memory.Word
import Rdma.Proofs.Transfer.Telling

/-!
# Atomic requests take turns at a word

Atomic requests are executed one at a time, whoever posted them. If nothing else changes a word, each of
them finds there what the one before left, and puts that into its entry (`Stretch.Exchanges`). So no
update is lost: the word ends as what all of them make of it in order (`exchanged`).

* `Consumption.exchanged` — what a step of the engine does to memory with an atomic request;
* `Stretch.IsOf.exchanged` — what a stretch makes of the word;
* `Flows.exchanged` — what a run makes of it;
* `atomics_take_turns` — the requests of a run, each with what it found.
-/

namespace Rdma

open Fabric (QueuePair PendingSend)
open Memory (span bytesOfWord)

/-- Is the request atomic, and the word its target? -/
def SendRequest.exchangesAt (word : UInt64) (request : SendRequest) : Bool :=
  request.opcode.isAtomic && request.remote.addr = word

section

open Host (atomicResult)

variable {f g : Fabric} {m m' : Memory} {q : QueuePair} {pending : PendingSend}
  {outcome : SendOutcome}

/-- A request that failed leaves memory alone. -/
theorem Execution.kept_of_failed {status : CompletionStatus}
    (he : Execution f m q pending outcome g m') (hfailed : outcome = .failed status) : m' = m := by
  cases he with
  | refused | unreachable | denied | unreceived | unusable => rfl
  | delivered | written | writtenWithImm | fetched | exchanged => cases hfailed

/-- An atomic request of a reliable sender that is done stores what it makes of the word, then puts the
word that it found into its entry. -/
theorem Execution.exchanged_of_done {n : UInt32} (he : Execution f m q pending outcome g m')
    (hdone : outcome = .done n) (hop : pending.request.opcode.isAtomic = true)
    (hreliable : q.transport = .reliable) :
    ∃ sge, pending.request.sges = [sge] ∧ sge.length = 8 ∧
      let old := m.readWord pending.request.remote.addr
      m' = (m.writeWord pending.request.remote.addr (atomicResult pending.request old)).writeWord
        sge.addr old := by
  cases he with
  | exchanged _ _ _ hsges hlength _ => exact ⟨_, hsges, hlength, rfl⟩
  | refused => cases hdone
  | unreachable | denied | unreceived | unusable =>
      rw [hreliable] at hdone
      cases hdone
  | delivered _ _ hsend =>
      rcases hsend with hsend | hsend
      all_goals
        rw [hsend] at hop
        cases hop
  | written _ _ hother | writtenWithImm _ _ hother | fetched _ _ hother =>
      rw [hother] at hop
      cases hop

end

namespace Host

/-- What requests make of a word, one after the other. -/
def exchanged (requests : List SendRequest) (old : UInt64) : UInt64 :=
  requests.foldl (fun old request => atomicResult request old) old

/-- The atomic requests on the word that were done on the stretches, in their order. -/
def exchangesAt (word : UInt64) (stretches : List Stretch) : List SendRequest :=
  ((stretches.filterMap Stretch.done?).map (·.2)).filter (·.exchangesAt word)

/-- The word changes on the stretch only as the target of an atomic request that is done, and such a
request does not put the word it found there. -/
structure Stretch.OnlyExchanges (word : UInt64) (s : Stretch) : Prop where
  changes : ∀ a ∈ span word 8, s.after.memory.read a ≠ s.before.memory.read a →
    ∃ id request, s.done? = some (id, request) ∧ request.opcode.isAtomic = true ∧
      a ∈ span request.remote.addr 8
  apart : ∀ id request, s.done? = some (id, request) → request.exchangesAt word = true →
    ∀ sge ∈ request.sges, ∀ a ∈ sge.addresses, a ∉ span word 8

/-- On the stretch a request finds `old` at the word, leaves there what its opcode says, and puts the old
word into its one entry, lowest byte first. -/
structure Stretch.Exchanges (word old : UInt64) (request : SendRequest) (s : Stretch) : Prop where
  found : s.before.memory.readWord word = old
  compared : request.opcode = .compareSwap →
    s.after.memory.readWord word = if old = request.compareAdd then request.swap else old
  added : request.opcode = .fetchAdd → s.after.memory.readWord word = old + request.compareAdd
  deposited : ∃ sge, request.sges = [sge] ∧ sge.length = 8 ∧
    s.after.memory.readBytes sge.addr 8 = bytesOfWord old

variable {h g k : Host} {devices : List DeviceConfig} {past done : List (Host × Operation)}
  {stretches : List Stretch} {s : Stretch} {id : NativeId} {q : QueuePair} {pending : PendingSend}
  {rest : List PendingSend} {n : UInt32} {status : CompletionStatus} {word : UInt64}
  {request : SendRequest}

/-! ## Executing -/

theorem remoteAtomic_aligned {peer : QueuePair} (hdone : (h.remoteAtomic peer request).1 = .done n) :
    request.remote.addr % 8 = 0 := by
  unfold remoteAtomic at hdone
  split at hdone
  · split at hdone
    · cases hdone
    split at hdone
    · cases hdone
    case isFalse haligned => exact Decidable.not_not.1 haligned
  · cases hdone

/-- An atomic request that is done has a reliable sender and an aligned target. -/
theorem executeFor_aligned (hop : pending.request.opcode.isAtomic = true)
    (hdone : (h.executeFor q pending).1 = .done n) :
    q.transport = .reliable ∧ pending.request.remote.addr % 8 = 0 := by
  have hwrites : pending.request.opcode.writesLocal = true := by
    simp [SendOpcode.writesLocal, hop]
  unfold executeFor at hdone
  simp only [hwrites, Bool.and_true, decide_eq_true_eq] at hdone
  split at hdone
  · cases hdone
  case isFalse hreliable =>
  have hreliable : q.transport = .reliable := by
    cases htransport : q.transport with
    | reliable => rfl
    | unreliable => exact absurd htransport hreliable
  refine ⟨hreliable, ?_⟩
  split at hdone
  · cases hdone
  split at hdone
  · cases hdone
  split at hdone
  · rw [hreliable] at hdone
    cases hdone
  case h_2 =>
    cases hopcode : pending.request.opcode with
    | send | sendWithImm | write | writeWithImm | read =>
        rw [hopcode] at hop
        cases hop
    | compareSwap | fetchAdd =>
        simp only [hopcode] at hdone
        exact remoteAtomic_aligned hdone

/-- A step that does an atomic request stores what the request makes of the word, then puts the word that
it found into the request's entry. -/
theorem Consumption.exchanged (hc : g.Consumption id q pending rest (.done n) k)
    (hop : pending.request.opcode.isAtomic = true) :
    pending.request.remote.addr % 8 = 0 ∧ ∃ sge, pending.request.sges = [sge] ∧ sge.length = 8 ∧
      let old := g.memory.readWord pending.request.remote.addr
      k.memory = (g.memory.writeWord pending.request.remote.addr
        (atomicResult pending.request old)).writeWord sge.addr old := by
  have hdone := hc.outcome_eq
  simp only [execute, popped_find hc.found rest] at hdone
  obtain ⟨hreliable, haligned⟩ := executeFor_aligned hop hdone
  refine ⟨haligned, ?_⟩
  obtain ⟨f, hexecuted, -⟩ := hc.executed
  exact hexecuted.exchanged_of_done rfl hop hreliable

theorem Consumption.failed_memory (hc : g.Consumption id q pending rest (.failed status) k) :
    k.memory = g.memory := by
  obtain ⟨f, hexecuted, -⟩ := hc.executed
  exact hexecuted.kept_of_failed rfl

/-! ## Stretches -/

/-- What an atomic request makes of a word, opcode by opcode. -/
theorem atomicResult_compareSwap (hop : request.opcode = .compareSwap) (old : UInt64) :
    atomicResult request old = if old = request.compareAdd then request.swap else old := by
  simp only [atomicResult, hop, if_true]

theorem atomicResult_fetchAdd (hop : request.opcode = .fetchAdd) (old : UInt64) :
    atomicResult request old = old + request.compareAdd := by
  simp [atomicResult, hop]

theorem Stretch.IsOf.consumption (hs : s.IsOf past) (hdone : s.done? = some (id, request)) :
    ∃ q pending rest n, pending.request = request ∧
      s.before.Consumption id q pending rest (.done n) s.after := by
  cases hs with
  | readied => cases hdone
  | @step i k id q pending rest outcome hc _ =>
      cases outcome with
      | blocked | failed => cases hdone
      | done n =>
          obtain ⟨rfl, rfl⟩ := Prod.mk.inj (Option.some.inj hdone)
          exact ⟨q, pending, rest, n, rfl, hc⟩

theorem exchangesAt_iff : request.exchangesAt word = true ↔
    request.opcode.isAtomic = true ∧ request.remote.addr = word := by
  simp only [SendRequest.exchangesAt, Bool.and_eq_true, decide_eq_true_eq]

/-- A request that is done on the word leaves there what it makes of it. -/
theorem Stretch.IsOf.exchanges (hs : s.IsOf past) (hdone : s.done? = some (id, request))
    (hat : request.exchangesAt word = true) (honly : s.OnlyExchanges word) :
    s.after.memory.readWord word = atomicResult request (s.before.memory.readWord word) ∧
      s.Exchanges word (s.before.memory.readWord word) request := by
  obtain ⟨q, pending, rest, n, rfl, hc⟩ := hs.consumption hdone
  obtain ⟨hop, rfl⟩ := exchangesAt_iff.1 hat
  obtain ⟨-, sge, hsges, hlength, hmemory⟩ := hc.exchanged hop
  have hentry : sge.addresses = span sge.addr 8 := by
    rw [Sge.addresses, hlength]
    rfl
  have hmem : sge ∈ pending.request.sges := by
    rw [hsges]
    exact List.mem_singleton_self sge
  -- the entry is apart from the word, so storing the result leaves the word alone
  have hleft : s.after.memory.readWord pending.request.remote.addr =
      atomicResult pending.request (s.before.memory.readWord pending.request.remote.addr) := by
    rw [hmemory, Memory.readWord_congr fun a ha => Memory.read_writeWord_of_not_mem fun hin =>
      honly.apart id _ hdone hat sge hmem a (hentry ▸ hin) ha]
    exact Memory.readWord_writeWord _ _ _
  refine ⟨hleft, rfl, fun hcompare => ?_, fun hadd => ?_, sge, hsges, hlength, ?_⟩
  · rw [hleft, atomicResult_compareSwap hcompare]
  · rw [hleft, atomicResult_fetchAdd hadd]
  · rw [hmemory]
    exact Memory.readBytes_writeWord _ _ _

/-- Where no request is done on the word, it stays. -/
theorem Stretch.IsOf.keeps (hs : s.IsOf past) (haligned : word % 8 = 0)
    (honly : s.OnlyExchanges word)
    (hnone : ∀ id request, s.done? = some (id, request) → request.exchangesAt word = false) :
    s.after.memory.readWord word = s.before.memory.readWord word := by
  apply Memory.readWord_congr
  intro a ha
  by_contra hchanged
  obtain ⟨id, request, hdone, hop, htarget⟩ := honly.changes a ha hchanged
  obtain ⟨q, pending, rest, n, rfl, hc⟩ := hs.consumption hdone
  -- the target is aligned as well, so it is the word
  have hword := Memory.eq_of_mem_span (hc.exchanged hop).1 haligned htarget ha
  have hat := hnone id _ hdone
  rw [exchangesAt_iff.2 ⟨hop, hword⟩] at hat
  cases hat

theorem exchangesAt_append (word : UInt64) (stretches stretches' : List Stretch) :
    exchangesAt word (stretches ++ stretches') =
      exchangesAt word stretches ++ exchangesAt word stretches' := by
  simp only [exchangesAt, List.filterMap_append, List.map_append, List.filter_append]

theorem exchanged_append (requests requests' : List SendRequest) (old : UInt64) :
    exchanged (requests ++ requests') old = exchanged requests' (exchanged requests old) :=
  List.foldl_append

/-- A stretch makes of the word what the request does that is done on it, if there is one. -/
theorem Stretch.IsOf.exchanged (hs : s.IsOf past) (haligned : word % 8 = 0)
    (honly : s.OnlyExchanges word) :
    s.after.memory.readWord word =
      exchanged (exchangesAt word [s]) (s.before.memory.readWord word) := by
  cases hdone : s.done? with
  | none =>
      have hkeeps := hs.keeps haligned honly fun id request hsome => by
        rw [hdone] at hsome
        cases hsome
      have hnothing : exchangesAt word [s] = [] := by simp [exchangesAt, hdone]
      rw [hkeeps, hnothing]
      rfl
  | some entry =>
      obtain ⟨id, request⟩ := entry
      cases hat : request.exchangesAt word with
      | true =>
          have hone : exchangesAt word [s] = [request] := by simp [exchangesAt, hdone, hat]
          rw [hone]
          exact (hs.exchanges hdone hat honly).1
      | false =>
          have hnothing : exchangesAt word [s] = [] := by simp [exchangesAt, hdone, hat]
          rw [hnothing]
          refine hs.keeps haligned honly fun id' request' hsome => ?_
          obtain ⟨-, rfl⟩ := Prod.mk.inj (Option.some.inj (hsome.symm.trans hdone))
          exact hat

/-! ## Runs -/

/-- What the stretches make of the word, the run makes of it. -/
theorem Flows.exchanged {m m' : Memory} (hflows : Flows m stretches m')
    (hall : ∀ s ∈ stretches, s.after.memory.readWord word =
      exchanged (exchangesAt word [s]) (s.before.memory.readWord word)) :
    m'.readWord word = exchanged (exchangesAt word stretches) (m.readWord word) := by
  induction stretches generalizing m with
  | nil =>
      rw [show m' = m from hflows]
      rfl
  | cons s rest ih =>
      obtain ⟨rfl, hrest⟩ := hflows
      obtain ⟨hfirst, hothers⟩ := List.forall_mem_cons.1 hall
      rw [ih hrest hothers, hfirst, ← exchanged_append, ← exchangesAt_append]
      rfl

/-- Additions add up. -/
theorem exchanged_fetchAdds {requests : List SendRequest}
    (hall : ∀ r ∈ requests, r.opcode = .fetchAdd) (old : UInt64) :
    (exchanged requests old).toNat =
      (old.toNat + (requests.map (·.compareAdd.toNat)).sum) % 2 ^ 64 := by
  induction requests generalizing old with
  | nil => exact (Nat.mod_eq_of_lt old.toNat_lt).symm
  | cons r rest ih =>
      obtain ⟨hadd, hrest⟩ := List.forall_mem_cons.1 hall
      have hnext : exchanged (r :: rest) old = exchanged rest (old + r.compareAdd) := by
        rw [← atomicResult_fetchAdd hadd]
        rfl
      rw [hnext, ih hrest, UInt64.toNat_add, Nat.mod_add_mod, List.map_cons, List.sum_cons,
        Nat.add_assoc]

/-- What becomes of a word on the way from `h` to `k` if nothing but atomic requests changes it. -/
structure TakesTurns (past : List (Host × Operation)) (word : UInt64) (h : Host)
    (stretches : List Stretch) (k : Host) : Prop where
  /-- Each request that is done on the word finds there what those before it made of it. -/
  turns : ∀ {earlier later : List Stretch} {s : Stretch} {id : NativeId} {request : SendRequest},
    stretches = earlier ++ s :: later → s.done? = some (id, request) →
    request.exchangesAt word = true →
    s.Exchanges word (exchanged (exchangesAt word earlier) (h.memory.readWord word)) request
  final : k.memory.readWord word =
    exchanged (exchangesAt word stretches) (h.memory.readWord word)
  sum : (∀ r ∈ exchangesAt word stretches, r.opcode = .fetchAdd) →
    (k.memory.readWord word).toNat = ((h.memory.readWord word).toNat +
      ((exchangesAt word stretches).map (·.compareAdd.toNat)).sum) % 2 ^ 64
  /-- The order of the stretches is that of the journal. -/
  journal : k.sendsDone = h.sendsDone ++ stretches.filterMap Stretch.done?
  /-- Requests of one queue pair are done in the order in which they were posted. -/
  posted : ∀ id, (requestsOf id k.sendsDone).Sublist ((posted id past).map (·.2))
  /-- A request that is refused leaves memory alone. -/
  refused : ∀ s ∈ stretches, ∀ id request status,
    s.executed? = some (id, request, .failed status) → s.after.memory = s.before.memory

/-- In every run, whoever posts them in whatever order: if an aligned word is changed by atomic requests
on it only, each of them finds there what the one before left, puts that into its entry and leaves what
its opcode says. The word ends as what all of them make of it in the order of their execution, and those
of one queue pair are executed in the order of their posting. -/
theorem atomics_take_turns (hc : Course devices past h) (hk : h.Leads k) (haligned : word % 8 = 0) :
    (∃ done stretches, h.Told done stretches k) ∧
      ∀ done stretches, h.Told done stretches k → (∀ s ∈ stretches, s.OnlyExchanges word) →
        TakesTurns (past ++ done) word h stretches k := by
  refine ⟨hk.told hc.reachable, fun done stretches ht honly => ?_⟩
  have his := ht.isOf hc
  have hword : ∀ s ∈ stretches, s.after.memory.readWord word =
      exchanged (exchangesAt word [s]) (s.before.memory.readWord word) :=
    fun s hs => (his s hs).exchanged haligned (honly s hs)
  have hfinal := ht.flows.exchanged hword
  constructor
  case turns =>
    intro earlier later s id request hsplit hdone hat
    subst hsplit
    have hs : s ∈ earlier ++ s :: later := List.mem_append_right _ List.mem_cons_self
    obtain ⟨between, hearlier, hbefore, -⟩ := flows_append.1 ht.flows
    have hfound := hearlier.exchanged fun s hs => hword s (List.mem_append_left _ hs)
    rw [← hbefore] at hfound
    rw [← hfound]
    exact ((his s hs).exchanges hdone hat (honly s hs)).2
  case final => exact hfinal
  case sum =>
    intro hadds
    rw [hfinal]
    exact exchanged_fetchAdds hadds _
  case journal => exact ht.sendsDone
  case posted => exact (ht.course hc).inTurn.sendsDone
  case refused =>
    intro s hs id request status hexecuted
    cases his s hs with
    | readied => cases hexecuted
    | step hconsumed _ =>
        obtain ⟨-, hfailed⟩ := Prod.mk.inj (Option.some.inj hexecuted)
        obtain ⟨-, rfl⟩ := Prod.mk.inj hfailed
        exact hconsumed.failed_memory

/-- Nothing else changes a word if only atomic requests on it are posted, with entries apart from it, and
memory is not set from outside. -/
theorem Told.onlyExchanges (ht : h.Told done stretches k) (hc : Course devices past h)
    (hposts : ∀ d ∈ past ++ done, ∀ id requests, d.2 = .postSend id requests → ∀ r ∈ requests,
      r.exchangesAt word = true ∧ ∀ sge ∈ r.sges, ∀ a ∈ sge.addresses, a ∉ span word 8)
    (hsets : ∀ d ∈ past ++ done, ∀ m, d.2 ≠ .setMemory m) :
    ∀ s ∈ stretches, s.OnlyExchanges word := by
  have hposted {id : NativeId} {request : SendRequest}
      (hrequest : request ∈ (posted id (past ++ done)).map (·.2)) :
      request.exchangesAt word = true ∧
        ∀ sge ∈ request.sges, ∀ a ∈ sge.addresses, a ∉ span word 8 := by
    obtain ⟨p, hp, rfl⟩ := List.mem_map.1 hrequest
    obtain ⟨⟨j, op⟩, hd, hp⟩ := List.mem_flatMap.1 hp
    obtain ⟨requests, rfl, hmem⟩ := mem_of_posts hp
    exact hposts _ hd id requests rfl p.2 hmem
  intro s hs
  cases ht.isOf hc s hs with
  | readied hd hready =>
      constructor
      · intro a _ hchanged
        exact absurd (congrArg (·.read a) (hready.memory (hsets _ hd))) hchanged
      · intro id request hdone
        cases hdone
  | @step i j id q pending rest outcome hconsumed hrequest =>
      obtain ⟨hat, hapart⟩ := hposted hrequest
      obtain ⟨hop, htarget⟩ := exchangesAt_iff.1 hat
      constructor
      · intro a ha hchanged
        cases outcome with
        | done n => exact ⟨id, pending.request, rfl, hop, htarget.symm ▸ ha⟩
        | blocked => exact absurd rfl hconsumed.consumed
        | failed status =>
            exact absurd (congrArg (·.read a) hconsumed.failed_memory) hchanged
      · intro id' request hdone _
        obtain ⟨_, _, _, _, rfl, _⟩ := (Stretch.IsOf.step hconsumed hrequest).consumption hdone
        cases outcome with
        | blocked | failed => cases hdone
        | done =>
            obtain ⟨-, hrequest⟩ := Prod.mk.inj (Option.some.inj hdone)
            rw [← hrequest]
            exact hapart

/-- Five is added to a word of zero, and the five that is there then is swapped for seven. -/
theorem loopback_takes_turns :
    let add : SendRequest :=
      { opcode := .fetchAdd, sges := [⟨0x40008, 8, 0x1000⟩], remote := ⟨0x40000, 0x1000⟩,
        compareAdd := 5 }
    let swap : SendRequest := { add with opcode := .compareSwap, swap := 7 }
    let h := (({} : Host).withDevices [{}]).performAll (loopback ++
      [.regMr 3 0x40000 64 .standard,
        .modifyQp 5 { accessFlags := Permission.standard.bits } .accessFlags])
    let k := h.performAll [.postSend 5 [add], .postSend 5 [swap]]
    k.memory.readWord 0x40000 = 7 ∧ ∃ past done stretches, Course [{}] past h ∧ h.Leads k ∧
      h.Told done stretches k ∧ (∀ s ∈ stretches, s.OnlyExchanges 0x40000) ∧
      exchangesAt 0x40000 stretches = [add, swap] ∧
      TakesTurns (past ++ done) 0x40000 h stretches k := by
  intro add swap h k
  let fresh : Host := ({} : Host).withDevices [{}]
  let setup : List Operation := loopback ++
    [.regMr 3 0x40000 64 .standard,
      .modifyQp 5 { accessFlags := Permission.standard.bits } .accessFlags]
  let posts : List Operation := [.postSend 5 [add], .postSend 5 [swap]]
  have hc : Course [{}] (fresh.history setup) h := (Course.fresh {}).performAll setup
  have hk : h.Leads k := leads_performAll h posts
  obtain ⟨stretches, ht⟩ := told_performAll hc.reachable posts
  have hops : (fresh.history setup ++ h.history posts).map (·.2) = setup ++ posts := by
    rw [List.map_append, map_history, map_history]
  have hop (d : Host × Operation) (hd : d ∈ fresh.history setup ++ h.history posts) :
      d.2 ∈ setup ++ posts :=
    hops ▸ List.mem_map_of_mem hd
  have hapart : ∀ a ∈ span 0x40008 8, a ∉ span 0x40000 8 := fun a ha hin =>
    absurd (Memory.eq_of_mem_span (by decide) (by decide) ha hin) (by decide)
  have honly : ∀ s ∈ stretches, s.OnlyExchanges 0x40000 := by
    refine ht.onlyExchanges hc (fun d hd id requests hpost => ?_) fun d hd m hset => ?_
    · have hmem := hop d hd
      rw [hpost] at hmem
      obtain ⟨-, rfl⟩ | ⟨-, rfl⟩ : id = 5 ∧ requests = [add] ∨ id = 5 ∧ requests = [swap] := by
        simpa [setup, posts, loopback] using hmem
      all_goals
        exact List.forall_mem_singleton.2 ⟨by decide, List.forall_mem_singleton.2 hapart⟩
    · have hmem := hop d hd
      rw [hset] at hmem
      simp [setup, posts, loopback] at hmem
  have hturns := (atomics_take_turns hc hk (by decide)).2 _ stretches ht honly
  have hrequests : exchangesAt 0x40000 stretches = [add, swap] := by
    have hbefore : h.sendsDone = [] := by decide +kernel
    have hafter : k.sendsDone = [(5, add), (5, swap)] := by decide +kernel
    have hjournal := hturns.journal
    rw [hbefore, hafter, List.nil_append] at hjournal
    rw [exchangesAt, ← hjournal]
    decide
  refine ⟨?_, _, _, stretches, hc, hk, ht, honly, hrequests, hturns⟩
  have hempty : h.memory = {} := by decide +kernel
  rw [hturns.final, hrequests, hempty]
  decide

end Host

end Rdma
