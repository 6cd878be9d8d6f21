import Rdma.Proofs.Transfer.Sending

/-!
# Accounts of send requests

An account follows one accepted send request: it is queued, or it was discarded because the queue
pair was reset or destroyed, or it was retired with a status. The ledger of a queue pair is kept from
the journal alone, and keeping it fails where a request is retired that is not queued.

* `SendStep.settles` — no step of the send side makes the ledger fail, and the queued accounts are
  the requests that are in flight or wait;
* `Reachable.has_accounts` — on every reachable host the ledger of every queue pair can be kept;
* `reachable_accounted` — every accepted request has one account there, and completions are the
  reports on what was retired.
-/

namespace Rdma

open Fabric (QueuePair PendingSend)
open Host (sendCompletion)

/-! ## The ledger -/

/-- What became of a request. -/
inductive Fate where
  | queued
  | discarded
  | retired (status : CompletionStatus)
deriving Repr, DecidableEq

/-- An accepted send request and what became of it. -/
structure Account where
  request : SendRequest
  fate : Fate := .queued
deriving Repr, DecidableEq

namespace Account

def discard (account : Account) : Account :=
  match account.fate with
  | .queued => { account with fate := .discarded }
  | _ => account

def retired? (account : Account) : Option (SendRequest × CompletionStatus) :=
  match account.fate with
  | .retired status => some (account.request, status)
  | _ => none

/-- The requests that are queued, oldest first. -/
def queued (accounts : List Account) : List SendRequest :=
  (accounts.filter (·.fate = .queued)).map (·.request)

/-- Retire the oldest queued request that is the one. There has to be one. -/
def retire (request : SendRequest) (status : CompletionStatus) :
    List Account → Option (List Account)
  | [] => none
  | account :: rest =>
    if account = { request } then some ({ request, fate := .retired status } :: rest)
    else (retire request status rest).map (account :: ·)

/-- What an event does to the accounts of a queue pair. -/
def record (id : NativeId) (accounts : List Account) : Event → Option (List Account)
  | .sendAccepted qp request => some (if qp = id then accounts ++ [{ request }] else accounts)
  | .sendRetired qp request status =>
    if qp = id then retire request status accounts else some accounts
  | .queuesCleared qp => some (if qp = id then accounts.map discard else accounts)
  | _ => some accounts

/-- The accounts of a queue pair after some events. -/
def ledger (id : NativeId) (events : List Event) : Option (List Account) :=
  events.foldlM (record id) []

/-- An account keeps its request, and once it is settled it stays as it is. -/
structure Becomes (account later : Account) : Prop where
  request : later.request = account.request
  settled : account.fate ≠ .queued → later = account

/-- Every account keeps its place. -/
def Continue (accounts later : List Account) : Prop :=
  ∀ (i : Nat) (account : Account), accounts[i]? = some account →
    ∃ account', later[i]? = some account' ∧ account.Becomes account'

/-- What recording events does to accounts: there is a new one for each request that was accepted,
each retirement settles one, and the others stay. -/
structure Recorded (id : NativeId) (accounts : List Account) (events : List Event)
    (later : List Account) : Prop where
  requests : later.map (·.request) =
    accounts.map (·.request) ++ events.filterMap (Event.sendAccepted? id)
  retired : (later.filterMap retired?).Perm
    (accounts.filterMap retired? ++ events.filterMap (Event.sendRetired? id))
  onward : Continue accounts later

variable {id : NativeId} {account account' : Account} {accounts later rest : List Account}
  {request : SendRequest} {status : CompletionStatus}

/-! ## Single accounts -/

theorem Becomes.refl (account : Account) : account.Becomes account := ⟨rfl, fun _ => rfl⟩

theorem Becomes.trans {last : Account} (h : account.Becomes account')
    (h' : account'.Becomes last) : account.Becomes last where
  request := h'.request.trans h.request
  settled hs := by
    have hsame := h.settled hs
    rw [hsame] at h'
    exact h'.settled hs

theorem discard_becomes (account : Account) : account.Becomes account.discard := by
  unfold discard
  split
  case h_1 hfate => exact ⟨rfl, fun hs => absurd hfate hs⟩
  case h_2 => exact .refl account

theorem retired?_discard (account : Account) : account.discard.retired? = account.retired? := by
  cases account with
  | mk request fate => cases fate <;> rfl

theorem discard_fate (account : Account) : account.discard.fate ≠ .queued := by
  cases account with
  | mk request fate => cases fate <;> exact nofun

/-! ## Lists of accounts -/

theorem queued_append (accounts later : List Account) :
    queued (accounts ++ later) = queued accounts ++ queued later := by
  rw [queued, List.filter_append, List.map_append]
  rfl

theorem queued_cons_queued (request : SendRequest) (rest : List Account) :
    queued ({ request } :: rest) = request :: queued rest := by
  rw [queued, List.filter_cons_of_pos (by rfl)]
  rfl

theorem queued_cons_settled (hfate : account.fate ≠ .queued) (rest : List Account) :
    queued (account :: rest) = queued rest := by
  rw [queued, List.filter_cons_of_neg (by simpa using hfate)]
  rfl

theorem Continue.refl (accounts : List Account) : Continue accounts accounts :=
  fun _ account hi => ⟨account, hi, .refl account⟩

theorem Continue.trans {last : List Account} (h : Continue accounts later)
    (h' : Continue later last) : Continue accounts last := by
  intro i account hi
  obtain ⟨account', hi', hb⟩ := h i account hi
  obtain ⟨account'', hi'', hb'⟩ := h' i account' hi'
  exact ⟨account'', hi'', hb.trans hb'⟩

theorem Continue.cons (hb : account.Becomes account') (h : Continue rest later) :
    Continue (account :: rest) (account' :: later) := by
  intro i a hi
  cases i with
  | zero =>
      obtain rfl := Option.some.inj hi
      exact ⟨account', rfl, hb⟩
  | succ i => exact h i a hi

theorem continue_append (accounts more : List Account) : Continue accounts (accounts ++ more) := by
  intro i account hi
  have hlt : i < accounts.length := (List.getElem?_eq_some_iff.1 hi).1
  exact ⟨account, (List.getElem?_append_left hlt).trans hi, .refl account⟩

theorem continue_discard (accounts : List Account) : Continue accounts (accounts.map discard) := by
  intro i account hi
  exact ⟨account.discard, by rw [List.getElem?_map, hi]; rfl, account.discard_becomes⟩

/-! ## Retiring -/

/-- A queued request can be retired, and is not queued any more. -/
theorem retire_of_mem (status : CompletionStatus) (hmem : request ∈ queued accounts) :
    ∃ later, retire request status accounts = some later ∧
      queued later = (queued accounts).erase request := by
  induction accounts with
  | nil => cases hmem
  | cons account rest ih =>
      by_cases hfirst : account = { request }
      · refine ⟨{ request, fate := .retired status } :: rest, if_pos hfirst, ?_⟩
        rw [hfirst, queued_cons_queued, List.erase_cons_head, queued_cons_settled (by simp)]
      · by_cases hfate : account.fate = .queued
        · obtain ⟨other, rfl⟩ : ∃ other, account = { request := other } :=
            ⟨account.request, by rw [← hfate]⟩
          rw [queued_cons_queued] at hmem ⊢
          have hother : other ≠ request := fun hsame => hfirst (by rw [hsame])
          rcases List.mem_cons.1 hmem with hsame | hrest
          · exact absurd hsame.symm hother
          · obtain ⟨later, hlater, hqueued⟩ := ih hrest
            refine ⟨{ request := other } :: later, ?_, ?_⟩
            · rw [retire, if_neg hfirst, hlater]
              rfl
            · rw [queued_cons_queued, hqueued, List.erase_cons_tail (by simpa using hother)]
        · rw [queued_cons_settled hfate] at hmem ⊢
          obtain ⟨later, hlater, hqueued⟩ := ih hmem
          refine ⟨account :: later, ?_, ?_⟩
          · rw [retire, if_neg hfirst, hlater]
            rfl
          · rw [queued_cons_settled hfate, hqueued]

/-- Retiring settles the first account that is open for the request, and no other. -/
theorem retire_spec (hretire : retire request status accounts = some later) :
    later.map (·.request) = accounts.map (·.request) ∧
      (later.filterMap retired?).Perm ((request, status) :: accounts.filterMap retired?) ∧
      Continue accounts later := by
  induction accounts generalizing later with
  | nil => cases hretire
  | cons account rest ih =>
      rw [retire] at hretire
      split at hretire
      case isTrue hfirst =>
        obtain rfl := Option.some.inj hretire
        subst hfirst
        refine ⟨rfl, List.Perm.refl _, ?_⟩
        exact .cons ⟨rfl, fun hs => absurd rfl hs⟩ (.refl rest)
      case isFalse =>
        obtain ⟨later', hlater', rfl⟩ := Option.map_eq_some_iff.1 hretire
        obtain ⟨hrequests, hretired, honward⟩ := ih hlater'
        refine ⟨congrArg (account.request :: ·) hrequests, ?_, .cons (.refl account) honward⟩
        cases hfate : account.retired? with
        | none =>
            rw [List.filterMap_cons_none hfate, List.filterMap_cons_none hfate]
            exact hretired
        | some entry =>
            rw [List.filterMap_cons_some hfate, List.filterMap_cons_some hfate]
            exact (hretired.cons entry).trans (List.Perm.swap _ _ _)

/-! ## Recording -/

/-- An acceptance opens an account, a retirement settles one and a clearing discards what is open;
no other event concerns accounts. -/
theorem record_recorded {e : Event} (hrecord : record id accounts e = some later) :
    Recorded id accounts [e] later := by
  have hsame (hlater : later = accounts) (haccepted : Event.sendAccepted? id e = none)
      (hretired : Event.sendRetired? id e = none) : Recorded id accounts [e] later := by
    subst hlater
    refine ⟨?_, ?_, .refl later⟩
    · rw [List.filterMap_cons_none haccepted, List.filterMap_nil, List.append_nil]
    · rw [List.filterMap_cons_none hretired, List.filterMap_nil, List.append_nil]
  cases e with
  | sendAccepted qp request =>
      by_cases hid : qp = id
      · simp only [record, if_pos hid, Option.some.injEq] at hrecord
        subst hrecord
        have hread : Event.sendAccepted? id (.sendAccepted qp request) = some request := if_pos hid
        refine ⟨?_, ?_, continue_append _ _⟩
        · rw [List.map_append, List.filterMap_cons_some hread]
          rfl
        · rw [List.filterMap_append, List.filterMap_cons_none rfl]
          exact List.Perm.refl _
      · simp only [record, if_neg hid, Option.some.injEq] at hrecord
        exact hsame hrecord.symm (if_neg hid) rfl
  | sendRetired qp request status =>
      by_cases hid : qp = id
      · simp only [record, if_pos hid] at hrecord
        obtain ⟨hrequests, hretired, honward⟩ := retire_spec hrecord
        have hread : Event.sendRetired? id (.sendRetired qp request status) =
            some (request, status) := if_pos hid
        refine ⟨?_, ?_, honward⟩
        · rw [hrequests, List.filterMap_cons_none rfl, List.filterMap_nil, List.append_nil]
        · rw [List.filterMap_cons_some hread, List.filterMap_nil]
          exact hretired.trans (List.perm_append_singleton _ _).symm
      · simp only [record, if_neg hid, Option.some.injEq] at hrecord
        exact hsame hrecord.symm rfl (if_neg hid)
  | queuesCleared qp =>
      by_cases hid : qp = id
      · simp only [record, if_pos hid, Option.some.injEq] at hrecord
        subst hrecord
        refine ⟨?_, ?_, continue_discard accounts⟩
        · rw [List.map_map, List.filterMap_cons_none rfl, List.filterMap_nil, List.append_nil]
          exact List.map_congr_left fun account _ => account.discard_becomes.request
        · rw [List.filterMap_map, List.filterMap_cons_none rfl, List.filterMap_nil,
            List.append_nil]
          exact .of_eq (List.filterMap_congr fun account _ => account.retired?_discard)
      · simp only [record, if_neg hid, Option.some.injEq] at hrecord
        exact hsame hrecord.symm rfl rfl
  | _ => exact hsame (Option.some.inj hrecord).symm rfl rfl

theorem foldlM_recorded {events : List Event}
    (hledger : events.foldlM (record id) accounts = some later) :
    Recorded id accounts events later := by
  induction events generalizing accounts with
  | nil =>
      obtain rfl := Option.some.inj hledger
      exact ⟨(List.append_nil _).symm, .of_eq (List.append_nil _).symm, .refl _⟩
  | cons e rest ih =>
      obtain ⟨next, hrecord, hrest⟩ := Option.bind_eq_some_iff.1 hledger
      have hfirst := record_recorded hrecord
      have hlast := ih hrest
      refine ⟨?_, ?_, hfirst.onward.trans hlast.onward⟩
      · rw [hlast.requests, hfirst.requests, List.append_assoc, ← List.filterMap_append]
        rfl
      · refine (hlast.retired.trans (hfirst.retired.append_right _)).trans (.of_eq ?_)
        rw [List.append_assoc, ← List.filterMap_append]
        rfl

end Account

/-! ## The ledger does not fail -/

section

open Account (record queued)

variable {id : NativeId} {made : QueuePair} {accounts : List Account} {es : List Event}

theorem foldlM_accepted (id : NativeId) (accounts : List Account) (requests : List SendRequest) :
    (requests.map (Event.sendAccepted id)).foldlM (record id) accounts =
      some (accounts ++ requests.map (Account.mk · .queued)) := by
  induction requests generalizing accounts with
  | nil => exact congrArg some (List.append_nil _).symm
  | cons request rest ih =>
      rw [List.map_cons, List.foldlM_cons, record, if_pos rfl]
      show (rest.map (Event.sendAccepted id)).foldlM (record id) (accounts ++ [⟨request, .queued⟩]) = _
      rw [ih, List.append_assoc]
      rfl

theorem queued_new (requests : List SendRequest) :
    queued (requests.map (Account.mk · .queued)) = requests := by
  induction requests with
  | nil => rfl
  | cons request rest ih => rw [List.map_cons, Account.queued_cons_queued, ih]

theorem queued_discard (accounts : List Account) : queued (accounts.map (·.discard)) = [] := by
  induction accounts with
  | nil => rfl
  | cons account rest ih =>
      rw [List.map_cons, Account.queued_cons_settled account.discard_fate, ih]

/-- A retirement is recorded, and what comes with it is no matter. -/
theorem foldlM_retired {request : SendRequest} (status : CompletionStatus) (events : List Event)
    (hmem : request ∈ queued accounts)
    (hquiet : ∀ later, events.foldlM (record id) later = some later) :
    ∃ later, (.sendRetired id request status :: events).foldlM (record id) accounts = some later ∧
      queued later = (queued accounts).erase request := by
  obtain ⟨later, hlater, hqueued⟩ := Account.retire_of_mem status hmem
  refine ⟨later, ?_, hqueued⟩
  rw [List.foldlM_cons, record, if_pos rfl, hlater]
  exact hquiet later

/-- Every step of the send side can be recorded, and what is queued then is what is not settled. -/
theorem SendStep.settles {side side' : SendSide} (h : SendStep id made side es side')
    (haccounts : queued accounts = side.unsettled) :
    ∃ later, es.foldlM (record id) accounts = some later ∧ queued later = side'.unsettled := by
  cases h with
  | idle hwaiting hattempt =>
      refine ⟨accounts, rfl, haccounts.trans ?_⟩
      rw [SendSide.unsettled, SendSide.unsettled, hwaiting, hattempt]
  | launch => exact ⟨accounts, rfl, haccounts⟩
  | answer => exact ⟨accounts, rfl, haccounts⟩
  | accept requests =>
      refine ⟨_, foldlM_accepted id accounts requests, ?_⟩
      rw [Account.queued_append, haccounts, queued_new]
      rfl
  | clear =>
      refine ⟨accounts.map (·.discard), ?_, queued_discard accounts⟩
      rw [List.foldlM_cons, record, if_pos rfl]
      rfl
  | @flush request waiting attempt =>
      have hmem : request ∈ queued accounts := by
        rw [haccounts]
        exact List.mem_append_right _ List.mem_cons_self
      obtain ⟨later, hlater, hqueued⟩ := foldlM_retired .flushed
        [.handed made.sendCq (sendCompletion made.number request .flushed 0)] hmem fun _ => rfl
      refine ⟨later, hlater, ?_⟩
      rw [hqueued, haccounts]
      -- if the request in flight is the same, it does not matter which of the two is taken
      cases attempt with
      | none => exact List.erase_cons_head _ _
      | some attempt =>
          show (attempt.request :: request :: waiting).erase request = attempt.request :: waiting
          by_cases hsame : attempt.request = request
          · rw [hsame, List.erase_cons_head]
          · rw [List.erase_cons_tail (by simpa using hsame), List.erase_cons_head]
  | @retire state waiting attempt status length =>
      have hmem : attempt.request ∈ queued accounts := by
        rw [haccounts]
        exact List.mem_cons_self
      have hquiet (later : List Account) :
          (if made.reports attempt.request status then
            [Event.handed made.sendCq (sendCompletion made.number attempt.request status length)]
          else []).foldlM (record id) later = some later := by
        split <;> rfl
      obtain ⟨later, hlater, hqueued⟩ := foldlM_retired status _ hmem hquiet
      refine ⟨later, hlater, ?_⟩
      rw [hqueued, haccounts]
      exact List.erase_cons_head _ _

/-- What concerns other queue pairs is not recorded. -/
theorem foldlM_filter (number : UInt32) (es : List Event) (accounts : List Account) :
    (es.filter (Event.ofSends id number)).foldlM (record id) accounts =
      es.foldlM (record id) accounts := by
  rw [List.foldlM_filter]
  congr 1
  funext accounts e
  cases e with
  | sendAccepted qp request =>
      by_cases hid : qp = id <;> simp [Event.ofSends, record, hid]
  | sendRetired qp request status =>
      by_cases hid : qp = id <;> simp [Event.ofSends, record, hid]
  | queuesCleared qp => by_cases hid : qp = id <;> simp [Event.ofSends, record, hid]
  | _ => simp [record]

theorem foldlM_of_same (hsame : ∀ e ∈ es, ∀ accounts, record id accounts e = some accounts)
    (accounts : List Account) : es.foldlM (record id) accounts = some accounts := by
  induction es with
  | nil => rfl
  | cons e rest ih =>
      rw [List.foldlM_cons, hsame e List.mem_cons_self]
      exact ih fun e he => hsame e (List.mem_cons_of_mem _ he)

/-- Whatever a story tells next can be recorded in the accounts of every queue pair, whether it is
there or not. -/
theorem Turn.settles {s t : Scene} (h : Turn s es t) (hs : s.fabric.Fit)
    (haccounts : queued accounts = (s.sendSide id).unsettled) :
    ∃ later, es.foldlM (record id) accounts = some later ∧
      queued later = (t.sendSide id).unsettled := by
  cases h with
  | change hchange =>
      -- a change hands no completions, so the attributes of the queue pair do not matter
      let made : QueuePair :=
        { pd := 0, number := 0, transport := .reliable, sendCq := 0, recvCq := 0, srq := none,
          signalAll := false, caps := {} }
      have hsettles := (hchange.sends hs id made).settles haccounts
      rw [foldlM_filter] at hsettles
      exact hsettles
  | act hact =>
      cases hq : s.fabric.qps.find? id with
      | some q =>
          have hsettles := (hact.sends hs hq).settles haccounts
          rw [foldlM_filter] at hsettles
          exact hsettles
      | none =>
          refine ⟨accounts, foldlM_of_same (fun e he accounts => ?_) accounts, ?_⟩
          · have htells := hact.tells e he
            cases e with
            | sendRetired qp =>
                obtain ⟨q, hq'⟩ := htells
                have hid : qp ≠ id := fun hid => by rw [hid, hq] at hq'; cases hq'
                exact if_neg hid
            | recvTaken | recvFlushed | completed => rfl
            | _ => cases htells
          · rw [haccounts, sendSide_of_none hq, sendSide_of_none (hact.spends.find?_eq_none.2 hq)]

theorem Story.settles {s t : Scene} (h : Story s es t) (hs : s.fabric.Fit)
    (haccounts : queued accounts = (s.sendSide id).unsettled) :
    ∃ later, es.foldlM (record id) accounts = some later ∧
      queued later = (t.sendSide id).unsettled := by
  induction h with
  | refl => exact ⟨accounts, rfl, haccounts⟩
  | tail hstory hlast ih =>
      obtain ⟨later, hlater, hqueued⟩ := ih
      obtain ⟨last, hrecord, hlast⟩ := hlast.settles (Story.fit hstory hs) hqueued
      refine ⟨last, ?_, hlast⟩
      rw [List.foldlM_append, hlater]
      exact hrecord

/-- The ledger looks at what is said of requests only. -/
theorem ledger_filterMap (id : NativeId) (events : List Event) :
    Account.ledger id (events.filterMap Event.ofRequest?) = Account.ledger id events := by
  rw [Account.ledger, List.foldlM_filterMap]
  congr 1
  funext accounts e
  cases e <;> rfl

end

/-! ## Runs -/

namespace Host

variable {h k : Host} {devices : List DeviceConfig} {id : NativeId} {accounts : List Account}

/-- The accounts of a queue pair: the ledger that the journal gives, with one account for each
request that was accepted, one that is retired for each retirement, and one that is queued for each
request in the send queue. -/
structure Accounts (h : Host) (id : NativeId) (accounts : List Account) : Prop where
  audited : Account.ledger id h.journal.toList = some accounts
  accepted : accounts.map (·.request) = h.journal.toList.filterMap (Event.sendAccepted? id)
  retired : (accounts.filterMap Account.retired?).Perm
    (h.journal.toList.filterMap (Event.sendRetired? id))
  queued : Account.queued accounts = h.sendRequests id

theorem Reachable.has_accounts (hr : Reachable devices h) (id : NativeId) :
    ∃ accounts, h.Accounts id accounts := by
  obtain ⟨f, hqps, -, hfit, hstory⟩ := hr.history
  have hnone : f.qps.find? id = none := by
    rw [hqps]
    rfl
  have hstart : Account.queued [] = (Scene.sendSide ⟨f, none⟩ id).unsettled := by
    rw [sendSide_of_none (s := ⟨f, none⟩) hnone]
    rfl
  obtain ⟨accounts, hledger, hqueued⟩ := hstory.settles hfit hstart
  rw [sendSide_work] at hqueued
  have haudited : Account.ledger id h.journal.toList = some accounts := by
    rw [← ledger_filterMap]
    exact hledger
  have hrecorded := Account.foldlM_recorded haudited
  exact ⟨accounts, haudited, hrecorded.requests, hrecorded.retired, hqueued⟩

/-- The accounts of a later host continue those of an earlier one. -/
theorem Accounts.onward {later : List Account} (haccounts : h.Accounts id accounts)
    (hlater : k.Accounts id later) (hk : h.Leads k) : Account.Continue accounts later := by
  have haudited := hlater.audited
  rw [hk.journal, Account.ledger, List.foldlM_append] at haudited
  obtain ⟨between, hbetween, hrest⟩ := Option.bind_eq_some_iff.1 haudited
  obtain rfl := Option.some.inj (haccounts.audited.symm.trans hbetween)
  exact (Account.foldlM_recorded hrest).onward

/-- What is accepted and what is cleared by an operation is what its answer tells. -/
theorem Reachable.intake_sends (hr : Reachable devices h) (op : Operation) (id : NativeId) :
    ((h.perform op).eventsSince h).filterMap (Event.sendAccepted? id) =
        (h.intake op).filterMap (Event.sendAccepted? id) ∧
      (.queuesCleared id ∈ (h.perform op).eventsSince h ↔ .queuesCleared id ∈ h.intake op) := by
  obtain ⟨g, es, hes, -, hacts⟩ := hr.acts op
  constructor
  · have hnone : es.filterMap (Event.sendAccepted? id) = [] :=
      hacts.filterMap_eq_nil fun e htold => by cases e <;> first | rfl | cases htold
    rw [hr.reads hes (readsSends_accepted id 0).reads, hnone, List.append_nil]
  · rw [← queuesCleared_mem, hes, List.mem_append]
    refine or_iff_left fun hmem => ?_
    cases hacts.tells _ hmem

/-- Of a queue pair that an operation destroys nothing is retired, and nothing is reported. -/
theorem Reachable.destroyed_sends (hr : Reachable devices h) (op : Operation) {q : QueuePair}
    (hq : h.fabric.qps.find? id = some q) (hnone : (h.perform op).fabric.qps.find? id = none) :
    ((h.perform op).eventsSince h).filterMap (Event.sendRetired? id) = [] ∧
      ((h.perform op).eventsSince h).filterMap (Event.sendReported? q.number) = [] := by
  obtain ⟨g, es, hes, hchange, hacts⟩ := hr.acts op
  have hgone : g.qps.find? id = none := hacts.spends.find?_eq_none.1 hnone
  constructor
  · rw [hr.reads hes (readsSends_retired id 0).reads,
      hchange.filterMap_eq_nil (fun _ _ => rfl) (fun _ _ => rfl) fun _ => rfl]
    refine hacts.filterMap_eq_nil fun e htold => ?_
    cases e with
    | sendRetired qp =>
        obtain ⟨q', hq'⟩ := htold
        have hid : qp ≠ id := by
          rintro rfl
          rw [show (h.perform op).fabric.work.qps.find? qp = none from hnone] at hq'
          cases hq'
        exact if_neg hid
    | _ => rfl
  · rw [hr.reads hes (readsSends_reported id q.number).reads,
      hchange.filterMap_eq_nil (fun _ _ => rfl) (fun _ _ => rfl) fun _ => rfl]
    refine hacts.filterMap_eq_nil fun e htold => ?_
    cases e with
    | completed cq c =>
        obtain ⟨id', q', hq', hnumber⟩ := hacts.spends.tells.2 htold
        have hother := hchange.dropped hr.fit hq hgone hq'
        rw [Event.sendReported?, hnumber]
        simp [hother]
    | _ => rfl

/-- Every send request that a queue pair accepted is accounted for. Its account is queued as long as
it is in the send queue, and then it is discarded or retired, once and for all. Requests are accepted
by posting and discarded by reset and destruction; while the queue pair is there the completions of
its send requests are the reports on those that retire, and when it is destroyed there are none. -/
theorem reachable_accounted (hr : Reachable devices h) (id : NativeId) :
    (∃ accounts, h.Accounts id accounts ∧
      ∀ k, h.Leads k → ∃ later, k.Accounts id later ∧ Account.Continue accounts later) ∧
    (∀ op,
      ((h.perform op).eventsSince h).filterMap (Event.sendAccepted? id) =
        (h.intake op).filterMap (Event.sendAccepted? id) ∧
      (.queuesCleared id ∈ (h.perform op).eventsSince h ↔ .queuesCleared id ∈ h.intake op)) ∧
    (∀ k q q', h.Leads k → h.fabric.qps.find? id = some q → k.fabric.qps.find? id = some q' →
      (k.eventsSince h).filterMap (Event.sendReported? q.number) =
        ((k.eventsSince h).filterMap (Event.sendRetired? id)).filterMap q.report?) ∧
    ∀ op q, h.fabric.qps.find? id = some q → (h.perform op).fabric.qps.find? id = none →
      ((h.perform op).eventsSince h).filterMap (Event.sendRetired? id) = [] ∧
        ((h.perform op).eventsSince h).filterMap (Event.sendReported? q.number) = [] := by
  refine ⟨?_, fun op => hr.intake_sends op id, ?_, fun op q hq hnone =>
    hr.destroyed_sends op hq hnone⟩
  · obtain ⟨accounts, haccounts⟩ := hr.has_accounts id
    refine ⟨accounts, haccounts, fun k hk => ?_⟩
    obtain ⟨later, hlater⟩ := (hk.reachable hr).has_accounts id
    exact ⟨later, hlater, haccounts.onward hlater hk⟩
  · intro k q q' hk hq hq'
    obtain ⟨-, es, htrail, hread, -⟩ := hk.sends hr hq hq'
    rw [hread (readsSends_reported id q.number), hread (readsSends_retired id q.number)]
    exact htrail.reported

/-- One message is received, and the next is discarded by a reset before there is a receive request
for it. -/
theorem loopback_accounted :
    let h := (({} : Host).withDevices [{}]).performAll
      (loopback ++ [.postRecv 5 [{}], .postSend 5 [{ wrId := 1 }, { wrId := 2 }]])
    let k := h.perform (.modifyQp 5 { state := QpState.reset.code } .state)
    (Account.ledger 5 h.journal.toList).map (·.map (·.fate)) = some [.retired .success, .queued] ∧
      (Account.ledger 5 k.journal.toList).map (·.map (·.fate)) =
        some [.retired .success, .discarded] ∧
      ∃ accounts, h.Accounts 5 accounts ∧
        ∀ k, h.Leads k → ∃ later, k.Accounts 5 later ∧ Account.Continue accounts later :=
  ⟨by decide, by decide, (reachable_accounted ((Reachable.fresh {}).performAll _) 5).1⟩

end Host

end Rdma
