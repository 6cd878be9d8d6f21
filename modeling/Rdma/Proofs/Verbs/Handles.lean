import Rdma.Proofs.Verbs.Mirror

/-!
# Handles cannot be forged

A handle is good for something only while a verb has returned it, for a resource of the kind that is
asked for, and no verb has destroyed that resource since. Any other value is refused by every verb,
in every place where a handle is to be given, and nothing happens.

* `Operation.arguments` — the places where operations take handles;
* `perform_books` — what an operation does to the registry, as its answer tells;
* `Ledger` — what verbs returned and revoked in a run, and what the registry says of that;
* `perform_refuses` — a value that does not resolve is refused;
* `reachable_unforgeable` — all of that for every run.
-/

namespace Rdma.Verbs

open Fabric (Object)

variable {v w : Verbs} {α β : Type}

/-! ## Where handles go in and come out -/

/-- A place where an operation takes a handle. -/
structure Argument where
  handle : Handle
  /-- What the handle has to name there. -/
  kind : ResourceKind
  /-- May the null handle stand there for none? -/
  optional : Bool := false

/-- The handles that an operation takes. The name of a device is asked for without being refused, and
is not among them. -/
def Operation.arguments : Operation α → List Argument
  | .deviceCount | .deviceNames | .openDevice _ | .deviceName _ | .plug _ | .unplug _
  | .setMemory _ | .setDescriptorsLeft _ => []
  | .closeDevice ctx | .queryDevice ctx | .queryPort ctx _ | .queryGid ctx _ _ | .allocPd ctx
  | .createChannel ctx => [⟨ctx, .context, false⟩]
  | .deallocPd pd | .regMr pd _ _ _ | .createSrq pd _ => [⟨pd, .protectionDomain, false⟩]
  | .queryMr mr | .deregMr mr => [⟨mr, .memoryRegion, false⟩]
  | .destroyChannel channel | .channelDescriptor channel | .setChannelDescriptor channel _
  | .addChannelFlags channel _ | .getCqEvent channel => [⟨channel, .completionChannel, false⟩]
  | .createCq ctx _ channel _ _ =>
    [⟨ctx, .context, false⟩, ⟨channel, .completionChannel, true⟩]
  | .cqCapacity cq | .destroyCq cq | .pollCq cq _ | .reqNotifyCq cq _ | .ackCqEvents cq _ =>
    [⟨cq, .completionQueue, false⟩]
  | .destroySrq srq | .postSrqRecv srq _ => [⟨srq, .sharedReceiveQueue, false⟩]
  | .createQp pd init =>
    [⟨pd, .protectionDomain, false⟩, ⟨init.sendCq, .completionQueue, false⟩,
      ⟨init.recvCq, .completionQueue, false⟩, ⟨init.srq, .sharedReceiveQueue, true⟩]
  | .modifyQp qp _ _ | .qpNumber qp | .qpTransport qp | .qpState qp | .endpoint qp _
  | .connectQp qp _ _ _ | .destroyQp qp | .postSend qp _ | .postRecv qp _ =>
    [⟨qp, .queuePair, false⟩]

/-- The kind of resource and the handle that an operation returns with its answer, if it creates. -/
def Operation.grants : Operation α → α → Option (ResourceKind × Handle)
  | .openDevice _, handle => some (.context, handle)
  | .allocPd _, handle => some (.protectionDomain, handle)
  | .regMr _ _ _ _, handle => some (.memoryRegion, handle)
  | .createChannel _, handle => some (.completionChannel, handle)
  | .createCq _ _ _ _ _, handle => some (.completionQueue, handle)
  | .createSrq _ _, handle => some (.sharedReceiveQueue, handle)
  | .createQp _ _, handle => some (.queuePair, handle)
  | _, _ => none

/-- The handle whose resource an operation destroys, if it succeeds. -/
def Operation.destroys : Operation α → Option Handle
  | .closeDevice handle | .deallocPd handle | .deregMr handle | .destroyChannel handle
  | .destroyCq handle | .destroySrq handle | .destroyQp handle => some handle
  | _ => none

/-- The handle that an operation returns, with the kind that it creates. -/
def granted (v : Verbs) (op : Operation α) : Option (ResourceKind × Handle) :=
  (perform op v).1.toOption.bind op.grants

/-- The handle that an operation revokes. -/
def withdrawn (v : Verbs) (op : Operation α) : Option Handle :=
  (perform op v).1.toOption.bind fun _ => op.destroys

/-! ## What happens to the registry -/

/-- The registry stays as it is. -/
def Keeps (x : Verb α) : Prop := ∀ v, (x v).2.registry = v.registry

/-- A handle of the kind is returned and entered, or nothing is. -/
def Grants (kind : ResourceKind) (x : Verb Handle) : Prop :=
  ∀ v, (∃ e, (x v).1 = .error e ∧ (x v).2.registry = v.registry) ∨
    ∃ id parents, (x v).1 = .ok (.compose kind v.registry.nextSequence) ∧
      (x v).2.registry = (v.registry.insert kind id parents).2

theorem Working.keeps {x : Verb α} (hx : Working x) : Keeps x := fun v => (hx v).registry

theorem keeps_resolve (handle : Handle) (kind : ResourceKind) : Keeps (resolve handle kind) :=
  fun _ => rfl

theorem keeps_changeHost (change : Host → Host) : Keeps (changeHost change) := fun _ => rfl

theorem keeps_onHost {ε : Type} (reason : ε → VerbsError) (work : Step Host ε α) :
    Keeps (onHost reason work) := by
  intro v
  unfold onHost
  split <;> rfl

theorem Keeps.bind {x : Verb α} {f : α → Verb β} (hx : Keeps x) (hf : ∀ a, Keeps (f a)) :
    Keeps (x >>= f) :=
  Step.bind_relates (R := fun v w : Verbs => w.registry = v.registry) (fun hv hw => hw.trans hv) hx hf

theorem Keeps.map {x : Verb α} (hx : Keeps x) (f : α → β) : Keeps (f <$> x) :=
  hx.bind fun _ _ => rfl

theorem keeps_resolve_onHost {ε : Type} (handle : Handle) (kind : ResourceKind)
    (reason : ε → VerbsError) (work : NativeId → Step Host ε α) :
    Keeps (resolve handle kind >>= fun id => onHost reason (work id)) :=
  Keeps.bind (keeps_resolve _ _) fun _ => keeps_onHost _ _

theorem keeps_resolveOptional (handle : Handle) (kind : ResourceKind) :
    Keeps (resolveOptional handle kind) := by
  unfold resolveOptional
  split
  · exact fun _ => rfl
  · exact (keeps_resolve handle kind).map some

/-- What is done before is not seen in the registry. -/
theorem Keeps.grants {kind : ResourceKind} {x : Verb α} {f : α → Verb Handle} (hx : Keeps x)
    (hf : ∀ a, Grants kind (f a)) : Grants kind (x >>= f) := by
  intro v
  have hfirst := hx v
  rw [Step.bind_apply]
  split
  case h_1 a w heq =>
    rw [heq] at hfirst
    rcases hf a w with ⟨e, he, hsame⟩ | ⟨id, parents, hok, hentered⟩
    · exact .inl ⟨e, he, hsame.trans hfirst⟩
    · exact .inr ⟨id, parents, by rw [hok, hfirst], by rw [hentered, hfirst]⟩
  case h_2 e w heq =>
    rw [heq] at hfirst
    exact .inl ⟨e, rfl, hfirst⟩

theorem grants_throw (kind : ResourceKind) (e : VerbsError) :
    Grants kind (throw e) := fun _ => .inl ⟨e, rfl, rfl⟩

theorem grants_issue (kind : ResourceKind) (id : NativeId) (parents : List Handle) :
    Grants kind (issue kind id parents) := by
  intro v
  unfold issue
  split
  · exact .inl ⟨_, rfl, rfl⟩
  · exact .inr ⟨id, parents, rfl, rfl⟩

/-- Details are written down beside the registry. -/
theorem Grants.recordDetails {kind : ResourceKind} {x : Verb Handle} (hx : Grants kind x)
    (details : Details) :
    Grants kind (x >>= fun handle => recordDetails handle details >>= fun _ => pure handle) := by
  intro v
  rw [Step.bind_apply]
  rcases hx v with ⟨e, he, hsame⟩ | ⟨id, parents, hok, hentered⟩
  · cases hresult : x v with
    | mk answer w =>
        rw [hresult] at he hsame
        obtain rfl : answer = .error e := he
        exact .inl ⟨e, rfl, hsame⟩
  · cases hresult : x v with
    | mk answer w =>
        rw [hresult] at hok hentered
        obtain rfl : answer = .ok _ := hok
        exact .inr ⟨id, parents, rfl, hentered⟩

/-- A verb that destroys refuses, or it revokes a handle that was live. -/
theorem destroy_books (handle : Handle) (kind : ResourceKind) (work : NativeId → Native Unit)
    (v : Verbs) :
    (∃ e, (destroy handle kind work v).1 = .error e ∧
        (destroy handle kind work v).2.registry = v.registry) ∨
      ∃ id, v.registry.resolve handle kind = some id ∧ (destroy handle kind work v).1 = .ok () ∧
        (destroy handle kind work v).2.registry = (v.registry.remove handle).2 := by
  simp only [destroy, Step.bind_apply, resolve, Step.read]
  cases hr : v.registry.resolve handle kind with
  | none => exact .inl ⟨_, rfl, rfl⟩
  | some id =>
      simp only [checkDependents_eq]
      by_cases hrefused : v.policy = .registry ∧ v.registry.dependents handle > 0
      · simp only [hrefused, and_self, if_true]
        exact .inl ⟨_, rfl, rfl⟩
      · simp only [hrefused, if_false, destroyNative]
        cases hwork : work id v.host with
        | mk answer host =>
            cases answer with
            | error cause => refine .inl ⟨_, rfl, ?_⟩; simp only; split <;> rfl
            | ok done => exact .inr ⟨id, rfl, rfl, rfl⟩

/-- What an operation does to the registry, as its answer tells. -/
inductive Books (v : Verbs) (op : Operation α) : Prop
  | kept : (perform op v).2.registry = v.registry → granted v op = none → withdrawn v op = none →
      Books v op
  | entered {kind : ResourceKind} {id : NativeId} {parents : List Handle} :
      granted v op = some (kind, .compose kind v.registry.nextSequence) → withdrawn v op = none →
      (perform op v).2.registry = (v.registry.insert kind id parents).2 → Books v op
  | struck {handle : Handle} {kind : ResourceKind} {id : NativeId} :
      v.registry.resolve handle kind = some id → granted v op = none →
      withdrawn v op = some handle → (perform op v).2.registry = (v.registry.remove handle).2 →
      Books v op

theorem Keeps.books {op : Operation α} (hop : Keeps (perform op))
    (hgrants : ∀ a, op.grants a = none) (hdestroys : op.destroys = none) : v.Books op :=
  .kept (hop v) (by simp [granted, funext hgrants]) (by simp [withdrawn, hdestroys])

theorem Grants.books {kind : ResourceKind} {op : Operation Handle} (hop : Grants kind (perform op))
    (hgrants : ∀ handle, op.grants handle = some (kind, handle)) (hdestroys : op.destroys = none) :
    v.Books op := by
  have hwithdrawn : withdrawn v op = none := by simp [withdrawn, hdestroys]
  rcases hop v with ⟨e, he, hsame⟩ | ⟨id, parents, hok, hentered⟩
  · exact .kept hsame (by simp [granted, he, Except.toOption]) hwithdrawn
  · exact .entered (by simp [granted, hok, Except.toOption, hgrants]) hwithdrawn hentered

theorem books_of_destroy {op : Operation Unit} {handle : Handle} {kind : ResourceKind}
    {work : NativeId → Native Unit} (hop : perform op = destroy handle kind work)
    (hgrants : op.grants () = none) (hdestroys : op.destroys = some handle) : v.Books op := by
  have hgranted : granted v op = none := by
    unfold granted
    cases (perform op v).1.toOption with
    | none => rfl
    | some done => exact hgrants
  rcases destroy_books handle kind work v with ⟨e, he, hsame⟩ | ⟨id, hr, hok, hstruck⟩ <;>
    rw [← hop] at *
  · exact .kept hsame hgranted (by simp [withdrawn, he, Except.toOption])
  · exact .struck hr hgranted (by simp [withdrawn, hok, Except.toOption, hdestroys]) hstruck

/-! ## Verbs that create -/

theorem grants_openDevice (index : Nat) : Grants .context (openDevice .soft index) := by
  refine (keeps_onHost _ _).grants fun devices => ?_
  cases devices[index]? with
  | none => exact grants_throw _ _
  | some device => exact (keeps_onHost _ _).grants fun id => grants_issue _ _ _

theorem grants_allocPd (ctx : Handle) : Grants .protectionDomain (allocPd .soft ctx) :=
  (keeps_resolve _ _).grants fun _ => (keeps_onHost _ _).grants fun _ => grants_issue _ _ _

theorem grants_regMr (pd : Handle) (addr length : UInt64) (permission : Permission) :
    Grants .memoryRegion (regMr .soft pd addr length permission) := by
  unfold regMr
  by_cases haddr : addr = 0
  · simp only [haddr, if_true]
    exact fun _ => .inl ⟨_, rfl, rfl⟩
  by_cases hlength : length = 0
  · simp only [haddr, hlength, if_true, if_false]
    exact fun _ => .inl ⟨_, rfl, rfl⟩
  simp only [haddr, hlength, if_false]
  exact (keeps_resolve _ _).grants fun _ => (keeps_onHost _ _).grants fun _ =>
    (grants_issue _ _ _).recordDetails _

theorem grants_createChannel (ctx : Handle) :
    Grants .completionChannel (createChannel .soft ctx) :=
  (keeps_resolve _ _).grants fun _ => (keeps_onHost _ _).grants fun _ => grants_issue _ _ _

theorem grants_createCq (ctx : Handle) (depth : UInt32) (channel : Handle) (cookie : UInt64)
    (vector : Int32) : Grants .completionQueue (createCq .soft ctx depth channel cookie vector) := by
  unfold createCq
  split
  · exact fun _ => .inl ⟨_, rfl, rfl⟩
  exact (keeps_resolve _ _).grants fun _ => (keeps_resolveOptional _ _).grants fun _ =>
    (keeps_onHost _ _).grants fun _ => (grants_issue _ _ _).recordDetails _

theorem grants_createSrq (pd : Handle) (init : SrqInit) :
    Grants .sharedReceiveQueue (createSrq .soft pd init) :=
  (keeps_resolve _ _).grants fun _ => (keeps_onHost _ _).grants fun _ => grants_issue _ _ _

theorem grants_createQp (pd : Handle) (init : QpInit) :
    Grants .queuePair (createQp .soft pd init) := by
  unfold createQp
  cases Transport.ofCode? init.transport with
  | none => exact grants_throw _ _
  | some transport =>
      exact (keeps_resolve _ _).grants fun _ => (keeps_resolve _ _).grants fun _ =>
        (keeps_resolve _ _).grants fun _ => (keeps_resolveOptional _ _).grants fun _ =>
          (keeps_onHost _ _).grants fun _ => (grants_issue _ _ _).recordDetails _

/-! ## All operations -/

/-- The registry changes as the answer tells, whatever the operation. -/
theorem perform_books (op : Operation α) (v : Verbs) : v.Books op := by
  have hkept {β : Type} {op : Operation β} (hop : Keeps (perform op))
      (hgrants : ∀ a, op.grants a = none) (hdestroys : op.destroys = none) : v.Books op :=
    hop.books hgrants hdestroys
  cases op with
  | openDevice index => exact (grants_openDevice index).books (fun _ => rfl) rfl
  | allocPd ctx => exact (grants_allocPd ctx).books (fun _ => rfl) rfl
  | regMr pd addr length permission =>
      exact (grants_regMr pd addr length permission).books (fun _ => rfl) rfl
  | createChannel ctx => exact (grants_createChannel ctx).books (fun _ => rfl) rfl
  | createCq ctx depth channel cookie vector =>
      exact (grants_createCq ctx depth channel cookie vector).books (fun _ => rfl) rfl
  | createSrq pd init => exact (grants_createSrq pd init).books (fun _ => rfl) rfl
  | createQp pd init => exact (grants_createQp pd init).books (fun _ => rfl) rfl
  | closeDevice | deallocPd | deregMr | destroyChannel | destroyCq | destroySrq | destroyQp =>
      exact books_of_destroy rfl rfl rfl
  | deviceCount | deviceNames | deviceName | plug | unplug | setMemory | setDescriptorsLeft =>
      exact hkept (fun _ => rfl) (fun _ => rfl) rfl
  | queryDevice | queryPort | queryGid | channelDescriptor | pollCq | reqNotifyCq | modifyQp
  | qpState | postSrqRecv | postSend | postRecv =>
      exact hkept (keeps_resolve_onHost _ _ _ _) (fun _ => rfl) rfl
  | queryMr | cqCapacity => exact hkept (working_detailsOf _ _ _).keeps (fun _ => rfl) rfl
  | qpNumber qp | qpTransport qp =>
      exact hkept ((working_qpDetails qp).keeps.map _) (fun _ => rfl) rfl
  | setChannelDescriptor | ackCqEvents =>
      exact hkept ((keeps_resolve _ _).bind fun _ => keeps_changeHost _) (fun _ => rfl) rfl
  | addChannelFlags =>
      exact hkept ((keeps_resolve_onHost _ _ _ _).bind fun _ =>
        (keeps_resolve _ _).bind fun _ => keeps_changeHost _) (fun _ => rfl) rfl
  | getCqEvent =>
      exact hkept ((keeps_resolve _ _).bind fun _ => (keeps_onHost _ _).bind fun _ _ => rfl)
        (fun _ => rfl) rfl
  | endpoint qp port => exact hkept (working_endpoint qp port).keeps (fun _ => rfl) rfl
  | connectQp qp here remote access =>
      exact hkept (working_connectQp qp here remote access).keeps (fun _ => rfl) rfl

theorem Books.nextSequence_le {op : Operation α} (h : v.Books op) :
    v.registry.nextSequence ≤ (perform op v).2.registry.nextSequence := by
  cases h with
  | kept hsame => exact Nat.le_of_eq (congrArg _ hsame.symm)
  | entered _ _ hentered => exact hentered ▸ Nat.le_succ _
  | struck _ _ _ hstruck => exact Nat.le_of_eq (hstruck ▸ (Registry.nextSequence_remove _ _).symm)

theorem performAll_nextSequence_le (v : Verbs) (ops : List AnyOperation) :
    v.registry.nextSequence ≤ (v.performAll ops).registry.nextSequence := by
  induction ops generalizing v with
  | nil => exact Nat.le_refl _
  | cons op rest ih => exact Nat.le_trans (perform_books op.2 v).nextSequence_le (ih _)

/-! ## What was returned and what was revoked -/

/-- The handles that operations in a row return, with the kinds that they were created as. -/
def returned (v : Verbs) : List AnyOperation → List (ResourceKind × Handle)
  | [] => []
  | op :: rest => (granted v op.2).toList ++ returned (perform op.2 v).2 rest

/-- The handles that operations in a row revoke. -/
def revoked (v : Verbs) : List AnyOperation → List Handle
  | [] => []
  | op :: rest => (withdrawn v op.2).toList ++ revoked (perform op.2 v).2 rest

/-- The registry knows the handles that were returned and not revoked. -/
structure Ledger (v : Verbs) (given : List (ResourceKind × Handle)) (gone : List Handle) :
    Prop where
  composed : ∀ kind handle, (kind, handle) ∈ given →
    ∃ sequence < v.registry.nextSequence, handle = .compose kind sequence
  known : ∀ handle ∈ gone, ∃ kind, (kind, handle) ∈ given
  live : ∀ kind handle, (∃ id, v.registry.resolve handle kind = some id) ↔
    (kind, handle) ∈ given ∧ handle ∉ gone

section Ledger

variable {given : List (ResourceKind × Handle)} {gone : List Handle}

/-- The next handle was not returned before, as long as sequence numbers fit a handle. -/
theorem Ledger.fresh (h : v.Ledger given gone) (hfew : v.registry.nextSequence < 2 ^ 56)
    (kind kind' : ResourceKind) :
    (kind', Handle.compose kind v.registry.nextSequence) ∉ given := by
  intro hmem
  obtain ⟨sequence, hlt, heq⟩ := h.composed _ _ hmem
  obtain ⟨-, rfl⟩ := Handle.compose_inj hfew (Nat.lt_trans hlt hfew) heq
  exact Nat.lt_irrefl _ hlt

/-- One operation keeps the ledger: a handle that is issued is on neither list, and one that is
revoked is on the first. -/
theorem Ledger.perform (h : v.Ledger given gone) (op : Operation α)
    (hfew : (perform op v).2.registry.nextSequence ≤ 2 ^ 56) :
    (perform op v).2.Ledger (given ++ (granted v op).toList) (gone ++ (withdrawn v op).toList) := by
  cases perform_books op v with
  | kept hsame hgranted hwithdrawn =>
      simp only [hgranted, hwithdrawn, Option.toList_none, List.append_nil]
      constructor
      case composed => rw [hsame]; exact h.composed
      case known => exact h.known
      case live => rw [hsame]; exact h.live
  | @entered kind id parents hgranted hwithdrawn hentered =>
      simp only [hgranted, hwithdrawn, Option.toList_none, Option.toList_some, List.append_nil]
      rw [hentered] at hfew
      have hnew := h.fresh (Nat.lt_of_succ_le hfew) kind
      have hnotgone : Handle.compose kind v.registry.nextSequence ∉ gone := fun hmem =>
        (h.known _ hmem).elim hnew
      constructor
      case composed =>
        intro kind' handle hmem
        rw [hentered]
        rcases List.mem_append.1 hmem with hmem | hmem
        · obtain ⟨sequence, hlt, heq⟩ := h.composed kind' handle hmem
          exact ⟨sequence, Nat.lt_succ_of_lt hlt, heq⟩
        · obtain ⟨rfl, rfl⟩ := Prod.mk.inj (List.mem_singleton.1 hmem)
          exact ⟨_, Nat.lt_succ_self _, rfl⟩
      case known =>
        intro handle hmem
        obtain ⟨kind', hgiven⟩ := h.known handle hmem
        exact ⟨kind', List.mem_append_left _ hgiven⟩
      case live =>
        intro kind' handle
        rw [hentered, List.mem_append, List.mem_singleton, Prod.mk.injEq]
        simp only [Registry.resolve_insert]
        by_cases hsame : handle = .compose kind v.registry.nextSequence
        · subst hsame
          simp [hnotgone, hnew, eq_comm]
        · simp only [hsame, if_false, and_false, or_false]
          exact h.live kind' handle
  | @struck handle kind id hr hgranted hwithdrawn hstruck =>
      simp only [hgranted, hwithdrawn, Option.toList_none, Option.toList_some, List.append_nil]
      obtain ⟨-, entry, hentry, -⟩ := Registry.resolve_eq_some.1 hr
      constructor
      case composed => rw [hstruck, Registry.nextSequence_remove]; exact h.composed
      case known =>
        intro handle' hmem
        rcases List.mem_append.1 hmem with hmem | hmem
        · exact h.known handle' hmem
        · obtain rfl := List.mem_singleton.1 hmem
          exact ⟨kind, ((h.live kind handle').1 ⟨id, hr⟩).1⟩
      case live =>
        intro kind' handle'
        rw [hstruck]
        simp only [Registry.resolve_remove hentry, List.mem_append, List.mem_singleton, not_or]
        by_cases hsame : handle' = handle
        · simp [hsame]
        · simpa [hsame] using h.live kind' handle'

/-- A run keeps the ledger, as long as sequence numbers fit a handle. -/
theorem Ledger.performAll (h : v.Ledger given gone) (ops : List AnyOperation)
    (hfew : (v.performAll ops).registry.nextSequence ≤ 2 ^ 56) :
    (v.performAll ops).Ledger (given ++ returned v ops) (gone ++ revoked v ops) := by
  induction ops generalizing v given gone with
  | nil =>
      simp only [returned, revoked, List.append_nil]
      exact h
  | cons op rest ih =>
      have hle := performAll_nextSequence_le (Verbs.perform op.2 v).2 rest
      have hrest := ih (h.perform op.2 (Nat.le_trans hle hfew)) hfew
      rwa [List.append_assoc, List.append_assoc] at hrest

end Ledger

/-! ## Refusals -/

/-- The verb fails with the status of a failed precondition, and nothing happens. -/
def Refuses (v : Verbs) (x : Verb α) : Prop := ∃ e, x v = (.error e, v) ∧ e.status = 1

section Refuses

variable {handle : Handle} {kind : ResourceKind}

theorem Refuses.bind {x : Verb α} (hx : v.Refuses x) (f : α → Verb β) : v.Refuses (x >>= f) := by
  obtain ⟨e, he, hstatus⟩ := hx
  exact ⟨e, by rw [Step.bind_apply, he], hstatus⟩

theorem Refuses.map {x : Verb α} (hx : v.Refuses x) (f : α → β) : v.Refuses (f <$> x) := by
  obtain ⟨e, he, hstatus⟩ := hx
  exact ⟨e, by rw [Step.map_apply, he], hstatus⟩

/-- A handle that does not resolve. -/
theorem refuses_resolve (hnone : v.registry.resolve handle kind = none) :
    v.Refuses (resolve handle kind) :=
  ⟨.invalidHandle kind handle, by simp only [resolve, Step.read, hnone], rfl⟩

/-- What is refused further on is refused, whether the handle resolves or not. -/
theorem refuses_later {f : NativeId → Verb α} (hf : ∀ id, v.Refuses (f id)) :
    v.Refuses (resolve handle kind >>= f) := by
  cases hr : v.registry.resolve handle kind with
  | none => exact (refuses_resolve hr).bind f
  | some id =>
      obtain ⟨e, he, hstatus⟩ := hf id
      exact ⟨e, by simp only [Step.bind_apply, resolve, Step.read, hr, he], hstatus⟩

theorem refuses_resolveOptional (hnull : handle.isNull = false)
    (hnone : v.registry.resolve handle kind = none) : v.Refuses (resolveOptional handle kind) := by
  unfold resolveOptional
  rw [hnull, if_neg Bool.false_ne_true]
  exact (refuses_resolve hnone).map some

theorem refuses_detailsOf (hnone : v.registry.resolve handle kind = none)
    (select : Details → Option α) : v.Refuses (detailsOf handle kind select) :=
  (refuses_resolve hnone).bind _

theorem refuses_argument (what : ArgumentError) :
    v.Refuses (throw (.invalidArgument what) : Verb α) := ⟨_, rfl, rfl⟩

end Refuses

theorem refuses_regMr {pd : Handle} (hnone : v.registry.resolve pd .protectionDomain = none)
    (addr length : UInt64) (permission : Permission) :
    v.Refuses (regMr .soft pd addr length permission) := by
  unfold regMr
  by_cases haddr : addr = 0
  · simp only [haddr, if_true]
    exact (refuses_argument _).bind _
  by_cases hlength : length = 0
  · simp only [haddr, hlength, if_true, if_false]
    exact (refuses_argument _).bind _
  simp only [haddr, hlength, if_false]
  exact (refuses_resolve hnone).bind _

theorem refuses_createCq {ctx channel : Handle}
    (hbad : v.registry.resolve ctx .context = none ∨
      channel.isNull = false ∧ v.registry.resolve channel .completionChannel = none)
    (depth : UInt32) (cookie : UInt64) (vector : Int32) :
    v.Refuses (createCq .soft ctx depth channel cookie vector) := by
  unfold createCq
  split
  · exact (refuses_argument _).bind _
  rcases hbad with hnone | ⟨hnull, hnone⟩
  · exact (refuses_resolve hnone).bind _
  · exact refuses_later fun _ => (refuses_resolveOptional hnull hnone).bind _

theorem refuses_createQp {pd : Handle} {init : QpInit}
    (hbad : v.registry.resolve pd .protectionDomain = none ∨
      v.registry.resolve init.sendCq .completionQueue = none ∨
      v.registry.resolve init.recvCq .completionQueue = none ∨
      init.srq.isNull = false ∧ v.registry.resolve init.srq .sharedReceiveQueue = none) :
    v.Refuses (createQp .soft pd init) := by
  unfold createQp
  cases Transport.ofCode? init.transport with
  | none => exact refuses_argument _
  | some transport =>
      rcases hbad with hnone | hnone | hnone | ⟨hnull, hnone⟩
      · exact (refuses_resolve hnone).bind _
      · exact refuses_later fun _ => (refuses_resolve hnone).bind _
      · exact refuses_later fun _ => refuses_later fun _ => (refuses_resolve hnone).bind _
      · exact refuses_later fun _ => refuses_later fun _ => refuses_later fun _ =>
          (refuses_resolveOptional hnull hnone).bind _

/-- An operation refuses a value that does not resolve, in every place where it takes a handle. Only
where a handle is optional does the null handle stand for none. -/
theorem perform_refuses (op : Operation α) {a : Argument} (ha : a ∈ op.arguments)
    (hnone : v.registry.resolve a.handle a.kind = none)
    (hgiven : ¬ (a.optional = true ∧ a.handle.isNull = true)) : v.Refuses (perform op) := by
  cases op with
  | deviceCount | deviceNames | openDevice | deviceName | plug | unplug | setMemory
  | setDescriptorsLeft => cases ha
  | createCq ctx depth channel cookie vector =>
      refine refuses_createCq ?_ depth cookie vector
      rcases List.mem_cons.1 ha with rfl | ha
      · exact .inl hnone
      · obtain rfl := List.mem_singleton.1 ha
        exact .inr ⟨by simpa using hgiven, hnone⟩
  | createQp pd init =>
      refine refuses_createQp ?_
      simp only [Operation.arguments, List.mem_cons, List.not_mem_nil, or_false] at ha
      rcases ha with rfl | rfl | rfl | rfl
      · exact .inl hnone
      · exact .inr (.inl hnone)
      · exact .inr (.inr (.inl hnone))
      · exact .inr (.inr (.inr ⟨by simpa using hgiven, hnone⟩))
  | regMr pd addr length permission =>
      obtain rfl := List.mem_singleton.1 ha
      exact refuses_regMr hnone addr length permission
  | queryMr | cqCapacity =>
      obtain rfl := List.mem_singleton.1 ha
      exact refuses_detailsOf hnone _
  | qpNumber | qpTransport =>
      obtain rfl := List.mem_singleton.1 ha
      exact (refuses_detailsOf hnone _).map _
  | endpoint | connectQp =>
      obtain rfl := List.mem_singleton.1 ha
      exact ((refuses_detailsOf hnone _).map _).bind _
  | addChannelFlags =>
      obtain rfl := List.mem_singleton.1 ha
      exact ((refuses_resolve hnone).bind _).bind _
  | _ =>
      obtain rfl := List.mem_singleton.1 ha
      exact (refuses_resolve hnone).bind _

/-! ## Optional handles -/

theorem bind_ok {x : Verb α} {f : α → Verb β} {b : β} (h : (x >>= f) v = (.ok b, w)) :
    ∃ a u, x v = (.ok a, u) ∧ f a u = (.ok b, w) := by
  rw [Step.bind_apply] at h
  split at h
  case h_1 a u hx => exact ⟨a, u, hx, h⟩
  case h_2 => cases h

theorem resolve_ok {handle : Handle} {kind : ResourceKind} {id : NativeId}
    (h : resolve handle kind v = (.ok id, w)) : w = v ∧ v.registry.resolve handle kind = some id := by
  simp only [resolve, Step.read, Prod.mk.injEq] at h
  obtain ⟨hid, rfl⟩ := h
  split at hid <;> cases hid
  exact ⟨rfl, ‹_›⟩

/-- An optional handle is the null handle, and names nothing, or it names what it resolves to. -/
theorem resolveOptional_ok {handle : Handle} {kind : ResourceKind} {found : Option NativeId}
    (h : resolveOptional handle kind v = (.ok found, w)) :
    w = v ∧ found = if handle.isNull then none else v.registry.resolve handle kind := by
  unfold resolveOptional at h
  cases hnull : handle.isNull with
  | true =>
      rw [hnull, if_pos rfl] at h
      obtain ⟨hfound, rfl⟩ := Prod.mk.inj h
      exact ⟨rfl, (Except.ok.inj hfound).symm⟩
  | false =>
      rw [hnull, if_neg Bool.false_ne_true] at h
      obtain ⟨id, u, hid, hfound : (Except.ok (some id), u) = _⟩ := bind_ok h
      obtain ⟨rfl, hr⟩ := resolve_ok hid
      obtain ⟨hsome, rfl⟩ := Prod.mk.inj hfound
      exact ⟨rfl, hr ▸ (Except.ok.inj hsome).symm⟩

theorem native_ok {work : Native α} {a : α} (h : native work v = (.ok a, w)) :
    (work v.host).1 = .ok a ∧ w = { v with host := (work v.host).2 } := by
  unfold native onHost at h
  split at h
  case h_1 heq =>
    obtain ⟨ha, rfl⟩ := Prod.mk.inj h
    obtain rfl := Except.ok.inj ha
    simp only [heq, and_self]
  case h_2 => cases h

theorem issue_ok {kind : ResourceKind} {id : NativeId} {parents : List Handle} {handle : Handle}
    (h : issue kind id parents v = (.ok handle, w)) :
    w.registry.resolve handle kind = some id ∧ w.host.fabric = v.host.fabric := by
  unfold issue at h
  split at h
  · cases h
  · obtain ⟨hhandle, rfl⟩ := Prod.mk.inj h
    obtain rfl := Except.ok.inj hhandle
    refine ⟨?_, rfl⟩
    change (v.registry.insert kind id parents).2.resolve _ kind = some id
    rw [Registry.resolve_insert, if_pos rfl, if_pos rfl]

/-- A completion queue that was created reports to the channel it was given, if to any. -/
theorem createCq_ok {ctx channel handle : Handle} {depth : UInt32} {cookie : UInt64}
    {vector : Int32} (h : createCq .soft ctx depth channel cookie vector v = (.ok handle, w)) :
    ∃ id q, w.registry.resolve handle .completionQueue = some id ∧
      w.host.fabric.cqs.find? id = some q ∧
      q.channel = if channel.isNull then none
        else v.registry.resolve channel .completionChannel := by
  unfold createCq at h
  split at h
  · cases h
  obtain ⟨ctxId, _, hctx, hrest⟩ := bind_ok h
  obtain ⟨rfl, -⟩ := resolve_ok hctx
  obtain ⟨_, _, hchannel, hcreate⟩ := bind_ok hrest
  obtain ⟨rfl, rfl⟩ := resolveOptional_ok hchannel
  obtain ⟨grant, _, hgrant, hnamed⟩ := bind_ok hcreate
  obtain ⟨hok, rfl⟩ := native_ok hgrant
  obtain ⟨_, _, hissue, hrecorded⟩ := bind_ok hnamed
  obtain ⟨hresolved, hfabric⟩ := issue_ok hissue
  obtain ⟨hhandle, rfl⟩ := Prod.mk.inj hrecorded
  obtain rfl := Except.ok.inj hhandle
  obtain ⟨o, ⟨hnative, rfl⟩, ho⟩ := (Host.createCq_created _ ctxId depth _ cookie vector).object hok
  obtain ⟨q, hq, hnew⟩ := Option.map_eq_some_iff.1 ho
  refine ⟨_, q, hresolved, ?_, congrArg (·.channel) (Object.cq.inj hnew)⟩
  rw [hnative]
  exact hfabric ▸ hq

/-- A queue pair that was created takes from the shared queue it was given, if from any. -/
theorem createQp_ok {pd handle : Handle} {init : QpInit}
    (h : createQp .soft pd init v = (.ok handle, w)) :
    ∃ id q, w.registry.resolve handle .queuePair = some id ∧
      w.host.fabric.qps.find? id = some q ∧
      q.srq = if init.srq.isNull then none
        else v.registry.resolve init.srq .sharedReceiveQueue := by
  unfold createQp at h
  cases htransport : Transport.ofCode? init.transport with
  | none =>
      rw [htransport] at h
      cases h
  | some transport =>
  rw [htransport] at h
  obtain ⟨pdId, _, hpd, hqueues⟩ := bind_ok h
  obtain ⟨rfl, -⟩ := resolve_ok hpd
  obtain ⟨sendCq, _, hsend, hreceive⟩ := bind_ok hqueues
  obtain ⟨rfl, -⟩ := resolve_ok hsend
  obtain ⟨recvCq, _, hrecv, hshared⟩ := bind_ok hreceive
  obtain ⟨rfl, -⟩ := resolve_ok hrecv
  obtain ⟨_, _, hsrq, hcreate⟩ := bind_ok hshared
  obtain ⟨rfl, rfl⟩ := resolveOptional_ok hsrq
  obtain ⟨grant, _, hgrant, hnamed⟩ := bind_ok hcreate
  obtain ⟨hok, rfl⟩ := native_ok hgrant
  obtain ⟨_, _, hissue, hrecorded⟩ := bind_ok hnamed
  obtain ⟨hresolved, hfabric⟩ := issue_ok hissue
  obtain ⟨hhandle, rfl⟩ := Prod.mk.inj hrecorded
  obtain rfl := Except.ok.inj hhandle
  obtain ⟨o, ⟨hnative, rfl⟩, ho⟩ := (Host.createQp_created _ pdId _).object hok
  obtain ⟨q, hq, hnew⟩ := Option.map_eq_some_iff.1 ho
  refine ⟨_, q, hresolved, ?_, congrArg (·.srq) (Object.qp.inj hnew)⟩
  rw [hnative]
  exact hfabric ▸ hq

/-! ## Runs -/

/-- The handle was returned for a resource of the kind, and was not revoked since. -/
def LiveAfter (start : Verbs) (ops : List AnyOperation) (kind : ResourceKind) (handle : Handle) :
    Prop :=
  (kind, handle) ∈ returned start ops ∧ handle ∉ revoked start ops

theorem fresh_ledger (policy : DependencyPolicy) (memory : Memory) (devices : List DeviceConfig) :
    (fresh policy memory devices).Ledger [] [] := by
  constructor
  case composed => exact fun _ _ hmem => nomatch hmem
  case known => exact fun _ hmem => nomatch hmem
  case live =>
    intro kind handle
    refine iff_of_false ?_ fun hmem => nomatch hmem.1
    rintro ⟨id, hr⟩
    obtain ⟨entry, hentry, -⟩ := live_of_resolve hr
    cases hentry

/-- In every run that issues fewer handles than sequence numbers fit, each handle that is returned is
new, not null, and tells its kind; those returned and not revoked are the ones that resolve; and an
operation refuses any other value in every place where it takes a handle, with status 1 and without
effect. Only a name is answered instead, with the empty string. The null handle stands for none where
a completion queue may have a channel or a queue pair a shared receive queue, and nowhere else. -/
theorem reachable_unforgeable (policy : DependencyPolicy) (memory : Memory)
    (devices : List DeviceConfig) (ops : List AnyOperation) {α : Type} (op : Operation α)
    (hissued : ((fresh policy memory devices).performAll (ops ++ [⟨α, op⟩])).issued < 2 ^ 56) :
    let start := fresh policy memory devices
    let v := start.performAll ops
    (∀ kind handle, (∃ id, v.registry.resolve handle kind = some id) ↔
        LiveAfter start ops kind handle) ∧
      (∀ kind handle, granted v op = some (kind, handle) →
        handle ≠ .null ∧ handle.kind? = some kind ∧
          ∀ kind', (kind', handle) ∉ returned start ops) ∧
      (∀ a ∈ op.arguments, ¬ LiveAfter start ops a.kind a.handle →
        ¬ (a.optional = true ∧ a.handle.isNull = true) →
        ∃ e, perform op v = (.error e, v) ∧ e.status = 1) ∧
      (∀ ctx, ¬ LiveAfter start ops .context ctx → perform (.deviceName ctx) v = (.ok "", v)) ∧
      (∀ ctx depth channel cookie vector handle w,
        perform (.createCq ctx depth channel cookie vector) v = (.ok handle, w) →
        ∃ id q, w.registry.resolve handle .completionQueue = some id ∧
          w.host.fabric.cqs.find? id = some q ∧
          q.channel = if channel.isNull then none
            else v.registry.resolve channel .completionChannel) ∧
      ∀ pd init handle w, perform (.createQp pd init) v = (.ok handle, w) →
        ∃ id q, w.registry.resolve handle .queuePair = some id ∧
          w.host.fabric.qps.find? id = some q ∧
          q.srq = if init.srq.isNull then none
            else v.registry.resolve init.srq .sharedReceiveQueue := by
  intro start v
  have hlast : start.performAll (ops ++ [⟨α, op⟩]) = (perform op v).2 := List.foldl_concat ..
  have hafter : (perform op v).2.registry.nextSequence ≤ 2 ^ 56 := by
    rw [← hlast]
    change (start.performAll (ops ++ [⟨α, op⟩])).registry.nextSequence - 1 < 2 ^ 56 at hissued
    omega
  have hledger : v.Ledger (returned start ops) (revoked start ops) :=
    (fresh_ledger policy memory devices).performAll ops
      (Nat.le_trans (perform_books op v).nextSequence_le hafter)
  have hunresolved {kind : ResourceKind} {handle : Handle}
      (hnot : ¬ LiveAfter start ops kind handle) : v.registry.resolve handle kind = none :=
    Option.eq_none_iff_forall_ne_some.2 fun id hr => hnot ((hledger.live kind handle).1 ⟨id, hr⟩)
  refine ⟨hledger.live, fun kind handle hgranted => ?_, fun a ha hnot hgiven => ?_,
    fun ctx hnot => ?_, fun _ _ _ _ _ _ _ => createCq_ok, fun _ _ _ _ => createQp_ok⟩
  · cases perform_books op v with
    | kept _ hnone => cases hnone.symm.trans hgranted
    | struck _ hnone => cases hnone.symm.trans hgranted
    | @entered kind' id parents hnew _ hentered =>
        obtain ⟨rfl, rfl⟩ := Prod.mk.inj (Option.some.inj (hnew.symm.trans hgranted))
        rw [hentered] at hafter
        refine ⟨?_, Handle.kind?_compose _ _, fun kind'' =>
          hledger.fresh (Nat.lt_of_succ_le hafter) _ kind''⟩
        intro hnull
        have hnot := Handle.isNull_compose kind' v.registry.nextSequence
        rw [hnull] at hnot
        cases hnot
  · exact perform_refuses op ha (hunresolved hnot) hgiven
  · simp only [perform, Step.read, deviceName, hunresolved hnot]
    rfl

/-- A queue pair is destroyed. Nothing can be posted to it any more. -/
theorem oneOfEach_unforgeable :
    let start := fresh .registry {} [{}]
    let ops := oneOfEach ++ [⟨_, .destroyQp (.compose .queuePair 7)⟩]
    let v := start.performAll ops
    (.queuePair, .compose .queuePair 7) ∈ returned start ops ∧
      revoked start ops = [.compose .queuePair 7] ∧
      ∃ e, perform (.postSend (.compose .queuePair 7) [{ wrId := 1 }]) v = (.error e, v) ∧
        e.status = 1 := by
  intro start ops v
  have hrevoked : revoked start ops = [.compose .queuePair 7] := by decide +kernel
  obtain ⟨-, -, hrefused, -⟩ := reachable_unforgeable .registry {} [{}] ops
    (.postSend (.compose .queuePair 7) [{ wrId := 1 }]) (by decide +kernel)
  refine ⟨by decide +kernel, hrevoked, hrefused _ List.mem_cons_self (fun hlive => ?_) (by decide)⟩
  exact hlive.2 (by rw [hrevoked]; exact List.mem_cons_self)

end Rdma.Verbs
