import Rdma.Proofs.Verbs.Connection
import Rdma.Proofs.Verbs.Handles

/-!
# From a handle to its context

Parents are on record in the registry, and nothing in the registry keeps them from going in a circle or
out of it. What was given when a handle was created is in the history of the run. The two agree: the
first parent on record of a live handle is the one that it was created under, which is live as well
and of a kind nearer to a context, so that the walk ends at the context after two parents at most.

* `Ascends` — the walk, without a bound;
* `Rooted.perform` — the first parent is the one that was given;
* `Mirror.ascends` — where the walk ends;
* `Mirror.contextOf?_home` — the walk with a bound ends there too;
* `reachable_home` — all of that for every run, and what it means for endpoints.
-/

namespace Rdma.Verbs

open Fabric (Context QueuePair)

variable {v w : Verbs} {α β : Type}

/-! ## Walks -/

/-- A walk from a handle, each time to the first parent, meets its first context after as many steps.
-/
inductive Ascends (r : Registry) : Nat → Handle → Handle → Prop
  | arrived {ctx : Handle} : ctx.kind? = some .context → Ascends r 0 ctx ctx
  | parent {steps : Nat} {handle next ctx : Handle} : handle.kind? ≠ some .context →
      (r.parents handle).head? = some next → Ascends r steps next ctx →
      Ascends r (steps + 1) handle ctx

/-- A walk that ends is found with as many steps, or more. -/
theorem Ascends.contextWithin {r : Registry} {steps bound : Nat} {handle ctx : Handle}
    (hw : Ascends r steps handle ctx) (hle : steps ≤ bound) :
    contextWithin r bound handle = some ctx := by
  induction hw generalizing bound with
  | arrived hkind => cases bound <;> simp only [Verbs.contextWithin, hkind, if_true]
  | parent hkind hfirst _ ih =>
      obtain ⟨n, rfl⟩ := Nat.exists_eq_add_of_le' (Nat.zero_lt_of_lt hle)
      simp only [Verbs.contextWithin, hkind, if_false, hfirst, Option.bind_some]
      exact ih (Nat.le_of_succ_le_succ hle)

/-! ## What handles are created under -/

/-- The handle that an operation creates something under. -/
def Operation.under : Operation α → Option Handle
  | .allocPd ctx | .createChannel ctx | .createCq ctx _ _ _ _ => some ctx
  | .regMr pd _ _ _ | .createSrq pd _ | .createQp pd _ => some pd
  | _ => none

/-- The handles that operations in a row create, each with the one that it was created under, before
those of an earlier past. -/
def births (v : Verbs) (past : List (Handle × Option Handle)) :
    List AnyOperation → List (Handle × Option Handle)
  | [] => past
  | op :: rest =>
    births (perform op.2 v).2
      (((granted v op.2).map fun grant => (grant.2, op.2.under)).toList ++ past) rest

/-- The handle that a handle was last created under. -/
def creator (born : List (Handle × Option Handle)) (handle : Handle) : Option Handle :=
  (born.lookup handle).join

/-- The context that a handle was created under, which is itself, or its own, or that of its
protection domain. -/
def home (born : List (Handle × Option Handle)) (handle : Handle) : Option Handle :=
  match handle.kind? with
  | none => none
  | some .context => some handle
  | some .protectionDomain | some .completionChannel | some .completionQueue => creator born handle
  | some .memoryRegion | some .sharedReceiveQueue | some .queuePair =>
    (creator born handle).bind (creator born)

/-! ## What is on record -/

/-- What the verb creates has this first parent on record. -/
def Records (first : Option Handle) (x : Verb Handle) : Prop :=
  ∀ v w handle, x v = (.ok handle, w) → (w.registry.parents handle).head? = first

section Records

variable {first : Option Handle}

theorem Records.after {x : Verb α} {f : α → Verb Handle} (hf : ∀ a, Records first (f a)) :
    Records first (x >>= f) := by
  intro v w handle h
  obtain ⟨a, u, -, hlast⟩ := bind_ok h
  exact hf a u w handle hlast

/-- A handle that resolves is not the null handle. -/
theorem records_resolve {handle : Handle} {kind : ResourceKind} {f : NativeId → Verb Handle}
    (hf : handle.isNull = false → ∀ id, Records first (f id)) :
    Records first (resolve handle kind >>= f) := by
  intro v w created h
  obtain ⟨id, u, hresolved, hlast⟩ := bind_ok h
  obtain ⟨-, hr⟩ := resolve_ok hresolved
  exact hf (not_isNull_of_resolve hr) id u w created hlast

theorem records_throw (e : VerbsError) : Records first (throw e) := nofun

theorem records_issue (kind : ResourceKind) (id : NativeId) (parents : List Handle) :
    Records (parents.filter (!·.isNull)).head? (issue kind id parents) := by
  intro v w handle h
  unfold issue at h
  split at h
  · cases h
  · obtain ⟨hhandle, rfl⟩ := Prod.mk.inj h
    obtain rfl := Except.ok.inj hhandle
    change ((v.registry.insert kind id parents).2.parents _).head? = _
    rw [Registry.parents_insert, if_pos rfl]

theorem Records.recordDetails {x : Verb Handle} (hx : Records first x) (details : Details) :
    Records first (x >>= fun handle => recordDetails handle details >>= fun _ => pure handle) := by
  intro v w handle h
  obtain ⟨created, u, hcreated, hlast⟩ := bind_ok h
  obtain ⟨hhandle, rfl⟩ := Prod.mk.inj hlast
  obtain rfl := Except.ok.inj hhandle
  exact hx v u created hcreated

/-- The first of the parents that are given is on record, unless it is the null handle. -/
theorem records_issue_cons {under : Handle} (hgiven : under.isNull = false) (kind : ResourceKind)
    (id : NativeId) (rest : List Handle) :
    Records (some under) (issue kind id (under :: rest)) := by
  have hfirst : ((under :: rest).filter (!·.isNull)).head? = some under := by
    rw [List.filter_cons_of_pos (by simp [hgiven]), List.head?_cons]
  exact hfirst ▸ records_issue kind id (under :: rest)

end Records

theorem records_openDevice (index : Nat) : Records none (openDevice .soft index) := by
  refine .after fun devices => ?_
  cases devices[index]? with
  | none => exact records_throw _
  | some device => exact .after fun id => records_issue .context id []

theorem records_allocPd (ctx : Handle) : Records (some ctx) (allocPd .soft ctx) :=
  records_resolve fun hgiven _ => .after fun id => records_issue_cons hgiven _ id []

theorem records_regMr (pd : Handle) (addr length : UInt64) (permission : Permission) :
    Records (some pd) (regMr .soft pd addr length permission) := by
  have hlast : Records (some pd) (resolve pd .protectionDomain >>= fun id =>
      native (Provider.soft.regMr id addr length permission) >>= fun region =>
        issue .memoryRegion region.native [pd] >>= fun handle =>
          recordDetails handle (.region region.info) >>= fun _ => pure handle) :=
    records_resolve fun hgiven _ => .after fun _ =>
      (records_issue_cons hgiven _ _ []).recordDetails _
  unfold regMr
  -- the two arguments are checked before the domain is
  by_cases haddr : addr = 0
  · simp only [haddr, if_true]
    exact nofun
  by_cases hlength : length = 0
  · simp only [haddr, hlength, if_true, if_false]
    exact nofun
  simp only [haddr, hlength, if_false]
  exact hlast

theorem records_createChannel (ctx : Handle) : Records (some ctx) (createChannel .soft ctx) :=
  records_resolve fun hgiven _ => .after fun id => records_issue_cons hgiven _ id []

theorem records_createCq (ctx : Handle) (depth : UInt32) (channel : Handle) (cookie : UInt64)
    (vector : Int32) : Records (some ctx) (createCq .soft ctx depth channel cookie vector) := by
  have hlast : Records (some ctx) (resolve ctx .context >>= fun ctxId =>
      resolveOptional channel .completionChannel >>= fun channelId =>
        native (Provider.soft.createCq ctxId depth channelId cookie vector) >>= fun cq =>
          issue .completionQueue cq.native [ctx, channel] >>= fun handle =>
            recordDetails handle (.cq cq.capacity) >>= fun _ => pure handle) :=
    records_resolve fun hgiven _ => .after fun _ => .after fun _ =>
      (records_issue_cons hgiven _ _ [channel]).recordDetails _
  unfold createCq
  split
  · exact .after fun _ => hlast
  · exact hlast

theorem records_createSrq (pd : Handle) (init : SrqInit) :
    Records (some pd) (createSrq .soft pd init) :=
  records_resolve fun hgiven _ => .after fun id => records_issue_cons hgiven _ id []

theorem records_createQp (pd : Handle) (init : QpInit) :
    Records (some pd) (createQp .soft pd init) := by
  unfold createQp
  cases Transport.ofCode? init.transport with
  | none => exact records_throw _
  | some transport =>
      exact records_resolve fun hgiven _ => .after fun _ => .after fun _ => .after fun _ =>
        .after fun _ =>
          (records_issue_cons hgiven _ _ [init.sendCq, init.recvCq, init.srq]).recordDetails _

/-- What an operation creates has on record first what it was created under. -/
theorem granted_parent {op : Operation α} {kind : ResourceKind} {handle : Handle}
    (hgranted : granted v op = some (kind, handle)) :
    ((perform op v).2.registry.parents handle).head? = op.under := by
  obtain ⟨a, hanswer, hgrants⟩ := Option.bind_eq_some_iff.1 hgranted
  have hok : perform op v = (.ok a, (perform op v).2) := by
    cases hresult : perform op v with
    | mk answer w =>
        rw [hresult] at hanswer
        cases answer with
        | error e => cases hanswer
        | ok b => cases hanswer; rfl
  cases op with
  | openDevice index => cases hgrants; exact records_openDevice index _ _ _ hok
  | allocPd ctx => cases hgrants; exact records_allocPd ctx _ _ _ hok
  | regMr pd addr length permission =>
      cases hgrants
      exact records_regMr pd addr length permission _ _ _ hok
  | createChannel ctx => cases hgrants; exact records_createChannel ctx _ _ _ hok
  | createCq ctx depth channel cookie vector =>
      cases hgrants
      exact records_createCq ctx depth channel cookie vector _ _ _ hok
  | createSrq pd init => cases hgrants; exact records_createSrq pd init _ _ _ hok
  | createQp pd init => cases hgrants; exact records_createQp pd init _ _ _ hok
  | _ => cases hgrants

/-! ## Runs -/

/-- The first parent on record of a live handle is what it was created under. -/
def Rooted (v : Verbs) (born : List (Handle × Option Handle)) : Prop :=
  ∀ handle entry, v.registry.entries.find? handle = some entry →
    (v.registry.parents handle).head? = creator born handle

theorem creator_cons (handle : Handle) (under : Option Handle)
    (born : List (Handle × Option Handle)) (handle' : Handle) :
    creator ((handle, under) :: born) handle' =
      if handle' = handle then under else creator born handle' := by
  unfold creator
  by_cases hsame : handle' = handle
  · simp [hsame]
  · have hother : (handle' == handle) = false := by simpa using hsame
    simp [List.lookup_cons, hsame, hother]

/-- One operation keeps the first parents, as an entry keeps those it was made with. -/
theorem Rooted.perform {born : List (Handle × Option Handle)} (hv : v.Rooted born)
    (op : Operation α) :
    (perform op v).2.Rooted
      (((granted v op).map fun grant => (grant.2, op.under)).toList ++ born) := by
  intro handle entry hentry
  cases perform_books op v with
  | kept hsame hgranted _ =>
      rw [hsame] at hentry ⊢
      rw [hgranted]
      exact hv handle entry hentry
  | @entered kind id parents hgranted _ hentered =>
      have hparent := granted_parent hgranted
      rw [hgranted]
      change _ = creator ((_, op.under) :: born) handle
      rw [creator_cons]
      split
      case isTrue hnew => rw [hnew, hparent]
      case isFalse hold =>
        rw [hentered] at hentry ⊢
        rw [Registry.find?_insert, if_neg hold] at hentry
        obtain ⟨old, hfound, -⟩ := Option.map_eq_some_iff.1 hentry
        rw [Registry.parents_insert, if_neg hold, hv handle old hfound]
  | @struck gone kind id hr hgranted _ hstruck =>
      obtain ⟨goneEntry, hgone, -⟩ := live_of_resolve hr
      rw [hgranted]
      rw [hstruck, Registry.find?_remove hgone] at hentry
      split at hentry
      case isTrue => cases hentry
      case isFalse hne =>
        obtain ⟨old, hfound, -⟩ := Option.map_eq_some_iff.1 hentry
        rw [hstruck, Registry.parents_remove hgone, if_neg hne]
        exact hv handle old hfound

theorem Rooted.performAll {born : List (Handle × Option Handle)} (hv : v.Rooted born)
    (ops : List AnyOperation) : (v.performAll ops).Rooted (births v born ops) := by
  induction ops generalizing v born with
  | nil => exact hv
  | cons op rest ih => exact ih (hv.perform op.2)

theorem fresh_rooted (policy : DependencyPolicy) (memory : Memory) (devices : List DeviceConfig) :
    (fresh policy memory devices).Rooted [] := nofun

/-! ## Where walks end -/

section Home

variable {born : List (Handle × Option Handle)} (hm : v.Mirror) (hroot : v.Rooted born)

include hm hroot

/-- The handle of what an object refers to first is the one that it was created under. -/
theorem Mirror.creator_eq {handle : Handle} {kind kind' : ResourceKind} {id id' : NativeId}
    {o : Fabric.Object} {rest : List (ResourceKind × NativeId)}
    (hr : v.registry.resolve handle kind = some id) (ho : v.host.fabric.object? kind id = some o)
    (hrefs : o.references = (kind', id') :: rest) :
    ∃ parent, creator born handle = some parent ∧
      (v.registry.parents handle).head? = some parent ∧
      v.registry.resolve parent kind' = some id' := by
  obtain ⟨parent, hfirst, hparent⟩ := hm.first_parent hr ho hrefs
  obtain ⟨entry, hentry, -⟩ := live_of_resolve hr
  exact ⟨parent, (hroot handle entry hentry).symm.trans hfirst, hfirst, hparent⟩

/-- From every live handle the walk ends at the live context that it was created under, and it is
no longer than there are handles. -/
theorem Mirror.ascends {handle : Handle} {kind : ResourceKind} {id : NativeId}
    (hr : v.registry.resolve handle kind = some id) :
    ∃ ctx ctxId steps, home born handle = some ctx ∧
      v.registry.resolve ctx .context = some ctxId ∧ Ascends v.registry steps handle ctx ∧
      steps ≤ 2 ∧ steps ≤ v.registry.size := by
  obtain ⟨o, ho, -⟩ := hm.image hr
  have hkind := kind?_of_resolve hr
  -- handles of different kinds are two
  have htwo {parent : Handle} {kind' : ResourceKind} {id' : NativeId}
      (hparent : v.registry.resolve parent kind' = some id') (hne : kind ≠ kind') :
      2 ≤ v.registry.size := by
    refine two_le_size hr hparent ?_
    rintro rfl
    exact hne (Registry.resolve_inj hr hparent).1
  cases kind with
  | context =>
      exact ⟨handle, id, 0, by simp only [home, hkind], hr, .arrived hkind, Nat.zero_le _,
        Nat.zero_le _⟩
  | protectionDomain | completionChannel | completionQueue =>
      obtain ⟨_, -, rfl⟩ := Option.map_eq_some_iff.1 ho
      obtain ⟨ctx, hcreator, hfirst, hctx⟩ := hm.creator_eq hroot hr ho rfl
      refine ⟨ctx, _, 1, by simp only [home, hkind, hcreator], hctx, ?_, Nat.le_succ 1,
        Nat.le_of_succ_le (htwo hctx nofun)⟩
      exact .parent (by simp [hkind]) hfirst (.arrived (kind?_of_resolve hctx))
  | memoryRegion | sharedReceiveQueue | queuePair =>
      obtain ⟨_, -, rfl⟩ := Option.map_eq_some_iff.1 ho
      obtain ⟨pd, hcreator, hfirst, hpd⟩ := hm.creator_eq hroot hr ho rfl
      obtain ⟨_, hdomain, -⟩ := hm.image hpd
      obtain ⟨_, -, rfl⟩ := Option.map_eq_some_iff.1 hdomain
      obtain ⟨ctx, hcreator', hsecond, hctx⟩ := hm.creator_eq hroot hpd hdomain rfl
      refine ⟨ctx, _, 2, by simp only [home, hkind, hcreator, Option.bind_some, hcreator'], hctx, ?_,
        Nat.le_refl 2, htwo hpd nofun⟩
      exact .parent (by simp [hkind]) hfirst
        (.parent (by simp [kind?_of_resolve hpd]) hsecond (.arrived (kind?_of_resolve hctx)))

/-- The bounded walk ends where the walk without a bound does. -/
theorem Mirror.contextOf?_home {handle : Handle} {kind : ResourceKind} {id : NativeId}
    (hr : v.registry.resolve handle kind = some id) :
    contextOf? v.registry handle = home born handle := by
  obtain ⟨ctx, ctxId, steps, hhome, -, hwalk, -, hle⟩ := hm.ascends hroot hr
  rw [hhome]
  exact hwalk.contextWithin hle

end Home

/-! ## Endpoints -/

/-- A port that the device does not have is refused by the driver, and with it the endpoint. -/
theorem Mirror.endpoint_refused (hm : v.Mirror) {qp : Handle} {id : NativeId} {q : QueuePair}
    {c : Context} (hr : v.registry.resolve qp .queuePair = some id)
    (hq : v.host.fabric.qps.find? id = some q) (hc : v.host.fabric.contextOfPd q.pd = .ok c)
    {port : UInt8} (hport : c.config.hasPort port = false) :
    endpoint .soft qp port v = (.error (.driver .invalid), v) := by
  obtain ⟨ctx, ctxId, hctx, hr', hcontext⟩ := hm.contextOf?_eq hr hq hc
  obtain ⟨q', -, hdetails⟩ := hm.qpDetails hr
  have hqueryPort : queryPort .soft ctx port v = (.error (.driver .invalid), v) := by
    simp only [queryPort, Step.bind_apply, resolve, Step.read, hr', native, onHost, Provider.soft,
      Host.queryPort_refused hcontext hport]
  simp only [endpoint, Step.bind_apply, qpNumber_eq hdetails, Step.read, hctx, hqueryPort]

/-- After any run that issued fewer handles than sequence numbers fit, the walk from a live handle ends
after two parents at most. It ends at the context that the handle was created under, which is live:
at the handle itself, at the context that was given, or at the one that the protection domain was
created under. The endpoint of a live queue pair is refused for the ports that the driver refuses of
that context, with the driver's cause, and for no others. -/
theorem reachable_home (policy : DependencyPolicy) (memory : Memory) (devices : List DeviceConfig)
    (ops : List AnyOperation) {v : Verbs} (hv : v = (fresh policy memory devices).performAll ops)
    (hissued : v.issued < 2 ^ 56) :
    let born := births (fresh policy memory devices) [] ops
    (∀ handle entry, v.registry.entries.find? handle = some entry → ∃ ctx ctxId steps,
      home born handle = some ctx ∧ v.registry.resolve ctx .context = some ctxId ∧ steps ≤ 2 ∧
        Ascends v.registry steps handle ctx ∧ contextOf? v.registry handle = some ctx) ∧
      ∀ qp id port, v.registry.resolve qp .queuePair = some id → ∃ ctx ctxId,
        home born qp = some ctx ∧ v.registry.resolve ctx .context = some ctxId ∧
          match Host.queryPort ctxId port v.host with
          | (.ok attributes, _) => ∃ number gid, endpoint .soft qp port v =
              (.ok { qpNumber := number, lid := attributes.lid, port, gid,
                     mtu := attributes.activeMtu }, v)
          | (.error cause, _) => endpoint .soft qp port v = (.error (.driver cause), v) := by
  intro born
  have hm : v.Mirror := by
    subst hv
    exact reachable_mirror policy memory devices ops hissued
  have hh : v.host.Sound := by
    subst hv
    exact (performAll_sound (fresh_sound policy memory devices) ops).1
  have hroot : v.Rooted born := by
    subst hv
    exact (fresh_rooted policy memory devices).performAll ops
  refine ⟨fun handle entry hentry => ?_, fun qp id port hr => ?_⟩
  · obtain ⟨kind, -, hr⟩ := hm.resolve_live hentry
    obtain ⟨ctx, ctxId, steps, hhome, hctx, hwalk, htwo, hsize⟩ := hm.ascends hroot hr
    exact ⟨ctx, ctxId, steps, hhome, hctx, htwo, hwalk, hwalk.contextWithin hsize⟩
  · obtain ⟨q, hq, -⟩ := hm.qpDetails hr
    obtain ⟨c, hc⟩ := hh.fabric.qp_context hq
    obtain ⟨ctx, ctxId, hwalk, hctx, hcontext⟩ := hm.contextOf?_eq hr hq hc
    refine ⟨ctx, ctxId, (hm.contextOf?_home hroot hr).symm.trans hwalk, hctx, ?_⟩
    cases hport : c.config.hasPort port with
    | true =>
        rw [Host.queryPort_eq hcontext hport]
        exact ⟨q.number, Fabric.portGid c.deviceUid port, hm.endpoint_eq hr hq hc hport⟩
    | false =>
        rw [Host.queryPort_refused hcontext hport]
        exact hm.endpoint_refused hr hq hc hport

/-- A queue pair is two steps from its context, whose device has one port. -/
theorem oneOfEach_home :
    let v := (fresh .registry {} [{}]).performAll oneOfEach
    let ctx : Handle := .compose .context 1
    let qp : Handle := .compose .queuePair 7
    v.issued = 7 ∧ home (births (fresh .registry {} [{}]) [] oneOfEach) qp = some ctx ∧
      (∃ steps ≤ 2, Ascends v.registry steps qp ctx) ∧ contextOf? v.registry qp = some ctx ∧
      endpoint .soft qp 2 v = (.error (.driver .invalid), v) := by
  intro v ctx qp
  have hv : v = (fresh .registry {} [{}]).performAll oneOfEach := rfl
  have hissued : v.issued = 7 := by decide +kernel
  have hqp : v.registry.resolve qp .queuePair = some 8 := by decide +kernel
  have hctx : v.registry.resolve ctx .context = some 2 := by decide +kernel
  have hport : (Host.queryPort 2 2 v.host).1 = .error .invalid := by decide +kernel
  have hhome : home (births (fresh .registry {} [{}]) [] oneOfEach) qp = some ctx := by
    decide +kernel
  -- nothing else is used of how this came about
  generalize v = v at hv hissued hqp hctx hport ⊢
  obtain ⟨entry, hentry, -⟩ := live_of_resolve hqp
  obtain ⟨hwalks, hendpoints⟩ := reachable_home .registry {} [{}] oneOfEach hv (by omega)
  obtain ⟨_, _, steps, hhome₁, -, htwo, hwalk, hcontext⟩ := hwalks qp entry hentry
  obtain ⟨_, ctxId, hhome₂, hresolved, hendpoint⟩ := hendpoints qp 8 2 hqp
  obtain rfl := Option.some.inj (hhome.symm.trans hhome₁)
  obtain rfl := Option.some.inj (hhome.symm.trans hhome₂)
  obtain rfl := Option.some.inj (hctx.symm.trans hresolved)
  generalize Host.queryPort 2 2 v.host = answer at hport hendpoint
  obtain ⟨result, h⟩ := answer
  obtain rfl : result = .error .invalid := hport
  exact ⟨hissued, hhome, ⟨steps, htwo, hwalk⟩, hcontext, hendpoint⟩

end Rdma.Verbs
