import Mathlib.Data.List.Perm.Subperm
import Rdma.Proofs.Host.Addresses
import Rdma.Proofs.QueuePair.Connection
import Rdma.Proofs.Verbs.Custody
import Rdma.Proofs.Verbs.Image

/-!
# Endpoints that are exchanged connect

The endpoint of a queue pair is put together from the details of its handle and the port of the
context that the handle leads to. The peer's path MTU, if smaller, is one that a device supports as
well, so that both queue pairs can be brought up from each other's endpoints, one after the other.

* `Mirror.contextOf?_eq` — from a queue pair to its context;
* `Mirror.endpoint_eq` — endpoints;
* `connectQp_connects` — connecting one queue pair;
* `exchanged_endpoints_connect` — both.
-/

namespace Rdma

/-- The smaller of two path MTUs is one, and does not exceed the first. -/
theorem Mtu.ofCode?_min (m m' : Mtu) :
    ∃ n, Mtu.ofCode? (min m.code m'.code) = some n ∧ ¬ n.code > m.code := by
  cases m <;> cases m' <;> exact ⟨_, rfl, by decide⟩

namespace Fabric

variable {d : DeviceConfig} {attributes : QpAttributes} {mask : QpMask}

theorem targetState_ok {q : QueuePair} {target : QpState} (hstate : mask.contains .state = true)
    (hcurrent : mask.contains .currentState = false)
    (hcode : QpState.ofCode? attributes.state = some target) :
    targetState q attributes mask = .ok target := by
  simp only [targetState, hstate, hcurrent, hcode, if_true]
  rfl

/-- Only what the mask selects is checked. -/
theorem checkAttributes_ok (hport : mask.contains .port = true → d.hasPort attributes.port = true)
    (haccess : mask.contains .accessFlags = true →
      (Permission.mk attributes.accessFlags).hasUnknownBits = false)
    (hmtu : mask.contains .pathMtu = true →
      ∃ mtu, Mtu.ofCode? attributes.pathMtu = some mtu ∧ ¬ mtu.code > d.portMtu.code) :
    checkAttributes d attributes mask = .ok () := by
  have hport' : (mask.contains .port && !d.hasPort attributes.port) = false := by
    cases h : mask.contains .port <;> simp_all
  have haccess' : (mask.contains .accessFlags &&
      (Permission.mk attributes.accessFlags).hasUnknownBits) = false := by
    cases h : mask.contains .accessFlags <;> simp_all
  cases h : mask.contains .pathMtu with
  | false =>
      simp only [checkAttributes, hport', haccess', h]
      rfl
  | true =>
      obtain ⟨mtu, hcode, hsmall⟩ := hmtu h
      simp only [checkAttributes, hport', haccess', h, hcode, if_neg hsmall]
      rfl

/-- The context of a protection domain is told from the skeleton of the fabric. -/
theorem contextOfPd_congr {f g : Fabric} (hsame : g.skeleton = f.skeleton) (pd : NativeId) :
    g.contextOfPd pd = f.contextOfPd pd := by
  have hpds : g.pds = f.pds := congrArg (·.pds) hsame
  have hcontexts : g.contexts = f.contexts := congrArg (·.contexts) hsame
  simp only [contextOfPd, contextOfPd?, context, hpds, hcontexts]

/-- The protection domain of a queue pair is there, and so is the context of that. -/
theorem Sound.qp_context {f : Fabric} (hf : f.Sound) {id : NativeId} {q : QueuePair}
    (hq : f.qps.find? id = some q) : ∃ c, f.contextOfPd q.pd = .ok c := by
  have hobject : f.object? .queuePair id = some (.qp q.cleared) := congrArg (Option.map _) hq
  obtain ⟨ctx, c, hctx, hc⟩ := (hf.supported hobject).context hf nofun
  exact ⟨c, contextOfPd_iff.2 ⟨ctx, hctx, hc⟩⟩

end Fabric

namespace Verbs

open Fabric (QueuePair Object Context)

variable {v : Verbs} {devices : List DeviceConfig}

/-! ## From a queue pair to its context -/

/-- The first parent of a handle names what its object refers to first. -/
theorem Mirror.first_parent (hm : v.Mirror) {handle : Handle} {kind kind' : ResourceKind}
    {id id' : NativeId} {o : Object} {rest : List (ResourceKind × NativeId)}
    (hr : v.registry.resolve handle kind = some id) (ho : v.host.fabric.object? kind id = some o)
    (hrefs : o.references = (kind', id') :: rest) :
    ∃ parent, (v.registry.parents handle).head? = some parent ∧
      v.registry.resolve parent kind' = some id' := by
  have hnames := (hm.of_resolve hr ho).1
  rw [hrefs] at hnames
  generalize v.registry.parents handle = parents at hnames
  cases hnames with
  | cons hparent _ => exact ⟨_, rfl, hparent⟩

theorem two_le_size {r : Registry} {handle handle' : Handle} {kind kind' : ResourceKind}
    {id id' : NativeId} (hr : r.resolve handle kind = some id)
    (hr' : r.resolve handle' kind' = some id') (hne : handle ≠ handle') : 2 ≤ r.size := by
  obtain ⟨entry, hentry, -⟩ := live_of_resolve hr
  obtain ⟨entry', hentry', -⟩ := live_of_resolve hr'
  have hsub : [handle, handle'] ⊆ r.entries.keys :=
    List.cons_subset.2 ⟨Table.mem_keys.2 ⟨entry, hentry⟩,
      List.cons_subset.2 ⟨Table.mem_keys.2 ⟨entry', hentry'⟩, List.nil_subset _⟩⟩
  have hnodup : [handle, handle'].Nodup := by simp [hne]
  have hlength := (hnodup.subperm hsub).length_le
  rwa [Table.keys, List.length_map] at hlength

theorem kind?_of_resolve {r : Registry} {handle : Handle} {kind : ResourceKind} {id : NativeId}
    (hr : r.resolve handle kind = some id) : handle.kind? = some kind :=
  (Registry.resolve_eq_some.1 hr).1

/-- The walk from a queue pair passes its protection domain and ends at its context. -/
theorem Mirror.contextOf?_eq (hm : v.Mirror) {qp : Handle} {id : NativeId} {q : QueuePair}
    {c : Context} (hr : v.registry.resolve qp .queuePair = some id)
    (hq : v.host.fabric.qps.find? id = some q) (hc : v.host.fabric.contextOfPd q.pd = .ok c) :
    ∃ ctx ctxId, contextOf? v.registry qp = some ctx ∧
      v.registry.resolve ctx .context = some ctxId ∧
      v.host.fabric.contexts.find? ctxId = some c := by
  obtain ⟨p, hp, hcontext⟩ := Fabric.contextOfPd_eq_ok.1 hc
  have hqp : v.host.fabric.object? .queuePair id = some (.qp q.cleared) :=
    congrArg (Option.map _) hq
  have hpd : v.host.fabric.object? .protectionDomain q.pd = some (.pd p) :=
    congrArg (Option.map _) hp
  obtain ⟨pd, hfirst, hr'⟩ := hm.first_parent hr hqp rfl
  obtain ⟨ctx, hsecond, hr''⟩ := hm.first_parent hr' hpd rfl
  have hkind := kind?_of_resolve hr
  have hkind' := kind?_of_resolve hr'
  have hkind'' := kind?_of_resolve hr''
  have hne : qp ≠ pd := by
    rintro rfl
    rw [hkind] at hkind'
    cases hkind'
  obtain ⟨n, hn⟩ := Nat.exists_eq_add_of_le' (two_le_size hr hr' hne)
  refine ⟨ctx, p.context, ?_, hr'', hcontext⟩
  have hend : contextWithin v.registry n ctx = some ctx := by
    cases n <;> simp [contextWithin, hkind'']
  simp [contextOf?, hn, contextWithin, hkind, hkind', hfirst, hsecond, hend]

/-! ## What queue pairs report -/

section Reports

variable {qp : Handle} {id : NativeId} {number : UInt32} {transport : Transport}

theorem qpDetails_eq (hr : v.registry.resolve qp .queuePair = some id)
    (hdetails : v.details.find? qp = some (.qp number transport)) :
    qpDetails qp v = (.ok (number, transport), v) := by
  simp only [qpDetails, detailsOf, Step.bind_apply, resolve, Step.read, hr, hdetails]
  rfl

theorem qpNumber_eq (hdetails : qpDetails qp v = (.ok (number, transport), v)) :
    qpNumber qp v = (.ok number, v) := by
  simp only [qpNumber, Step.map_apply, hdetails]

theorem qpTransport_eq (hdetails : qpDetails qp v = (.ok (number, transport), v)) :
    qpTransport qp v = (.ok transport, v) := by
  simp only [qpTransport, Step.map_apply, hdetails]

theorem qpState_eq {q : QueuePair} (hr : v.registry.resolve qp .queuePair = some id)
    (hq : v.host.fabric.qps.find? id = some q) : qpState .soft qp v = (.ok q.state, v) := by
  simp only [qpState, Step.bind_apply, resolve, Step.read, hr, native, onHost, Provider.soft,
    Host.queryQpState, hq]

end Reports

/-! ## Endpoints -/

/-- The endpoint of a queue pair at a port of its device. -/
def endpointAt (c : Context) (number : UInt32) (port : UInt8) : Endpoint :=
  { qpNumber := number, lid := (Fabric.portAttributesOf c port).lid, port
    gid := Fabric.portGid c.deviceUid port, mtu := c.config.portMtu.code }

theorem Mirror.endpoint_eq (hm : v.Mirror) {qp : Handle} {id : NativeId} {q : QueuePair}
    {c : Context} (hr : v.registry.resolve qp .queuePair = some id)
    (hq : v.host.fabric.qps.find? id = some q) (hc : v.host.fabric.contextOfPd q.pd = .ok c)
    {port : UInt8} (hport : c.config.hasPort port = true) :
    endpoint .soft qp port v = (.ok (endpointAt c q.number port), v) := by
  obtain ⟨ctx, ctxId, hctx, hr', hcontext⟩ := hm.contextOf?_eq hr hq hc
  obtain ⟨q', hq', hdetails⟩ := hm.qpDetails hr
  obtain rfl := Option.some.inj (hq.symm.trans hq')
  have hqueryPort : queryPort .soft ctx port v = (.ok (Fabric.portAttributesOf c port), v) := by
    simp only [queryPort, Step.bind_apply, resolve, Step.read, hr', native, onHost, Provider.soft,
      Host.queryPort_eq hcontext hport]
  have hqueryGid : queryGid .soft ctx port 0 v = (.ok (Fabric.portGid c.deviceUid port), v) := by
    simp only [queryGid, Step.bind_apply, resolve, Step.read, hr', native, onHost, Provider.soft,
      Host.queryGid_eq hcontext hport]
  simp only [endpoint, Step.bind_apply, qpNumber_eq hdetails, Step.read, hctx, hqueryPort,
    hqueryGid]
  rfl

/-! ## Connecting -/

section Connecting

variable {P : Except VerbsError Unit × Verbs → Prop} {qp : Handle} {a b : NativeId}
  {p q : QueuePair} {attributes : QpAttributes} {mask : QpMask} (target : QpState)
  (hr : v.registry.resolve qp .queuePair = some a) (hreachable : Host.Reachable devices v.host)
  (hp : v.host.fabric.Paired a b p q) (hallows : v.host.Allows p attributes mask target)
  (htarget : target = .init ∨ target = .rtr ∨ target = .rts)
  (hawaits : (p.modified attributes mask target).Awaits q.number)

include hr hreachable hp hallows htarget hawaits

theorem modifyQp_runs : ∃ k, modifyQp .soft qp attributes mask v = (.ok (), { v with host := k }) ∧
    Host.Reachable devices k ∧ k.fabric.Paired a b (p.modified attributes mask target) q ∧
      k.fabric.skeleton = v.host.fabric.skeleton := by
  obtain ⟨k, hmodify, hrest⟩ := Host.modifyQp_paired hreachable hp hallows htarget hawaits
  refine ⟨k, ?_, hrest⟩
  simp only [modifyQp, Step.bind_apply, resolve, Step.read, hr, native, onHost, Provider.soft,
    hmodify]

theorem modifyQp_last (hP : ∀ k, Host.Reachable devices k →
      k.fabric.Paired a b (p.modified attributes mask target) q →
      k.fabric.skeleton = v.host.fabric.skeleton → P (.ok (), { v with host := k })) :
    P (modifyQp .soft qp attributes mask v) := by
  obtain ⟨k, hrun, hk, hpaired, hskeleton⟩ :=
    modifyQp_runs target hr hreachable hp hallows htarget hawaits
  rw [hrun]
  exact hP k hk hpaired hskeleton

theorem modifyQp_then {f : Unit → Verb Unit} (hP : ∀ k, Host.Reachable devices k →
      k.fabric.Paired a b (p.modified attributes mask target) q →
      k.fabric.skeleton = v.host.fabric.skeleton → P (f () { v with host := k })) :
    P ((modifyQp .soft qp attributes mask >>= f) v) := by
  obtain ⟨k, hrun, hk, hpaired, hskeleton⟩ :=
    modifyQp_runs target hr hreachable hp hallows htarget hawaits
  rw [Step.bind_apply, hrun]
  exact hP k hk hpaired hskeleton

end Connecting

/-- A queue pair as it is once it is connected. -/
def connected (p : QueuePair) (number : UInt32) (access : Permission) : QueuePair :=
  { p with state := .rts, destination := some number, access }

/-- The verb connected the queue pair `a` to `b`, and changed nothing else of the two. -/
def Connects (devices : List DeviceConfig) (v : Verbs) (a b : NativeId) (p q : QueuePair)
    (access : Permission) (result : Except VerbsError Unit × Verbs) : Prop :=
  ∃ k, result = (.ok (), { v with host := k }) ∧ Host.Reachable devices k ∧
    k.fabric.Paired a b (connected p q.number access) q ∧
    k.fabric.skeleton = v.host.fabric.skeleton

/-- A queue pair that awaits another is connected to that by the endpoints of both. -/
theorem connectQp_connects {qp : Handle} {a b : NativeId} {p q : QueuePair} {c : Context}
    {mtu : Mtu} (here remote : Endpoint) (access : Permission)
    (hr : v.registry.resolve qp .queuePair = some a)
    (hdetails : v.details.find? qp = some (.qp p.number p.transport))
    (hreachable : Host.Reachable devices v.host) (hp : v.host.fabric.Paired a b p q)
    (hreset : p.state = .reset) (hc : v.host.fabric.contextOfPd p.pd = .ok c)
    (hport : c.config.hasPort here.port = true) (hhere : here.mtu = c.config.portMtu.code)
    (hremote : remote.mtu = mtu.code) (hnumber : remote.qpNumber = q.number)
    (haccess : access.hasUnknownBits = false) :
    Connects devices v a b p q access (connectQp .soft qp here remote access v) := by
  have hidle := hp.forth.idle
  have hsmall : ∃ n, Mtu.ofCode? (min here.mtu remote.mtu) = some n ∧
      ¬ n.code > c.config.portMtu.code := by
    rw [hhere, hremote]
    exact Mtu.ofCode?_min _ _
  unfold connectQp
  rw [Step.bind_apply, qpTransport_eq (qpDetails_eq hr hdetails)]
  -- no mask asks for the current state, or selects what is not set
  refine modifyQp_then (P := Connects devices v a b p q access) .init hr hreachable hp
    ⟨?_, ?_, c, hc, ?_⟩ (.inl rfl) ?_ fun k₁ hk₁ hp₁ hs₁ => ?_
  · exact Fabric.targetState_ok (by decide) (by decide) rfl
  · rw [hreset]
    decide
  · exact Fabric.checkAttributes_ok (fun _ => hport) (fun _ => haccess)
      fun h => absurd h (by decide)
  · exact ⟨hidle, hp.forth.destination⟩
  have hc₁ := (Fabric.contextOfPd_congr hs₁ p.pd).trans hc
  have hdestination : some remote.qpNumber = some q.number := congrArg some hnumber
  -- the masks differ with the transport in what is not looked at
  generalize p.transport = transport
  refine modifyQp_then (v := { v with host := k₁ }) (P := Connects devices v a b p q access)
    .rtr hr hk₁ hp₁ ⟨?_, ?_, c, hc₁, ?_⟩ (.inr (.inl rfl)) ⟨hidle, .inr ?_⟩
    fun k₂ hk₂ hp₂ hs₂ => ?_
  · exact Fabric.targetState_ok (by cases transport <;> decide) (by cases transport <;> decide) rfl
  · cases transport <;> rfl
  · exact Fabric.checkAttributes_ok (fun h => absurd h (by cases transport <;> decide))
      (fun h => absurd h (by cases transport <;> decide)) fun _ => hsmall
  · cases transport <;> exact hdestination
  have hc₂ := (Fabric.contextOfPd_congr hs₂ p.pd).trans hc₁
  refine modifyQp_last (v := { v with host := k₂ }) (P := Connects devices v a b p q access)
    .rts hr hk₂ hp₂ ⟨?_, ?_, c, hc₂, ?_⟩ (.inr (.inr rfl)) ⟨hidle, .inr ?_⟩
    fun k₃ hk₃ hp₃ hs₃ => ?_
  · exact Fabric.targetState_ok (by cases transport <;> decide) (by cases transport <;> decide) rfl
  · cases transport <;> rfl
  · exact Fabric.checkAttributes_ok (fun h => absurd h (by cases transport <;> decide))
      (fun h => absurd h (by cases transport <;> decide))
      fun h => absurd h (by cases transport <;> decide)
  · cases transport <;> exact hdestination
  refine ⟨k₃, rfl, hk₃, ?_, hs₃.trans (hs₂.trans hs₁)⟩
  rw [connected, ← hnumber]
  cases transport <;> exact hp₃

/-- Whatever was done through handles, of which fewer than 2^56 were issued: two queue pairs in the
reset state have devices, be these the same or not, and endpoints at each valid port of those. By
any two such endpoints they are connected, first one and then the other. After that both are ready
to send, each with the number of the other as its destination and the access rights that were asked
for, and all else of them is as it was. Transports, path MTUs, link layers and other traffic do not
matter. -/
theorem exchanged_endpoints_connect (policy : DependencyPolicy) (memory : Memory)
    (devices : List DeviceConfig) (ops : List AnyOperation) {v : Verbs}
    (hv : v = (fresh policy memory devices).performAll ops) (hissued : v.issued < 2 ^ 56)
    {a b : Handle} {aId bId : NativeId} {p q : QueuePair} (hdistinct : a ≠ b)
    (ha : v.registry.resolve a .queuePair = some aId)
    (hb : v.registry.resolve b .queuePair = some bId)
    (hp : v.host.fabric.qps.find? aId = some p) (hq : v.host.fabric.qps.find? bId = some q)
    (hpreset : p.state = .reset) (hqreset : q.state = .reset) :
    ∃ c d, v.host.fabric.contextOfPd p.pd = .ok c ∧ v.host.fabric.contextOfPd q.pd = .ok d ∧
      ∀ {aPort bPort : UInt8} {x y : Permission}, c.config.hasPort aPort = true →
        d.config.hasPort bPort = true → x.hasUnknownBits = false → y.hasUnknownBits = false →
        ∃ here there w w', endpoint .soft a aPort v = (.ok here, v) ∧
          endpoint .soft b bPort v = (.ok there, v) ∧
          connectQp .soft a here there x v = (.ok (), w) ∧
          connectQp .soft b there here y w = (.ok (), w') ∧
          w'.host.fabric.qps.find? aId = some (connected p q.number x) ∧
          w'.host.fabric.qps.find? bId = some (connected q p.number y) ∧
          qpState .soft a w' = (.ok .rts, w') ∧ qpState .soft b w' = (.ok .rts, w') ∧
          qpNumber a w' = (.ok p.number, w') ∧ qpNumber b w' = (.ok q.number, w') := by
  have hm : v.Mirror := by
    subst hv
    exact reachable_mirror policy memory devices ops hissued
  have hr : Host.Reachable devices v.host := by
    subst hv
    exact reachable_host policy memory devices ops
  clear hv
  obtain ⟨hpsends, -, hpdestination, -⟩ := (hr.proper hp).reset hpreset
  obtain ⟨hqsends, -, hqdestination, -⟩ := (hr.proper hq).reset hqreset
  have hpaired : v.host.fabric.Paired aId bId p q := by
    refine ⟨hp, hq, ?_, ⟨hpsends, .inl hpdestination⟩, ⟨hqsends, .inl hqdestination⟩⟩
    rintro rfl
    exact hdistinct (hm.unique ha hb)
  have hpdetails : v.details.find? a = some (.qp p.number p.transport) :=
    (hm.of_resolve ha (congrArg (Option.map _) hp)).2
  have hqdetails : v.details.find? b = some (.qp q.number q.transport) :=
    (hm.of_resolve hb (congrArg (Option.map _) hq)).2
  obtain ⟨c, hc⟩ := hr.sound.fabric.qp_context hp
  obtain ⟨d, hd⟩ := hr.sound.fabric.qp_context hq
  refine ⟨c, d, hc, hd, fun {aPort bPort x y} haPort hbPort hx hy => ?_⟩
  obtain ⟨k, hconnect, hk, hpaired₁, hskeleton⟩ := connectQp_connects
    (endpointAt c p.number aPort) (endpointAt d q.number bPort) x
    ha hpdetails hr hpaired hpreset hc haPort rfl rfl rfl hx
  obtain ⟨k', hconnect', -, hpaired₂, -⟩ := connectQp_connects (v := { v with host := k })
    (endpointAt d q.number bPort) (endpointAt c p.number aPort) y
    hb hqdetails hk hpaired₁.symm hqreset ((Fabric.contextOfPd_congr hskeleton q.pd).trans hd)
    hbPort rfl rfl rfl hy
  let w : Verbs := { v with host := k' }
  refine ⟨_, _, _, w, hm.endpoint_eq ha hp hc haPort, hm.endpoint_eq hb hq hd hbPort, hconnect,
    hconnect', hpaired₂.right, hpaired₂.left, ?_, ?_, ?_, ?_⟩
  · exact qpState_eq (v := w) ha hpaired₂.right
  · exact qpState_eq (v := w) hb hpaired₂.left
  · exact qpNumber_eq (qpDetails_eq (v := w) ha hpdetails)
  · exact qpNumber_eq (qpDetails_eq (v := w) hb hqdetails)

/-- Operations that create a queue pair on each of two devices. -/
def onBothDevices : List AnyOperation :=
  let create (ctx pd cq index : Nat) : List AnyOperation :=
    [⟨_, .openDevice index⟩, ⟨_, .allocPd (.compose .context ctx)⟩,
      ⟨_, .createCq (.compose .context ctx) 4 .null 0 0⟩,
      ⟨_, .createQp (.compose .protectionDomain pd)
        { sendCq := .compose .completionQueue cq, recvCq := .compose .completionQueue cq }⟩]
  create 1 2 3 0 ++ create 5 6 7 1

/-- An InfiniBand port and an Ethernet port of a smaller path MTU. -/
theorem onBothDevices_connect :
    let other : DeviceConfig := { name := "other", ports := 2, mtu := 1024, linkLayer := .ethernet }
    let v := (fresh .registry {} [{}, other]).performAll onBothDevices
    let a : Handle := .compose .queuePair 4
    let b : Handle := .compose .queuePair 8
    v.issued = 8 ∧ ∃ here there w w', endpoint .soft a 1 v = (.ok here, v) ∧
      endpoint .soft b 2 v = (.ok there, v) ∧
      connectQp .soft a here there .standard v = (.ok (), w) ∧
      connectQp .soft b there here .none w = (.ok (), w') ∧ qpState .soft a w' = (.ok .rts, w') ∧
      qpState .soft b w' = (.ok .rts, w') := by
  intro other v a b
  have hv : v = (fresh .registry {} [{}, other]).performAll onBothDevices := rfl
  have hissued : v.issued = 8 := by decide +kernel
  have ha : v.registry.resolve a .queuePair = some 6 := by decide +kernel
  have hb : v.registry.resolve b .queuePair = some 10 := by decide +kernel
  have hleft : (v.host.fabric.qps.find? 6).map (fun p => (p.state, p.pd)) = some (.reset, 4) := by
    decide +kernel
  have hright : (v.host.fabric.qps.find? 10).map (fun q => (q.state, q.pd)) = some (.reset, 8) := by
    decide +kernel
  have hnear : (v.host.fabric.contextOfPd 4).toOption.map (·.config) = some {} := by decide +kernel
  have hfar : (v.host.fabric.contextOfPd 8).toOption.map (·.config) = some other := by
    decide +kernel
  -- nothing else is used of how this came about
  generalize v = v at hv hissued ha hb hleft hright hnear hfar ⊢
  obtain ⟨p, hp, hpfields⟩ := Option.map_eq_some_iff.1 hleft
  obtain ⟨q, hq, hqfields⟩ := Option.map_eq_some_iff.1 hright
  obtain ⟨hpreset, hppd⟩ := Prod.mk.inj hpfields
  obtain ⟨hqreset, hqpd⟩ := Prod.mk.inj hqfields
  obtain ⟨c, d, hc, hd, hconnects⟩ := exchanged_endpoints_connect .registry {} [{}, other]
    onBothDevices hv (by omega) (by decide : a ≠ b) ha hb hp hq hpreset hqreset
  rw [hppd] at hc
  rw [hqpd] at hd
  rw [hc] at hnear
  rw [hd] at hfar
  have hcconfig : c.config = {} := Option.some.inj hnear
  have hdconfig : d.config = other := Option.some.inj hfar
  have haPort : c.config.hasPort 1 = true := by
    rw [hcconfig]
    decide
  have hbPort : d.config.hasPort 2 = true := by
    rw [hdconfig]
    decide
  obtain ⟨here, there, w, w', hhere, hthere, hconnect, hconnect', -, -, hastate, hbstate, -⟩ :=
    hconnects haPort hbPort (by decide : Permission.standard.hasUnknownBits = false)
      (by decide : Permission.none.hasUnknownBits = false)
  exact ⟨hissued, here, there, w, w', hhere, hthere, hconnect, hconnect', hastate, hbstate⟩

end Verbs

end Rdma
