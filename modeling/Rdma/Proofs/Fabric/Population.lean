import Mathlib.Data.Set.Card
import Rdma.Proofs.Fabric.Creation

/-!
# What a context holds

A context holds the objects that belong to it, directly or through one of its protection domains. The
configuration that the context was opened with limits how many of a kind there may be, and how large
each may be. Whether an object may be created is checked once; work changes no object, and with an
object gone there is only more room. So the limits hold at any time (`Fabric.Limited`).

* `population_eq` — the counts of the checks are numbers of objects;
* `Limited.adds`, `Limited.removes`, `Limited.of_objects` — one object more, one object less, work.
-/

namespace Rdma

theorem Table.count_eq_ncard {κ α : Type} [DecidableEq κ] (t : Table κ α) (p : α → Bool) :
    t.count p = {key | ∃ a, t.find? key = some a ∧ p a = true}.ncard := by
  let chosen := (t.entries.filter (p ·.2)).map (·.1)
  have hnodup : chosen.Nodup := t.distinct.sublist (List.filter_sublist.map _)
  have hset : {key | ∃ a, t.find? key = some a ∧ p a = true} = ↑chosen.toFinset := by
    ext key
    simp [chosen, ← Table.mem_entries]
  have hlength : chosen.length = t.count p :=
    calc chosen.length = (t.entries.filter (p ·.2)).length := List.length_map _
      _ = t.entries.countP (p ·.2) := List.countP_eq_length_filter.symm
      _ = t.values.countP p := by rw [Table.values, List.countP_map]; rfl
  rw [hset, Set.ncard_coe_finset, List.toFinset_card_of_nodup hnodup, hlength]

/-- How many objects of a kind a context may hold, where that is limited. -/
def DeviceConfig.limit? (d : DeviceConfig) : ResourceKind → Option UInt32
  | .protectionDomain => some d.maxPd
  | .memoryRegion => some d.maxMr
  | .completionQueue => some d.maxCq
  | .sharedReceiveQueue => some d.maxSrq
  | .queuePair => some d.maxQp
  | .context | .completionChannel => none

namespace Fabric

/-- A region is of a size and with rights that the device admits. -/
structure Region.Admitted (d : DeviceConfig) (r : Region) : Prop where
  nonempty : 0 < r.length
  length : r.length ≤ d.maxMrSize
  known : r.permission.hasUnknownBits = false
  consistent : r.permission.isConsistent = true

structure SharedQueue.Admitted (d : DeviceConfig) (s : SharedQueue) : Prop where
  maxWr : s.maxWr ≤ d.maxSrqWr
  maxSge : s.maxSge ≤ d.maxSge

/-- The capacities of a queue pair are within the device's, those of its receive queue if it has one
of its own. -/
structure QueuePair.Admitted (d : DeviceConfig) (q : QueuePair) : Prop where
  maxSendWr : q.caps.maxSendWr ≤ d.maxQpWr
  maxSendSge : q.caps.maxSendSge ≤ d.maxSge
  maxInlineData : q.caps.maxInlineData ≤ d.maxInlineData
  maxRecvWr : q.srq = none → q.caps.maxRecvWr ≤ d.maxQpWr
  maxRecvSge : q.srq = none → q.caps.maxRecvSge ≤ d.maxSge

/-- The object is within the limits of the device. -/
def Object.Admitted (d : DeviceConfig) : Object → Prop
  | .cq q => q.capacity ≤ d.maxCqe
  | .region r => r.Admitted d
  | .srq s => s.Admitted d
  | .qp q => q.Admitted d
  | .context _ | .pd _ | .channel _ => True

/-- The context that an object belongs to. A context belongs to none. -/
def contextOf? (f : Fabric) : Object → Option NativeId
  | .context _ => none
  | .pd p => some p.context
  | .channel c => some c.context
  | .cq q => some q.context
  | .region r => f.contextOfPd? r.pd
  | .srq s => f.contextOfPd? s.pd
  | .qp q => f.contextOfPd? q.pd

/-- How many objects of a kind belong to a context. -/
def population (f : Fabric) (ctx : NativeId) : ResourceKind → Nat
  | .context => 0
  | .protectionDomain => f.pds.count (·.context = ctx)
  | .completionChannel => f.channels.count (·.context = ctx)
  | .completionQueue => f.cqs.count (·.context = ctx)
  | .memoryRegion => f.regions.count fun r => f.contextOfPd? r.pd = some ctx
  | .sharedReceiveQueue => f.srqs.count fun s => f.contextOfPd? s.pd = some ctx
  | .queuePair => f.qps.count fun q => f.contextOfPd? q.pd = some ctx

/-- The identities of the objects of a kind that belong to a context. -/
def members (f : Fabric) (ctx : NativeId) (kind : ResourceKind) : Set NativeId :=
  {id | ∃ o, f.object? kind id = some o ∧ f.contextOf? o = some ctx}

/-- The object is within the limits of the context that it belongs to, and there is room for it. -/
def Admits (f : Fabric) (o : Object) : Prop :=
  ∀ ctx c, f.contextOf? o = some ctx → f.contexts.find? ctx = some c →
    o.Admitted c.config ∧
      ∀ limit, c.config.limit? o.kind = some limit → f.population ctx o.kind < limit.toNat

/-- No context holds more than it was opened for, nor an object larger than that. -/
structure Limited (f : Fabric) : Prop where
  population : ∀ {ctx c} (kind : ResourceKind) {limit}, f.contexts.find? ctx = some c →
    c.config.limit? kind = some limit → f.population ctx kind ≤ limit.toNat
  admitted : ∀ {kind id o ctx c}, f.object? kind id = some o → f.contextOf? o = some ctx →
    f.contexts.find? ctx = some c → o.Admitted c.config

variable {f g : Fabric} {o : Object} {ctx id : NativeId} {kind : ResourceKind}

/-! ## Counting -/

/-- What is counted are the objects of the kind that belong to the context, itself apart. -/
theorem population_eq (f : Fabric) (ctx : NativeId) (kind : ResourceKind) :
    f.population ctx kind = (f.members ctx kind).ncard := by
  cases kind with
  | context =>
      have hempty : f.members ctx .context = ∅ := by
        refine Set.eq_empty_of_forall_notMem fun id hid => ?_
        obtain ⟨o, ho, hctx⟩ := hid
        obtain ⟨c, -, rfl⟩ := Option.map_eq_some_iff.1 ho
        cases hctx
      rw [hempty, Set.ncard_empty]
      rfl
  | protectionDomain | completionChannel | completionQueue | memoryRegion | sharedReceiveQueue
  | queuePair =>
      rw [population, Table.count_eq_ncard]
      congr 1
      ext id
      simp [members, object?, contextOf?, Channel.asCreated, CompletionQueue.asCreated,
        SharedQueue.asCreated, QueuePair.cleared]

theorem Sound.members_finite (hf : f.Sound) (ctx : NativeId) (kind : ResourceKind) :
    (f.members ctx kind).Finite := by
  refine (Set.finite_lt_nat f.nextId).subset fun id hid => ?_
  obtain ⟨o, ho, -⟩ := hid
  exact (hf.below ho).2

theorem population_le (hf : f.Sound) (hsub : g.members ctx kind ⊆ f.members ctx kind) :
    g.population ctx kind ≤ f.population ctx kind := by
  rw [population_eq, population_eq]
  exact Set.ncard_le_ncard hsub (hf.members_finite ctx kind)

theorem population_le_succ (id : NativeId) (hf : f.Sound)
    (hsub : g.members ctx kind ⊆ insert id (f.members ctx kind)) :
    g.population ctx kind ≤ f.population ctx kind + 1 := by
  rw [population_eq, population_eq]
  calc (g.members ctx kind).ncard ≤ (insert id (f.members ctx kind)).ncard :=
        Set.ncard_le_ncard hsub ((hf.members_finite ctx kind).insert id)
    _ ≤ (f.members ctx kind).ncard + 1 := Set.ncard_insert_le id _

/-! ## Views -/

theorem find_context {c : Context} :
    f.contexts.find? id = some c ↔ f.object? .context id = some (.context c) := by
  simp [object?]

theorem find_region {r : Region} :
    f.regions.find? id = some r ↔ f.object? .memoryRegion id = some (.region r) := by
  simp [object?]

theorem contextOfPd?_eq_some {pd : NativeId} : f.contextOfPd? pd = some ctx ↔
    ∃ p, f.object? .protectionDomain pd = some (.pd p) ∧ p.context = ctx := by
  simp [contextOfPd?, object?]

/-- Whatever keeps protection domains keeps what belongs to a context. -/
theorem contextOf?_mono
    (hkeep : ∀ pd p, (.protectionDomain, pd) ∈ o.references →
      f.object? .protectionDomain pd = some (.pd p) →
      g.object? .protectionDomain pd = some (.pd p))
    (hctx : f.contextOf? o = some ctx) : g.contextOf? o = some ctx := by
  cases o with
  | context => cases hctx
  | pd | channel | cq => exact hctx
  | region r | srq r | qp r =>
      obtain ⟨p, hp, hcontext⟩ := contextOfPd?_eq_some.1 hctx
      exact contextOfPd?_eq_some.2 ⟨p, hkeep r.pd p (by simp [Object.references]) hp, hcontext⟩

/-- What is supported belongs to a context that is there, unless it is one. -/
theorem Supports.context (hf : f.Sound) (hsup : f.Supports o) (hkind : o.kind ≠ .context) :
    ∃ ctx c, f.contextOf? o = some ctx ∧ f.contexts.find? ctx = some c := by
  obtain ⟨ctx, hrefs⟩ := hsup
  have hpd (pd : NativeId) (hmem : (.protectionDomain, pd) ∈ o.references) :
      ∃ ctx c, f.contextOfPd? pd = some ctx ∧ f.contexts.find? ctx = some c := by
    cases hrefs _ hmem with
    | @pd _ p hp =>
        obtain ⟨_, hreferences⟩ := hf.supported hp
        cases hreferences (.context, p.context) List.mem_cons_self with
        | context hc =>
            exact ⟨_, _, contextOfPd?_eq_some.2 ⟨p, hp, rfl⟩, find_context.2 hc⟩
  have hcontext (id : NativeId) (hmem : (.context, id) ∈ o.references) :
      ∃ c, f.contexts.find? id = some c := by
    cases hrefs _ hmem with
    | context hc => exact ⟨_, find_context.2 hc⟩
  cases o with
  | context => exact absurd rfl hkind
  | pd p | channel p | cq p =>
      obtain ⟨c, hc⟩ := hcontext p.context (by simp [Object.references])
      exact ⟨_, c, rfl, hc⟩
  | region r | srq r | qp r => exact hpd r.pd (by simp [Object.references])

/-- The context that something supported belongs to is there. -/
theorem Supports.owner (hf : f.Sound) (hsup : f.Supports o) (hbelongs : f.contextOf? o = some ctx) :
    ∃ c, f.contexts.find? ctx = some c := by
  have hkind : o.kind ≠ .context := by
    cases o with
    | context => cases hbelongs
    | _ => nofun
  obtain ⟨ctx', c, hctx, hc⟩ := hsup.context hf hkind
  obtain rfl := Option.some.inj (hbelongs.symm.trans hctx)
  exact ⟨c, hc⟩

/-! ## Work -/

/-- Where the objects are the same, the limits hold as before. -/
theorem Limited.of_objects (hl : f.Limited) (hsame : g.object? = f.object?) : g.Limited := by
  have hcontexts {id : NativeId} {c : Context} (hc : g.contexts.find? id = some c) :
      f.contexts.find? id = some c := find_context.2 (hsame ▸ find_context.1 hc)
  have hctx (o : Object) : g.contextOf? o = f.contextOf? o := by
    refine Option.ext fun ctx => ⟨fun h => ?_, fun h => ?_⟩
    · exact contextOf?_mono (fun _ _ _ hp => hsame ▸ hp) h
    · exact contextOf?_mono (fun _ _ _ hp => hsame.symm ▸ hp) h
  have hmembers (ctx : NativeId) (kind : ResourceKind) :
      g.members ctx kind = f.members ctx kind := by
    simp only [members, hsame, hctx]
  constructor
  case population =>
    intro ctx c kind limit hc hlimit
    rw [population_eq, hmembers, ← population_eq]
    exact hl.population kind (hcontexts hc) hlimit
  case admitted =>
    intro kind id o ctx c ho hbelongs hc
    rw [hsame] at ho
    rw [hctx] at hbelongs
    exact hl.admitted ho hbelongs (hcontexts hc)

/-! ## One object less -/

/-- Removing an object keeps the limits, for no population grows. -/
theorem Limited.removes (hl : f.Limited) (hf : f.Sound) (hrem : f.Removes g o id) :
    g.Limited := by
  have hold {kind id' o'} (ho : g.object? kind id' = some o') : f.object? kind id' = some o' :=
    (hrem.object_cases ho).2
  have hctx {o' : Object} {ctx : NativeId} (h : g.contextOf? o' = some ctx) :
      f.contextOf? o' = some ctx := contextOf?_mono (fun _ _ _ hp => hold hp) h
  have hcontexts {id : NativeId} {c : Context} (hc : g.contexts.find? id = some c) :
      f.contexts.find? id = some c := find_context.2 (hold (find_context.1 hc))
  constructor
  case population =>
    intro ctx c kind limit hc hlimit
    have hsub : g.members ctx kind ⊆ f.members ctx kind := by
      rintro id' ⟨o', ho', hbelongs⟩
      exact ⟨o', hold ho', hctx hbelongs⟩
    exact (population_le hf hsub).trans (hl.population kind (hcontexts hc) hlimit)
  case admitted =>
    intro kind id' o' ctx c ho hbelongs hc
    exact hl.admitted (hold ho) (hctx hbelongs) (hcontexts hc)

/-! ## One object more -/

section Adding

variable (hf : f.Sound) (hadd : f.Adds g o) (hsup : f.Supports o)

include hf hadd

/-- What was supported belongs where it belonged. -/
theorem Adds.contextOf? {o' : Object} (hsup' : f.Supports o') :
    g.contextOf? o' = f.contextOf? o' := by
  obtain ⟨_, hrefs⟩ := hsup'
  have hkeep (pd : NativeId) (hmem : (.protectionDomain, pd) ∈ o'.references)
      (p : ProtectionDomain) (hp : g.object? .protectionDomain pd = some (.pd p)) :
      f.object? .protectionDomain pd = some (.pd p) := by
    cases hrefs _ hmem with
    | @pd _ p' hp' =>
        have hsame := (hadd.object_old hf hp').symm.trans hp
        rwa [← Option.some.inj hsame]
  refine Option.ext fun ctx => ⟨fun h => ?_, fun h => ?_⟩
  · exact contextOf?_mono (fun pd p hmem hp => hkeep pd hmem p hp) h
  · exact contextOf?_mono (fun _ _ _ hp => hadd.object_old hf hp) h

include hsup

/-- A member is the new object or was one before. -/
theorem Adds.mem_members (hmem : id ∈ g.members ctx kind) :
    (id = f.nextId ∧ kind = o.kind ∧ f.contextOf? o = some ctx) ∨ id ∈ f.members ctx kind := by
  obtain ⟨o', ho', hbelongs⟩ := hmem
  rcases hadd.object_cases ho' with ⟨hkind, hid, rfl⟩ | hold
  · rw [hadd.contextOf? hf hsup] at hbelongs
    exact .inl ⟨hid, hkind, hbelongs⟩
  · rw [hadd.contextOf? hf (hf.supported hold)] at hbelongs
    exact .inr ⟨o', hold, hbelongs⟩

/-- Nothing belongs to an identity that was not given out. -/
theorem Adds.population_next (hkind : o.kind = .context) :
    g.population f.nextId kind = 0 := by
  have hempty : g.members f.nextId kind = ∅ := by
    refine Set.eq_empty_of_forall_notMem fun id hmem => ?_
    rcases hadd.mem_members hf hsup hmem with ⟨-, -, hbelongs⟩ | ⟨o', ho', hbelongs⟩
    · cases o with
      | context => cases hbelongs
      | _ => cases hkind
    · obtain ⟨c, hc⟩ := (hf.supported ho').owner hf hbelongs
      exact absurd (hf.below (find_context.1 hc)).2 (Nat.lt_irrefl _)
  rw [population_eq, hempty, Set.ncard_empty]

theorem Adds.population_le_succ :
    g.population ctx kind ≤ f.population ctx kind + 1 := by
  refine Fabric.population_le_succ f.nextId hf fun id hmem => ?_
  rcases hadd.mem_members hf hsup hmem with ⟨rfl, -⟩ | hold
  · exact Set.mem_insert _ _
  · exact Set.mem_insert_of_mem _ hold

/-- Only the kind and the context of the new object are affected. -/
theorem Adds.population_le (hother : ¬ (kind = o.kind ∧ f.contextOf? o = some ctx)) :
    g.population ctx kind ≤ f.population ctx kind := by
  refine Fabric.population_le hf fun id hmem => ?_
  rcases hadd.mem_members hf hsup hmem with ⟨-, hkind, hbelongs⟩ | hold
  · exact absurd ⟨hkind, hbelongs⟩ hother
  · exact hold

/-- What is created under the checks is within the limits, and so is the rest still. -/
theorem Limited.adds (hl : f.Limited) (hadmits : f.Admits o) : g.Limited := by
  constructor
  case population =>
    intro ctx c kind limit hc hlimit
    rcases hadd.object_cases (find_context.1 hc) with ⟨hkind, rfl, -⟩ | hold
    · rw [hadd.population_next hf hsup hkind.symm]
      exact Nat.zero_le _
    · have hc := find_context.2 hold
      have hbefore := hl.population kind hc hlimit
      by_cases hnew : kind = o.kind ∧ f.contextOf? o = some ctx
      · obtain ⟨rfl, hbelongs⟩ := hnew
        have hroom := (hadmits ctx c hbelongs hc).2 limit hlimit
        exact Nat.le_trans (hadd.population_le_succ hf hsup) hroom
      · exact Nat.le_trans (hadd.population_le hf hsup hnew) hbefore
  case admitted =>
    intro kind id o' ctx c ho hbelongs hc
    have hsup' : f.Supports o' := by
      rcases hadd.object_cases ho with ⟨-, -, rfl⟩ | hold
      · exact hsup
      · exact hf.supported hold
    rw [hadd.contextOf? hf hsup'] at hbelongs
    -- the context is an old one, for what belongs to it was supported
    obtain ⟨c', hc'⟩ := hsup'.owner hf hbelongs
    have hsame := (hadd.object_old hf (find_context.1 hc')).symm.trans (find_context.1 hc)
    obtain rfl := Object.context.inj (Option.some.inj hsame)
    rcases hadd.object_cases ho with ⟨-, -, rfl⟩ | hold
    · exact (hadmits ctx c' hbelongs hc').1
    · exact hl.admitted hold hbelongs hc'

end Adding

end Fabric

end Rdma
