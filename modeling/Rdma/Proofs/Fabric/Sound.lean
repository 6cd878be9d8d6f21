import Rdma.Fabric.Devices
import Rdma.Fabric.Object
import Rdma.Proofs.Fabric.Numbers

/-!
# Sound fabrics

In a sound fabric all that an object refers to is there and belongs to one context, an identity
names one thing at most, and the table of queue pair numbers is the inverse of the queue pairs'
numbers. An operation adds one object that the fabric supports, removes one that nothing refers to,
attaches or detaches devices, or leaves all objects as they were created.

* `Adds.sound`, `Removes.sound` — one object more, one object less;
* `Sound.plug`, `Sound.unplug` — devices that come and go;
* `Sound.of_skeleton` — work that changes no object;
* `ofDevices_sound` — a fresh fabric is sound.
-/

namespace Rdma.Fabric

/-- All that the object refers to is there, and belongs to one context. -/
def Supports (f : Fabric) (o : Object) : Prop :=
  ∃ ctx, ∀ r ∈ o.references, f.Belongs r.1 r.2 ctx

/-- The number of a queue pair. -/
def Object.number? : Object → Option UInt32
  | .qp q => some q.number
  | _ => none

structure Sound (f : Fabric) : Prop where
  supported : ∀ {kind id o}, f.object? kind id = some o → f.Supports o
  oneKind : ∀ {kind kind' id o o'}, f.object? kind id = some o → f.object? kind' id = some o' →
    kind = kind'
  below : ∀ {kind id o}, f.object? kind id = some o → 0 < id ∧ id < f.nextId
  numbered : ∀ number id, f.qpNumbers.find? number = some id ↔
    ∃ q, f.object? .queuePair id = some (.qp q) ∧ q.number = number
  devices : (f.devices.map (·.uid)).Nodup
  apart : ∀ d ∈ f.devices, d.uid < f.nextId ∧ ∀ kind, f.object? kind d.uid = none
  started : 0 < f.nextId
  candidate : IsQpNumber f.nextQpNumber

/-- `g` is `f` and the object, under the next identity. -/
structure Adds (f g : Fabric) (o : Object) : Prop where
  objects : ∀ kind id, g.object? kind id =
    if kind = o.kind ∧ id = f.nextId then some o else f.object? kind id
  numbers : ∀ number, g.qpNumbers.find? number =
    if o.number? = some number then some f.nextId else f.qpNumbers.find? number
  free : ∀ number, o.number? = some number → f.qpNumbers.find? number = none
  candidate : IsQpNumber f.nextQpNumber → IsQpNumber g.nextQpNumber
  nextId : g.nextId = f.nextId + 1
  devices : g.devices = f.devices

/-- `g` is `f` without the object, which had the identity `id`. -/
structure Removes (f g : Fabric) (o : Object) (id : NativeId) : Prop where
  present : f.object? o.kind id = some o
  objects : ∀ kind' id', g.object? kind' id' =
    if kind' = o.kind ∧ id' = id then none else f.object? kind' id'
  numbers : ∀ number, g.qpNumbers.find? number =
    if o.number? = some number then none else f.qpNumbers.find? number
  nextQpNumber : g.nextQpNumber = f.nextQpNumber
  nextId : g.nextId = f.nextId
  devices : g.devices = f.devices

variable {f g : Fabric} {o : Object} {id : NativeId}

/-! ## Work -/

/-- Soundness does not show work either. -/
theorem Sound.of_skeleton (hf : f.Sound) (hsame : g.skeleton = f.skeleton) : g.Sound := by
  have hobject := object?_congr hsame
  have hnumbers : g.qpNumbers = f.qpNumbers := congrArg (·.qpNumbers) hsame
  have hnext : g.nextId = f.nextId := congrArg (·.nextId) hsame
  have hdevices : g.devices = f.devices := congrArg (·.devices) hsame
  have hcandidate : g.nextQpNumber = f.nextQpNumber := congrArg (·.nextQpNumber) hsame
  have hbelongs {kind id ctx} (hb : f.Belongs kind id ctx) : g.Belongs kind id ctx := by
    cases hb with
    | context ho => exact .context (by rwa [hobject])
    | pd ho => exact .pd (by rwa [hobject])
    | channel ho => exact .channel (by rwa [hobject])
    | cq ho => exact .cq (by rwa [hobject])
    | region ho hp => exact .region (by rwa [hobject]) (by rwa [hobject])
    | srq ho hp => exact .srq (by rwa [hobject]) (by rwa [hobject])
    | qp ho hp => exact .qp (by rwa [hobject]) (by rwa [hobject])
  constructor
  case supported =>
    intro kind id o ho
    rw [hobject] at ho
    obtain ⟨ctx, hrefs⟩ := hf.supported ho
    exact ⟨ctx, fun r hr => hbelongs (hrefs r hr)⟩
  case oneKind => rw [hobject]; exact hf.oneKind
  case below => rw [hobject, hnext]; exact hf.below
  case numbered => rw [hobject, hnumbers]; exact hf.numbered
  case devices => rw [hdevices]; exact hf.devices
  case apart => rw [hobject, hnext, hdevices]; exact hf.apart
  case started => rw [hnext]; exact hf.started
  case candidate => rw [hcandidate]; exact hf.candidate

/-! ## One object more -/

theorem Sound.next_free (hf : f.Sound) (kind : ResourceKind) : f.object? kind f.nextId = none := by
  cases ho : f.object? kind f.nextId with
  | none => rfl
  | some o => exact absurd (hf.below ho).2 (Nat.lt_irrefl _)

/-- What belongs to a context still does when objects are added. -/
theorem Belongs.mono {kind : ResourceKind} {id ctx : NativeId} (hb : f.Belongs kind id ctx)
    (hkeep : ∀ {kind id o}, f.object? kind id = some o → g.object? kind id = some o) :
    g.Belongs kind id ctx := by
  cases hb with
  | context ho => exact .context (hkeep ho)
  | pd ho => exact .pd (hkeep ho)
  | channel ho => exact .channel (hkeep ho)
  | cq ho => exact .cq (hkeep ho)
  | region ho hp => exact .region (hkeep ho) (hkeep hp)
  | srq ho hp => exact .srq (hkeep ho) (hkeep hp)
  | qp ho hp => exact .qp (hkeep ho) (hkeep hp)

theorem Supports.mono (hs : f.Supports o)
    (hkeep : ∀ {kind id o}, f.object? kind id = some o → g.object? kind id = some o) :
    g.Supports o := by
  obtain ⟨ctx, hrefs⟩ := hs
  exact ⟨ctx, fun r hr => (hrefs r hr).mono hkeep⟩

/-- The new object is found under its identity. -/
theorem Adds.object_new (hadd : f.Adds g o) : g.object? o.kind f.nextId = some o := by
  rw [hadd.objects, if_pos ⟨rfl, rfl⟩]

/-- The old objects are found where they were. -/
theorem Adds.object_old (hadd : f.Adds g o) (hf : f.Sound) {kind : ResourceKind} {id : NativeId}
    {o' : Object} (ho : f.object? kind id = some o') : g.object? kind id = some o' := by
  rw [hadd.objects, if_neg ?_, ho]
  rintro ⟨-, rfl⟩
  simp [hf.next_free] at ho

/-- What is found is the new object or an old one. -/
theorem Adds.object_cases (hadd : f.Adds g o) {kind : ResourceKind} {id : NativeId} {o' : Object}
    (ho : g.object? kind id = some o') :
    (kind = o.kind ∧ id = f.nextId ∧ o' = o) ∨ f.object? kind id = some o' := by
  rw [hadd.objects] at ho
  split at ho
  case isTrue hnew => exact .inl ⟨hnew.1, hnew.2, (Option.some.inj ho).symm⟩
  case isFalse => exact .inr ho

/-- Adding an object that finds what it refers to keeps the fabric sound. -/
theorem Adds.sound (hadd : f.Adds g o) (hsup : f.Supports o) (hf : f.Sound) : g.Sound := by
  have hkeep {kind id o'} (ho : f.object? kind id = some o') : g.object? kind id = some o' :=
    hadd.object_old hf ho
  have hnext := hadd.nextId
  constructor
  case supported =>
    intro kind id o' ho
    rcases hadd.object_cases ho with ⟨-, -, rfl⟩ | ho
    · exact hsup.mono hkeep
    · exact (hf.supported ho).mono hkeep
  case oneKind =>
    intro kind kind' id o₁ o₂ h₁ h₂
    -- both are the new object, one of them is, or both are old
    rcases hadd.object_cases h₁ with ⟨rfl, rfl, -⟩ | h₁ <;>
      rcases hadd.object_cases h₂ with ⟨rfl, hid, -⟩ | h₂
    · rfl
    · simp [hf.next_free] at h₂
    · simp [hid, hf.next_free] at h₁
    · exact hf.oneKind h₁ h₂
  case below =>
    intro kind id o' ho
    rcases hadd.object_cases ho with ⟨-, rfl, -⟩ | ho
    · exact ⟨hf.started, hnext ▸ Nat.lt_succ_self _⟩
    · obtain ⟨hpos, hlt⟩ := hf.below ho
      exact ⟨hpos, hnext ▸ Nat.lt_succ_of_lt hlt⟩
  case numbered =>
    intro number id
    rw [hadd.numbers]
    by_cases hn : o.number? = some number
    · obtain ⟨q, rfl, rfl⟩ : ∃ q, o = .qp q ∧ q.number = number := by
        cases o <;> simp_all [Object.number?]
      rw [if_pos hn]
      constructor
      · rintro ⟨⟩
        exact ⟨q, hadd.object_new, rfl⟩
      · rintro ⟨q', ho, hnumber⟩
        rcases hadd.object_cases ho with ⟨-, rfl, -⟩ | ho
        · rfl
        -- an old queue pair with the number would be in the table
        · have hused := (hf.numbered _ _).2 ⟨q', ho, hnumber⟩
          simp [hadd.free _ hn] at hused
    · rw [if_neg hn, hf.numbered]
      constructor
      · rintro ⟨q, ho, hnumber⟩
        exact ⟨q, hkeep ho, hnumber⟩
      · rintro ⟨q, ho, hnumber⟩
        rcases hadd.object_cases ho with ⟨-, -, rfl⟩ | ho
        · exact absurd (congrArg some hnumber) hn
        · exact ⟨q, ho, hnumber⟩
  case devices => rw [hadd.devices]; exact hf.devices
  case apart =>
    intro d hd
    rw [hadd.devices] at hd
    obtain ⟨hlt, hnone⟩ := hf.apart d hd
    refine ⟨hnext ▸ Nat.lt_succ_of_lt hlt, fun kind => ?_⟩
    rw [hadd.objects, if_neg fun hnew => Nat.ne_of_lt hlt hnew.2, hnone]
  case started => rw [hnext]; exact Nat.succ_pos _
  case candidate => exact hadd.candidate hf.candidate

/-! ## One object less -/

theorem Removes.object_old (hrem : f.Removes g o id) {kind' : ResourceKind} {id' : NativeId}
    {o' : Object} (ho : f.object? kind' id' = some o') (hne : ¬ (kind' = o.kind ∧ id' = id)) :
    g.object? kind' id' = some o' := by
  rw [hrem.objects, if_neg hne, ho]

theorem Removes.object_cases (hrem : f.Removes g o id) {kind' : ResourceKind} {id' : NativeId}
    {o' : Object} (ho : g.object? kind' id' = some o') :
    ¬ (kind' = o.kind ∧ id' = id) ∧ f.object? kind' id' = some o' := by
  rw [hrem.objects] at ho
  split at ho
  case isTrue => cases ho
  case isFalse hne => exact ⟨hne, ho⟩

/-- What an object refers to is not what nothing refers to. -/
theorem ne_of_mem_references (hunused : ¬ f.Referenced o.kind id) {kind' : ResourceKind}
    {id' : NativeId} {o' : Object} (ho : f.object? kind' id' = some o')
    {r : ResourceKind × NativeId} (hr : r ∈ o'.references) : ¬ (r.1 = o.kind ∧ r.2 = id) := by
  rintro ⟨hkind, hid⟩
  have hself : (o.kind, id) ∈ o'.references := by rwa [← hkind, ← hid]
  exact hunused ⟨kind', id', o', ho, hself⟩

section Unreferenced

variable (hrem : f.Removes g o id) (hunused : ¬ f.Referenced o.kind id)

include hrem hunused

/-- What an object refers to is still there. -/
theorem Removes.reference_old {kind' : ResourceKind} {id' : NativeId} {o' : Object}
    (ho : f.object? kind' id' = some o') {r : ResourceKind × NativeId} (hr : r ∈ o'.references)
    {referent : Object} (hreferent : f.object? r.1 r.2 = some referent) :
    g.object? r.1 r.2 = some referent :=
  hrem.object_old hreferent (ne_of_mem_references hunused ho hr)

/-- What belongs to a context still does, unless it is the object itself. -/
theorem Removes.belongs_old {kind' : ResourceKind} {id' ctx : NativeId}
    (hb : f.Belongs kind' id' ctx) (hne : ¬ (kind' = o.kind ∧ id' = id)) :
    g.Belongs kind' id' ctx := by
  -- the domain that an object belongs through is referred to, so it is not the one that goes
  have hpd {kind' id' o' pd p} (ho : f.object? kind' id' = some o')
      (hr : (.protectionDomain, pd) ∈ o'.references)
      (hp : f.object? .protectionDomain pd = some (.pd p)) :
      g.object? .protectionDomain pd = some (.pd p) := hrem.reference_old hunused ho hr hp
  cases hb with
  | context ho => exact .context (hrem.object_old ho hne)
  | pd ho => exact .pd (hrem.object_old ho hne)
  | channel ho => exact .channel (hrem.object_old ho hne)
  | cq ho => exact .cq (hrem.object_old ho hne)
  | region ho hp =>
      exact .region (hrem.object_old ho hne) (hpd ho (by simp [Object.references]) hp)
  | srq ho hp => exact .srq (hrem.object_old ho hne) (hpd ho (by simp [Object.references]) hp)
  | qp ho hp => exact .qp (hrem.object_old ho hne) (hpd ho (by simp [Object.references]) hp)

/-- Removing an object that nothing refers to keeps the fabric sound. -/
theorem Removes.sound (hf : f.Sound) : g.Sound := by
  constructor
  case supported =>
    intro kind' id' o' ho
    obtain ⟨-, ho⟩ := hrem.object_cases ho
    obtain ⟨ctx, hrefs⟩ := hf.supported ho
    exact ⟨ctx, fun r hr =>
      hrem.belongs_old hunused (hrefs r hr) (ne_of_mem_references hunused ho hr)⟩
  case oneKind =>
    exact fun h₁ h₂ => hf.oneKind (hrem.object_cases h₁).2 (hrem.object_cases h₂).2
  case below => rw [hrem.nextId]; exact fun ho => hf.below (hrem.object_cases ho).2
  case numbered =>
    intro number id'
    rw [hrem.numbers]
    by_cases hn : o.number? = some number
    · obtain ⟨q, rfl, rfl⟩ : ∃ q, o = .qp q ∧ q.number = number := by
        cases o <;> simp_all [Object.number?]
      rw [if_pos hn]
      refine ⟨by simp, ?_⟩
      rintro ⟨q', ho, hnumber⟩
      obtain ⟨hne, ho⟩ := hrem.object_cases ho
      -- the two queue pairs of one number are one
      have hother := (hf.numbered _ _).2 ⟨q', ho, hnumber⟩
      have hself := (hf.numbered _ _).2 ⟨q, hrem.present, rfl⟩
      rw [hother] at hself
      exact absurd ⟨rfl, Option.some.inj hself⟩ hne
    · rw [if_neg hn, hf.numbered]
      constructor
      · rintro ⟨q, ho, hnumber⟩
        refine ⟨q, hrem.object_old ho ?_, hnumber⟩
        rintro ⟨hkind, rfl⟩
        have hsame : o = .qp q := Option.some.inj (hrem.present.symm.trans (hkind ▸ ho))
        exact hn (by rw [hsame, ← hnumber]; rfl)
      · rintro ⟨q, ho, hnumber⟩
        exact ⟨q, (hrem.object_cases ho).2, hnumber⟩
  case devices => rw [hrem.devices]; exact hf.devices
  case apart =>
    intro d hd
    rw [hrem.devices] at hd
    obtain ⟨hlt, hnone⟩ := hf.apart d hd
    refine ⟨by rwa [hrem.nextId], fun kind => ?_⟩
    rw [hrem.objects, hnone, ite_self]
  case started => rw [hrem.nextId]; exact hf.started
  case candidate => rw [hrem.nextQpNumber]; exact hf.candidate

end Unreferenced

/-! ## Devices -/

/-- Plugging a device in touches no object. -/
theorem Sound.plug (hf : f.Sound) (device : DeviceConfig) : (f.plug device).Sound := by
  have hobject : (f.plug device).object? = f.object? := by
    funext kind id
    cases kind <;> rfl
  constructor
  case supported =>
    intro kind id o ho
    rw [hobject] at ho
    exact (hf.supported ho).mono fun ho => by rwa [hobject]
  case oneKind => rw [hobject]; exact hf.oneKind
  case below =>
    intro kind id o ho
    rw [hobject] at ho
    obtain ⟨hpos, hlt⟩ := hf.below ho
    exact ⟨hpos, Nat.lt_succ_of_lt hlt⟩
  case numbered => rw [hobject]; exact hf.numbered
  case devices =>
    -- devices and objects take their identities from one counter
    have hfresh : f.nextId ∉ f.devices.map (·.uid) := fun hmem => by
      obtain ⟨d, hd, huid⟩ := List.mem_map.1 hmem
      exact absurd huid (Nat.ne_of_lt (hf.apart d hd).1)
    simp only [Fabric.plug, allocId, List.map_append, List.map_cons, List.map_nil]
    refine List.nodup_append.2 ⟨hf.devices, by simp, ?_⟩
    rintro uid hmem uid' hsingle rfl
    exact hfresh (List.mem_singleton.1 hsingle ▸ hmem)
  case apart =>
    intro d hd
    rcases List.mem_append.1 hd with hd | hd
    · obtain ⟨hlt, hnone⟩ := hf.apart d hd
      exact ⟨Nat.lt_succ_of_lt hlt, by rwa [hobject]⟩
    · obtain rfl := List.mem_singleton.1 hd
      exact ⟨Nat.lt_succ_self _, fun kind => by rw [hobject]; exact hf.next_free kind⟩
  case started => exact Nat.succ_pos _
  case candidate => exact hf.candidate

/-- Unplugging a device touches no object, not even a context that has it open. -/
theorem Sound.unplug (hf : f.Sound) (name : String) : (f.unplug name).Sound := by
  have hobject : (f.unplug name).object? = f.object? := by
    funext kind id
    cases kind <;> rfl
  constructor
  case supported =>
    intro kind id o ho
    rw [hobject] at ho
    exact (hf.supported ho).mono fun ho => by rwa [hobject]
  case oneKind => rw [hobject]; exact hf.oneKind
  case below => rw [hobject]; exact hf.below
  case numbered => rw [hobject]; exact hf.numbered
  case devices => exact hf.devices.sublist (List.filter_sublist.map _)
  case apart =>
    intro d hd
    rw [hobject]
    exact hf.apart d (List.mem_filter.1 hd).1
  case started => exact hf.started
  case candidate => exact hf.candidate

/-! ## A fresh fabric -/

theorem empty_sound : Sound {} := by
  have hobject (kind : ResourceKind) (id : NativeId) : ({} : Fabric).object? kind id = none := by
    cases kind <;> rfl
  constructor
  case supported => intro kind id o ho; simp [hobject] at ho
  case oneKind => intro kind kind' id o o' ho; simp [hobject] at ho
  case below => intro kind id o ho; simp [hobject] at ho
  case numbered =>
    intro number id
    constructor
    · intro hn
      change (Table.empty : Table UInt32 NativeId).find? number = some id at hn
      simp at hn
    · rintro ⟨q, ho, -⟩
      simp [hobject] at ho
  case devices => exact List.nodup_nil
  case apart => intro d hd; exact absurd hd List.not_mem_nil
  case started => exact Nat.one_pos
  case candidate => exact ⟨by decide, by decide⟩

/-- A fresh fabric has devices and no objects. -/
theorem ofDevices_eq (configs : List DeviceConfig) :
    ∃ devices nextId, ofDevices configs = { devices, nextId } := by
  have hplug (configs : List DeviceConfig) (devices : List Device) (nextId : NativeId) :
      ∃ devices' nextId', configs.foldl plug { devices, nextId } =
        { devices := devices', nextId := nextId' } := by
    induction configs generalizing devices nextId with
    | nil => exact ⟨devices, nextId, rfl⟩
    | cons config rest ih => exact ih (devices ++ [{ uid := nextId, config }]) (nextId + 1)
  exact hplug configs [] 1

/-- A fresh fabric is sound. -/
theorem ofDevices_sound (configs : List DeviceConfig) : (ofDevices configs).Sound := by
  have hplug (configs : List DeviceConfig) {f : Fabric} (hf : f.Sound) :
      (configs.foldl plug f).Sound := by
    induction configs generalizing f with
    | nil => exact hf
    | cons config rest ih => exact ih (hf.plug config)
  exact hplug configs empty_sound

end Rdma.Fabric
