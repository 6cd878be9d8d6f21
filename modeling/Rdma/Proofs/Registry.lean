import Mathlib.Algebra.Group.Nat.Defs
import Rdma.Registry

/-!
# What the registry does

Every operation of the registry by what it does to look-ups. A handle tells its kind, and handles of
fewer than 2^56 sequence numbers are all different. Issuing and revoking a handle change the dependent
counts by the mentions that its parents gain or lose, so that the counts are the mentions, modulo 2^64
(`Counted`).

* `compose_inj` — handles do not come up twice;
* `find?_insert`, `find?_remove` — the entries;
* `Counted.insert`, `Counted.remove` — the counts never drift.
-/

namespace Rdma

/-! ## Handles -/

namespace Handle

theorem kind?_compose (kind : ResourceKind) (sequence : Nat) :
    (compose kind sequence).kind? = some kind := by
  have hmask : sequenceMask >>> 56 = 0 := by decide
  have htag : (kind.tag <<< 56) >>> 56 = kind.tag := by cases kind <;> decide
  have hshift : (compose kind sequence).raw >>> 56 = kind.tag := by
    simp only [compose, UInt64.shiftRight_or, UInt64.shiftRight_and, hmask, htag, UInt64.and_zero,
      UInt64.or_zero]
  rw [kind?, hshift, ResourceKind.ofTag?_tag]

theorem sequence_compose (kind : ResourceKind) {sequence : Nat} (hs : sequence < 2 ^ 56) :
    (compose kind sequence).sequence.toNat = sequence := by
  have htag : (kind.tag <<< 56).toNat &&& sequenceMask.toNat = 0 := by cases kind <;> decide
  have hmask : sequenceMask.toNat = 2 ^ 56 - 1 := rfl
  simp only [compose, Handle.sequence, UInt64.toNat_and, UInt64.toNat_or,
    Nat.and_or_distrib_right, htag, Nat.zero_or, Nat.and_assoc, Nat.and_self]
  rw [hmask, Nat.and_two_pow_sub_one_eq_mod, UInt64.toNat_ofNat']
  omega

/-- Handles of sequence numbers below 2^56 are different if kinds or numbers are. -/
theorem compose_inj {kind kind' : ResourceKind} {sequence sequence' : Nat}
    (hs : sequence < 2 ^ 56) (hs' : sequence' < 2 ^ 56)
    (heq : compose kind sequence = compose kind' sequence') :
    kind = kind' ∧ sequence = sequence' := by
  constructor
  · have hkind := kind?_compose kind sequence
    rw [heq, kind?_compose] at hkind
    exact (Option.some.inj hkind).symm
  · rw [← sequence_compose kind hs, heq, sequence_compose kind' hs']

theorem isNull_compose (kind : ResourceKind) (sequence : Nat) :
    (compose kind sequence).isNull = false := by
  have hnull : kind? null = none := rfl
  refine Bool.eq_false_iff.2 fun h => ?_
  have heq : compose kind sequence = null := congrArg Handle.mk (of_decide_eq_true h)
  have hkind := kind?_compose kind sequence
  rw [heq, hnull] at hkind
  cases hkind

end Handle

/-! ## Look-ups -/

namespace Registry

variable {r : Registry} {handle : Handle} {entry : Entry}

/-- Recounting changes the count of a handle once for each time it is listed. -/
theorem find?_recount (f : UInt64 → UInt64) (entries : Table Handle Entry) (handles : List Handle)
    (h : Handle) :
    (recount f entries handles).find? h = (entries.find? h).map fun e =>
      { e with dependents := Nat.repeat f (handles.count h) e.dependents } := by
  induction handles generalizing entries with
  | nil => simp [recount, Nat.repeat]
  | cons p rest ih =>
      have hstep : recount f entries (p :: rest) =
          recount f (entries.modify p fun e => { e with dependents := f e.dependents }) rest := rfl
      have hrepeat (n : Nat) (x : UInt64) : Nat.repeat f n (f x) = Nat.repeat f (n + 1) x := by
        induction n with
        | zero => rfl
        | succ n ih => rw [Nat.repeat, ih]; rfl
      rw [hstep, ih, Table.find?_modify]
      by_cases hp : h = p
      · subst hp
        cases entries.find? h <;> simp [hrepeat]
      · have hp' : ¬ p = h := fun heq => hp heq.symm
        simp [hp, hp']

theorem repeat_succ (n : Nat) (x : UInt64) : Nat.repeat (· + 1) n x = x + UInt64.ofNat n := by
  induction n with
  | zero => simp [Nat.repeat]
  | succ n ih => rw [Nat.repeat, ih, UInt64.ofNat_add, UInt64.add_assoc]; rfl

theorem repeat_pred (n : Nat) (x : UInt64) : Nat.repeat (· - 1) n x = x - UInt64.ofNat n := by
  induction n with
  | zero => simp [Nat.repeat]
  | succ n ih => rw [Nat.repeat, ih, UInt64.ofNat_add]; grind

/-- The entry of a handle just issued is new, and its parents gain a dependent for each mention. -/
theorem find?_insert (r : Registry) (kind : ResourceKind) (native : NativeId)
    (parents : List Handle) (h : Handle) :
    (r.insert kind native parents).2.entries.find? h =
      if h = Handle.compose kind r.nextSequence then
        some { native, parents := parents.filter (!·.isNull) }
      else (r.entries.find? h).map fun e =>
        { e with
          dependents := e.dependents + UInt64.ofNat ((parents.filter (!·.isNull)).count h) } := by
  simp only [insert, Table.find?_insert, find?_recount, repeat_succ]

/-- The entry of a handle just revoked is gone, and its parents lose a dependent for each mention. -/
theorem find?_remove (hentry : r.entries.find? handle = some entry) (h : Handle) :
    (r.remove handle).2.entries.find? h =
      if h = handle then none
      else (r.entries.find? h).map fun e =>
        { e with dependents := e.dependents - UInt64.ofNat (entry.parents.count h) } := by
  simp only [remove, hentry, find?_recount, repeat_pred, Table.find?_erase]
  split <;> rfl

theorem nextSequence_remove (r : Registry) (handle : Handle) :
    (r.remove handle).2.nextSequence = r.nextSequence := by
  unfold remove
  split <;> rfl

theorem resolve_eq_some {kind : ResourceKind} {id : NativeId} :
    r.resolve handle kind = some id ↔
      handle.kind? = some kind ∧
        ∃ entry, r.entries.find? handle = some entry ∧ entry.native = id := by
  simp only [resolve]
  split <;> simp [*]

/-- A handle resolves as one kind only, and to one native identity. -/
theorem resolve_inj {kind kind' : ResourceKind} {id id' : NativeId}
    (hr : r.resolve handle kind = some id) (hr' : r.resolve handle kind' = some id') :
    kind = kind' ∧ id = id' := by
  obtain ⟨hkind, entry, hentry, rfl⟩ := resolve_eq_some.1 hr
  obtain ⟨hkind', entry', hentry', rfl⟩ := resolve_eq_some.1 hr'
  obtain rfl := Option.some.inj (hentry.symm.trans hentry')
  exact ⟨Option.some.inj (hkind.symm.trans hkind'), rfl⟩

/-- The parents are on record as they were given, but for null handles. -/
theorem parents_insert (r : Registry) (kind : ResourceKind) (native : NativeId)
    (parents : List Handle) (h : Handle) :
    (r.insert kind native parents).2.parents h =
      if h = Handle.compose kind r.nextSequence then parents.filter (!·.isNull)
      else r.parents h := by
  simp only [Registry.parents, find?_insert]
  split
  · rfl
  · simp [Option.map_map, Function.comp_def]

theorem resolve_insert (r : Registry) (kind : ResourceKind) (native : NativeId)
    (parents : List Handle) (h : Handle) (kind' : ResourceKind) :
    (r.insert kind native parents).2.resolve h kind' =
      if h = Handle.compose kind r.nextSequence then if kind = kind' then some native else none
      else r.resolve h kind' := by
  by_cases hnew : h = Handle.compose kind r.nextSequence
  · subst hnew
    simp [resolve, find?_insert, Handle.kind?_compose]
  · simp [resolve, find?_insert, hnew, Option.map_map, Function.comp_def]

theorem lookup_insert (r : Registry) (kind : ResourceKind) (native : NativeId)
    (parents : List Handle) (kind' : ResourceKind) (id : NativeId) :
    (r.insert kind native parents).2.lookup kind' id =
      if kind' = kind ∧ id = native then some (Handle.compose kind r.nextSequence)
      else r.lookup kind' id := by
  simp [lookup, insert, Prod.ext_iff]

theorem parents_remove (hentry : r.entries.find? handle = some entry) (h : Handle) :
    (r.remove handle).2.parents h = if h = handle then [] else r.parents h := by
  simp only [Registry.parents, find?_remove hentry]
  split
  · rfl
  · simp [Option.map_map, Function.comp_def]

theorem resolve_remove (hentry : r.entries.find? handle = some entry) (h : Handle)
    (kind : ResourceKind) :
    (r.remove handle).2.resolve h kind = if h = handle then none else r.resolve h kind := by
  by_cases hgone : h = handle
  · simp [resolve, find?_remove hentry, hgone]
  · simp [resolve, find?_remove hentry, hgone, Option.map_map, Function.comp_def]

/-- Revoking the handle that a native identity leads back to drops that way back. -/
theorem lookup_remove {kind : ResourceKind} (hkind : handle.kind? = some kind)
    (hentry : r.entries.find? handle = some entry)
    (hback : r.lookup kind entry.native = some handle) (kind' : ResourceKind) (id : NativeId) :
    (r.remove handle).2.lookup kind' id =
      if kind' = kind ∧ id = entry.native then none else r.lookup kind' id := by
  have hfound : r.reverse.find? (kind, entry.native) = some handle := hback
  simp [lookup, remove, hentry, forget, hkind, hfound, Prod.ext_iff]

/-! ## Mentions -/

/-- How often live handles name a handle as a parent. -/
def mentions (r : Registry) (h : Handle) : Nat := r.entries.total (·.parents.count h)

/-- The dependent counts are the mentions, as far as 64 bits hold them. -/
def Counted (r : Registry) : Prop :=
  ∀ h e, r.entries.find? h = some e → e.dependents = UInt64.ofNat (r.mentions h)

theorem mentions_pos {h : Handle} :
    0 < r.mentions h ↔ ∃ h' e, r.entries.find? h' = some e ∧ h ∈ e.parents := by
  simp [mentions, Table.total_pos, List.count_pos_iff]

/-- Recounting changes no weight that does not look at the count. -/
theorem total_recount (f : UInt64 → UInt64) (entries : Table Handle Entry) (handles : List Handle)
    {weight : Entry → Nat} (hweight : ∀ e n, weight { e with dependents := n } = weight e) :
    (recount f entries handles).total weight = entries.total weight := by
  induction handles generalizing entries with
  | nil => rfl
  | cons p rest ih =>
      exact (ih _).trans (Table.total_modify_same entries p fun e => hweight e (f e.dependents))

/-- A handle that is not live adds its own weight when it is issued. -/
theorem total_insert {kind : ResourceKind} {native : NativeId} {parents : List Handle}
    (habsent : r.entries.find? (Handle.compose kind r.nextSequence) = none)
    {weight : Entry → Nat} (hweight : ∀ e n, weight { e with dependents := n } = weight e) :
    (r.insert kind native parents).2.entries.total weight =
      r.entries.total weight + weight { native, parents := parents.filter (!·.isNull) } := by
  have habsent' : (recount (· + 1) r.entries (parents.filter (!·.isNull))).find?
      (Handle.compose kind r.nextSequence) = none := by rw [find?_recount, habsent]; rfl
  simp only [insert]
  rw [Table.total_insert habsent', total_recount _ _ _ hweight]

/-- A live handle takes its own weight with it when it is revoked. -/
theorem total_remove (hentry : r.entries.find? handle = some entry) {weight : Entry → Nat}
    (hweight : ∀ e n, weight { e with dependents := n } = weight e) :
    (r.remove handle).2.entries.total weight + weight entry = r.entries.total weight := by
  simp only [remove, hentry]
  rw [total_recount _ _ _ hweight, Table.total_erase hentry]

theorem Counted.insert (hr : r.Counted) {kind : ResourceKind} {native : NativeId}
    {parents : List Handle}
    (habsent : r.entries.find? (Handle.compose kind r.nextSequence) = none)
    (hunnamed : r.mentions (Handle.compose kind r.nextSequence) = 0)
    (hself : Handle.compose kind r.nextSequence ∉ parents) :
    (r.insert kind native parents).2.Counted := by
  intro h e he
  rw [mentions, total_insert habsent fun _ _ => rfl, ← mentions]
  rw [find?_insert] at he
  split at he
  case isTrue hnew =>
    -- the new handle starts at zero, and nothing names it
    have hnone : (parents.filter (!·.isNull)).count h = 0 :=
      List.count_eq_zero.2 fun hmem => hself (hnew ▸ (List.mem_filter.1 hmem).1)
    obtain rfl := Option.some.inj he
    rw [hnew, hunnamed, ← hnew, hnone]
    rfl
  case isFalse =>
    obtain ⟨e₀, he₀, rfl⟩ := Option.map_eq_some_iff.1 he
    simp only [hr h e₀ he₀, UInt64.ofNat_add]

theorem Counted.remove (hr : r.Counted) (hentry : r.entries.find? handle = some entry) :
    (r.remove handle).2.Counted := by
  intro h e he
  have htotal : (r.remove handle).2.mentions h + entry.parents.count h = r.mentions h :=
    total_remove hentry fun _ _ => rfl
  rw [find?_remove hentry] at he
  split at he
  case isTrue => cases he
  case isFalse =>
    obtain ⟨e₀, he₀, rfl⟩ := Option.map_eq_some_iff.1 he
    simp only [hr h e₀ he₀, ← htotal, UInt64.ofNat_add]
    grind

end Registry

end Rdma
