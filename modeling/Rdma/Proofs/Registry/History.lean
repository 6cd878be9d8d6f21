import Mathlib.Data.List.Induction
import Mathlib.Data.List.Nodup
import Rdma.Proofs.Registry

/-!
# The history of a registry

A registry knows its live handles only. Its history is every handle that it issued, with what was said
of it then: the live ones are those that were not revoked since, and the latest for a native identity is
the first that is met, newest first. Both tables of the registry can be read off the history, in
whatever order handles come and go, because a handle that was revoked never comes up again.

* `Kept.insert`, `Kept.remove`, `history_kept` — what the registry knows of its history;
* `counts_exact` — parents, and the counts of dependents;
* `lookups_exact` — the way back from native identities.
-/

namespace Rdma.Registry

/-- Something that happens to a registry. -/
inductive Operation where
  | insert (kind : ResourceKind) (native : NativeId) (parents : List Handle)
  | remove (handle : Handle)
deriving Repr, DecidableEq

/-- A handle as it was issued. -/
structure Issue where
  handle : Handle
  kind : ResourceKind
  native : NativeId
  parents : List Handle
deriving Repr, DecidableEq

/-- The handle was issued for the native identity. -/
def Issue.isFor (kind : ResourceKind) (native : NativeId) (i : Issue) : Bool :=
  i.kind = kind && i.native = native

/-- A registry, the handles that it issued, and those of them that were not revoked since. Both lists
have the newest first. -/
structure History where
  registry : Registry := { entries := .empty, reverse := .empty }
  issued : List Issue := []
  live : List Issue := []
deriving DecidableEq

namespace History

def add (past : History) : Operation → History
  | .insert kind native parents =>
    let (handle, registry) := past.registry.insert kind native parents
    let issue : Issue := { handle, kind, native, parents }
    { registry, issued := issue :: past.issued, live := issue :: past.live }
  | .remove handle =>
    { past with
      registry := (past.registry.remove handle).2
      live := past.live.filter (·.handle ≠ handle) }

/-- The latest issue for a native identity. -/
def latest? (past : History) (kind : ResourceKind) (native : NativeId) : Option Issue :=
  past.issued.find? (·.isFor kind native)

/-- How often a handle is on record as a parent of live handles. -/
def mentions (past : History) (handle : Handle) : Nat :=
  addUp (fun i => (past.registry.parents i.handle).count handle) past.live

/-- No two live handles are of one kind and name one native identity. -/
def Apart (past : History) : Prop :=
  past.live.Pairwise fun i j => ¬ (i.kind = j.kind ∧ i.native = j.native)

end History

/-- What operations in a row do to an empty registry. -/
def history (ops : List Operation) : History := ops.foldl .add {}

/-- Of the issues, newest first, each lists as parents null handles and older ones only. -/
def Founded : List Issue → Prop
  | [] => True
  | i :: older => (∀ p ∈ i.parents, p.isNull = true ∨ ∃ j ∈ older, j.handle = p) ∧ Founded older

theorem history_concat (ops : List Operation) (op : Operation) :
    history (ops ++ [op]) = (history ops).add op := by
  rw [history, List.foldl_append]
  rfl

/-- The handle that is issued next is the latest for its native identity. -/
theorem History.latest?_insert (past : History) (kind : ResourceKind) (native : NativeId)
    (parents : List Handle) (kind' : ResourceKind) (native' : NativeId) :
    (past.add (.insert kind native parents)).latest? kind' native' =
      if kind' = kind ∧ native' = native then
        some { handle := .compose kind past.registry.nextSequence, kind, native, parents }
      else past.latest? kind' native' := by
  by_cases hsame : kind' = kind ∧ native' = native
  · obtain ⟨rfl, rfl⟩ := hsame
    rw [if_pos ⟨rfl, rfl⟩]
    exact List.find?_cons_of_pos (by simp [Issue.isFor])
  · have hother : ¬ ((decide (kind = kind') && decide (native = native')) = true) := by
      rw [Bool.and_eq_true, decide_eq_true_eq, decide_eq_true_eq]
      exact fun heq => hsame ⟨heq.1.symm, heq.2.symm⟩
    rw [if_neg hsame]
    exact List.find?_cons_of_neg hother

/-- A way back is dropped if it belongs to the handle. -/
theorem find?_forget {handle : Handle} {kind : ResourceKind} (hkind : handle.kind? = some kind)
    (reverse : Table (ResourceKind × NativeId) Handle) (native : NativeId)
    (key : ResourceKind × NativeId) :
    (forget reverse handle native).find? key =
      if key = (kind, native) ∧ reverse.find? key = some handle then none
      else reverse.find? key := by
  simp only [forget, hkind]
  by_cases hback : reverse.find? (kind, native) = some handle
  · rw [if_pos hback, Table.find?_erase]
    by_cases hkey : key = (kind, native)
    · rw [if_pos hkey, if_pos ⟨hkey, hkey ▸ hback⟩]
    · rw [if_neg hkey, if_neg fun hboth => hkey hboth.1]
  · rw [if_neg hback, if_neg]
    rintro ⟨rfl, hfound⟩
    exact hback hfound

/-! ## Lists of issues -/

section Issues

variable {i : Issue} {issues : List Issue}

/-- A handle that is struck out takes its own weight with it. -/
theorem addUp_strike (hdistinct : (issues.map (·.handle)).Nodup) (hi : i ∈ issues)
    (weight : Issue → Nat) :
    addUp weight (issues.filter (·.handle ≠ i.handle)) + weight i = addUp weight issues := by
  induction issues with
  | nil => cases hi
  | cons k rest ih =>
      obtain ⟨habsent, hrest⟩ := List.nodup_cons.1 hdistinct
      rcases List.mem_cons.1 hi with rfl | hi
      · have hkept : rest.filter (·.handle ≠ i.handle) = rest :=
          List.filter_eq_self.2 fun j hj => decide_eq_true fun heq =>
            habsent (List.mem_map.2 ⟨j, hj, heq⟩)
        rw [List.filter_cons_of_neg (by simp), hkept, addUp, Nat.add_comm]
      · have hne : k.handle ≠ i.handle := fun heq => habsent (List.mem_map.2 ⟨i, hi, heq.symm⟩)
        rw [List.filter_cons_of_pos (by simpa using hne), addUp, addUp, Nat.add_assoc,
          ih hrest hi]

theorem Founded.parents (hf : Founded issues) (hi : i ∈ issues) {p : Handle}
    (hp : p ∈ i.parents) : p.isNull = true ∨ ∃ j ∈ issues, j.handle = p := by
  induction issues with
  | nil => cases hi
  | cons k rest ih =>
      rcases List.mem_cons.1 hi with rfl | hi
      · exact (hf.1 p hp).imp_right fun ⟨j, hj, heq⟩ => ⟨j, List.mem_cons_of_mem _ hj, heq⟩
      · exact (ih hf.2 hi).imp_right fun ⟨j, hj, heq⟩ => ⟨j, List.mem_cons_of_mem _ hj, heq⟩

end Issues

/-! ## What a registry knows of its history -/

structure Kept (past : History) : Prop where
  next : past.registry.nextSequence = past.issued.length + 1
  composed : ∀ i ∈ past.issued, ∃ sequence < past.registry.nextSequence,
    i.handle = .compose i.kind sequence
  distinct : (past.issued.map (·.handle)).Nodup
  living : past.live.Sublist past.issued
  entered : ∀ i ∈ past.live, ∃ dependents, past.registry.entries.find? i.handle =
    some { native := i.native, parents := i.parents.filter (!·.isNull), dependents }
  known : ∀ handle entry, past.registry.entries.find? handle = some entry →
    ∃ i ∈ past.live, i.handle = handle
  size : past.registry.size = past.live.length
  mentioned : ∀ handle, past.registry.mentions handle =
    addUp (fun i => (i.parents.filter (!·.isNull)).count handle) past.live
  back : ∀ kind native handle, past.registry.lookup kind native = some handle ↔
    ∃ i ∈ past.live, past.latest? kind native = some i ∧ i.handle = handle

namespace Kept

variable {past : History} (hk : Kept past)

include hk

theorem live_issued {i : Issue} (hi : i ∈ past.live) : i ∈ past.issued := hk.living.subset hi

theorem live_distinct : (past.live.map (·.handle)).Nodup :=
  hk.distinct.sublist (hk.living.map _)

theorem parents {i : Issue} (hi : i ∈ past.live) :
    past.registry.parents i.handle = i.parents.filter (!·.isNull) := by
  obtain ⟨dependents, hentry⟩ := hk.entered i hi
  simp only [Registry.parents, hentry, Option.map_some, Option.getD_some]

theorem kind? {i : Issue} (hi : i ∈ past.issued) : i.handle.kind? = some i.kind := by
  obtain ⟨sequence, -, hhandle⟩ := hk.composed i hi
  rw [hhandle, Handle.kind?_compose]

/-- What is on record is what was said when the handles were issued. -/
theorem mentions_eq (handle : Handle) : past.registry.mentions handle = past.mentions handle := by
  rw [hk.mentioned, History.mentions]
  have hsame : ∀ issues : List Issue, (∀ i ∈ issues, i ∈ past.live) →
      addUp (fun i => (i.parents.filter (!·.isNull)).count handle) issues =
        addUp (fun i => (past.registry.parents i.handle).count handle) issues := by
    intro issues hlive
    induction issues with
    | nil => rfl
    | cons i rest ih =>
        have hi := hlive i List.mem_cons_self
        rw [addUp, addUp, hk.parents hi, ih fun j hj => hlive j (List.mem_cons_of_mem _ hj)]
  exact hsame past.live fun _ hi => hi

section Next

variable (hfew : past.registry.nextSequence < 2 ^ 56)

include hfew

/-- The next handle was not issued before, as long as sequence numbers fit a handle. -/
theorem fresh (kind : ResourceKind) {i : Issue} (hi : i ∈ past.issued) :
    i.handle ≠ .compose kind past.registry.nextSequence := by
  obtain ⟨sequence, hlt, hhandle⟩ := hk.composed i hi
  rw [hhandle]
  intro heq
  obtain ⟨-, rfl⟩ := Handle.compose_inj (Nat.lt_trans hlt hfew) hfew heq
  exact Nat.lt_irrefl _ hlt

theorem absent (kind : ResourceKind) :
    past.registry.entries.find? (.compose kind past.registry.nextSequence) = none := by
  refine Option.eq_none_iff_forall_ne_some.2 fun entry hentry => ?_
  obtain ⟨i, hi, heq⟩ := hk.known _ _ hentry
  exact hk.fresh hfew kind (hk.live_issued hi) heq

/-- A handle that is new is in no table, so everything on record stays and one entry is added. -/
theorem insert (kind : ResourceKind) (native : NativeId) (parents : List Handle) :
    Kept (past.add (.insert kind native parents)) := by
  have habsent := hk.absent hfew kind
  have hfresh {i : Issue} (hi : i ∈ past.issued) := hk.fresh hfew kind hi
  constructor
  case next => exact congrArg Nat.succ hk.next
  case composed =>
    intro i hi
    rcases List.mem_cons.1 hi with rfl | hi
    · exact ⟨_, Nat.lt_succ_self _, rfl⟩
    · obtain ⟨sequence, hlt, hhandle⟩ := hk.composed i hi
      exact ⟨sequence, Nat.lt_succ_of_lt hlt, hhandle⟩
  case distinct =>
    refine List.nodup_cons.2 ⟨fun hmem => ?_, hk.distinct⟩
    obtain ⟨i, hi, heq⟩ := List.mem_map.1 hmem
    exact hfresh hi heq
  case living => exact hk.living.cons_cons _
  case entered =>
    intro i hi
    simp only [History.add, find?_insert]
    rcases List.mem_cons.1 hi with rfl | hi
    · exact ⟨0, if_pos rfl⟩
    · obtain ⟨dependents, hentry⟩ := hk.entered i hi
      rw [if_neg (hfresh (hk.live_issued hi)), hentry]
      exact ⟨_, rfl⟩
  case known =>
    intro handle entry hentry
    simp only [History.add, find?_insert] at hentry
    split at hentry
    case isTrue hnew => exact ⟨_, List.mem_cons_self, hnew.symm⟩
    case isFalse =>
      obtain ⟨old, hold, -⟩ := Option.map_eq_some_iff.1 hentry
      obtain ⟨i, hi, heq⟩ := hk.known handle old hold
      exact ⟨i, List.mem_cons_of_mem _ hi, heq⟩
  case size =>
    have hone : (past.registry.insert kind native parents).2.size = past.registry.size + 1 := by
      simp only [Registry.size, Table.size_eq_total]
      exact total_insert habsent fun _ _ => rfl
    exact hone.trans (congrArg Nat.succ hk.size)
  case mentioned =>
    intro handle
    -- what the parents gain is what the new entry mentions
    have hmore : (past.registry.insert kind native parents).2.mentions handle =
        past.registry.mentions handle + (parents.filter (!·.isNull)).count handle :=
      total_insert habsent fun _ _ => rfl
    exact hmore.trans ((congrArg (· + _) (hk.mentioned handle)).trans (Nat.add_comm ..))
  case back =>
    intro kind' native' handle
    have hlookup := lookup_insert past.registry kind native parents kind' native'
    have hlatest := past.latest?_insert kind native parents kind' native'
    simp only [hlatest]
    change (past.registry.insert kind native parents).2.lookup kind' native' = some handle ↔ _
    rw [hlookup]
    by_cases hsame : kind' = kind ∧ native' = native
    · simp only [hsame, and_self, if_true, Option.some.injEq]
      constructor
      · intro hhandle
        exact ⟨_, List.mem_cons_self, rfl, hhandle⟩
      · rintro ⟨_, -, rfl, hhandle⟩
        exact hhandle
    · simp only [hsame, if_false, hk.back]
      constructor
      · rintro ⟨i, hi, hfound, hhandle⟩
        exact ⟨i, List.mem_cons_of_mem _ hi, hfound, hhandle⟩
      · rintro ⟨i, hi, hfound, hhandle⟩
        -- the latest is an old one, so it is not the one just issued
        rcases List.mem_cons.1 hi with rfl | hi
        · exact absurd rfl (hfresh (List.mem_of_find?_eq_some hfound))
        · exact ⟨i, hi, hfound, hhandle⟩

end Next

/-- A handle that is not live is revoked without effect. -/
theorem remove_unknown {handle : Handle}
    (hnone : past.registry.entries.find? handle = none) :
    past.add (.remove handle) = past := by
  have hregistry : (past.registry.remove handle).2 = past.registry := by
    simp only [Registry.remove, hnone]
  have hlive : past.live.filter (·.handle ≠ handle) = past.live := by
    refine List.filter_eq_self.2 fun i hi => decide_eq_true fun heq => ?_
    obtain ⟨_, hentry⟩ := hk.entered i hi
    rw [heq, hnone] at hentry
    cases hentry
  simp only [History.add, hregistry, hlive]

/-- Revoking a live handle drops the ways back to it, and no other. -/
theorem lookup_strike {i : Issue} (hi : i ∈ past.live) (kind : ResourceKind) (native : NativeId)
    (handle : Handle) :
    (past.registry.remove i.handle).2.lookup kind native = some handle ↔
      past.registry.lookup kind native = some handle ∧ handle ≠ i.handle := by
  obtain ⟨_, hentry⟩ := hk.entered i hi
  have hkind := hk.kind? (hk.live_issued hi)
  -- only the native identity of the issue can lead back to its handle
  have hown (hback : past.registry.lookup kind native = some i.handle) :
      (kind, native) = (i.kind, i.native) := by
    obtain ⟨j, hj, hlatest, heq⟩ := (hk.back kind native i.handle).1 hback
    obtain rfl := List.inj_on_of_nodup_map hk.live_distinct hj hi heq
    have hfor := List.find?_some hlatest
    simp only [Issue.isFor, Bool.and_eq_true, decide_eq_true_eq] at hfor
    rw [hfor.1, hfor.2]
  have hafter : (past.registry.remove i.handle).2.lookup kind native =
      (forget past.registry.reverse i.handle i.native).find? (kind, native) := by
    simp only [Registry.lookup, Registry.remove, hentry]
  rw [hafter, find?_forget hkind, Option.ite_none_left_eq_some]
  constructor
  · rintro ⟨hkept, hback⟩
    refine ⟨hback, ?_⟩
    rintro rfl
    exact hkept ⟨hown hback, hback⟩
  · rintro ⟨hback, hne⟩
    refine ⟨fun hgone => hne ?_, hback⟩
    exact Option.some.inj (hback.symm.trans hgone.2)

/-- Removing a live handle strikes its entry, its way back and what it mentions, no more. -/
theorem remove_live {i : Issue} (hi : i ∈ past.live) : Kept (past.add (.remove i.handle)) := by
  obtain ⟨dependents, hentry⟩ := hk.entered i hi
  have hmem {j : Issue} : j ∈ (past.add (.remove i.handle)).live ↔
      j ∈ past.live ∧ j.handle ≠ i.handle := by
    simp [History.add]
  constructor
  case next =>
    exact (nextSequence_remove _ _).trans hk.next
  case composed =>
    intro j hj
    obtain ⟨sequence, hlt, hhandle⟩ := hk.composed j hj
    exact ⟨sequence, (nextSequence_remove past.registry i.handle).symm ▸ hlt, hhandle⟩
  case distinct => exact hk.distinct
  case living => exact List.filter_sublist.trans hk.living
  case entered =>
    intro j hj
    obtain ⟨hj, hne⟩ := hmem.1 hj
    obtain ⟨_, hentry'⟩ := hk.entered j hj
    have hafter := find?_remove hentry j.handle
    rw [if_neg hne, hentry'] at hafter
    exact ⟨_, hafter⟩
  case known =>
    intro handle entry hfound
    have hfound := (find?_remove hentry handle).symm.trans hfound
    split at hfound
    case isTrue => cases hfound
    case isFalse hne =>
      obtain ⟨old, hold, -⟩ := Option.map_eq_some_iff.1 hfound
      obtain ⟨j, hj, rfl⟩ := hk.known handle old hold
      exact ⟨j, hmem.2 ⟨hj, hne⟩, rfl⟩
  case size =>
    have hone : (past.registry.remove i.handle).2.size + 1 = past.registry.size := by
      simp only [Registry.size, Table.size_eq_total]
      exact total_remove hentry fun _ _ => rfl
    have hlength := addUp_strike hk.live_distinct hi fun _ => 1
    rw [addUp_one, addUp_one] at hlength
    exact Nat.add_right_cancel (hone.trans (hk.size.trans hlength.symm))
  case mentioned =>
    intro handle
    have hless : (past.registry.remove i.handle).2.mentions handle +
        (i.parents.filter (!·.isNull)).count handle = past.registry.mentions handle :=
      total_remove hentry fun _ _ => rfl
    have hstrike := addUp_strike hk.live_distinct hi
      fun j => (j.parents.filter (!·.isNull)).count handle
    exact Nat.add_right_cancel (hless.trans ((hk.mentioned handle).trans hstrike.symm))
  case back =>
    intro kind native handle
    have hlookup := hk.lookup_strike hi kind native handle
    change (past.registry.remove i.handle).2.lookup kind native = some handle ↔ _
    rw [hlookup, hk.back]
    constructor
    · rintro ⟨⟨j, hj, hlatest, rfl⟩, hne⟩
      exact ⟨j, hmem.2 ⟨hj, hne⟩, hlatest, rfl⟩
    · rintro ⟨j, hj, hlatest, rfl⟩
      obtain ⟨hj, hne⟩ := hmem.1 hj
      exact ⟨⟨j, hj, hlatest, rfl⟩, hne⟩

theorem remove (handle : Handle) : Kept (past.add (.remove handle)) := by
  cases hentry : past.registry.entries.find? handle with
  | none => rwa [hk.remove_unknown hentry]
  | some entry =>
      obtain ⟨i, hi, rfl⟩ := hk.known handle entry hentry
      exact hk.remove_live hi

theorem add (op : Operation) (hfew : (past.add op).issued.length < 2 ^ 56) :
    Kept (past.add op) := by
  cases op with
  | insert kind native parents => exact hk.insert (hk.next ▸ hfew) kind native parents
  | remove handle => exact hk.remove handle

end Kept

theorem issued_le (past : History) (op : Operation) :
    past.issued.length ≤ (past.add op).issued.length := by
  cases op with
  | insert => exact Nat.le_succ _
  | remove => exact Nat.le_refl _

/-- A registry knows its history, as long as sequence numbers fit a handle. -/
theorem history_kept (ops : List Operation) (hfew : (history ops).issued.length < 2 ^ 56) :
    Kept (history ops) := by
  induction ops using List.reverseRecOn with
  | nil =>
      constructor
      case next => rfl
      case composed => exact fun _ hi => nomatch hi
      case distinct => exact List.nodup_nil
      case living => exact List.Sublist.refl _
      case entered => exact fun _ hi => nomatch hi
      case known => exact fun _ _ hentry => nomatch hentry
      case size => rfl
      case mentioned => exact fun _ => rfl
      case back =>
        refine fun _ _ _ => iff_of_false (fun hback => nomatch hback) ?_
        rintro ⟨_, hi, -⟩
        cases hi
  | append_singleton ops op ih =>
      rw [history_concat] at hfew ⊢
      exact (ih (Nat.lt_of_le_of_lt (issued_le _ op) hfew)).add op hfew

/-! ## Counts of dependents -/

theorem founded_of_add {past : History} {op : Operation} (hf : Founded (past.add op).issued) :
    Founded past.issued := by
  cases op with
  | insert => exact hf.2
  | remove => exact hf

/-- The counts never drift, in whatever order parents and children go. -/
theorem Kept.counted_add {past : History} (hk : Kept past) (hcounted : past.registry.Counted)
    {op : Operation} (hf : Founded (past.add op).issued)
    (hfew : (past.add op).issued.length < 2 ^ 56) : (past.add op).registry.Counted := by
  cases op with
  | insert kind native parents =>
      have hfew : past.registry.nextSequence < 2 ^ 56 := hk.next ▸ hfew
      have hunissued {p : Handle} (hp : p.isNull = true ∨ ∃ j ∈ past.issued, j.handle = p) :
          p ≠ .compose kind past.registry.nextSequence := by
        rintro rfl
        rcases hp with hnull | ⟨j, hj, heq⟩
        · simp [Handle.isNull_compose] at hnull
        · exact hk.fresh hfew kind hj heq
      refine hcounted.insert (hk.absent hfew kind) ?_ fun hmem => hunissued (hf.1 _ hmem) rfl
      -- a live handle that named the new one would have been issued after it
      refine Nat.eq_zero_of_not_pos fun hpos => ?_
      obtain ⟨child, entry, hentry, hparent⟩ := mentions_pos.1 hpos
      obtain ⟨i, hi, rfl⟩ := hk.known child entry hentry
      obtain ⟨_, hentry'⟩ := hk.entered i hi
      obtain rfl := Option.some.inj (hentry.symm.trans hentry')
      exact hunissued (hf.2.parents (hk.live_issued hi) (List.mem_filter.1 hparent).1) rfl
  | remove handle =>
      cases hentry : past.registry.entries.find? handle with
      | none => rwa [hk.remove_unknown hentry]
      | some entry => exact hcounted.remove hentry

theorem history_counted (ops : List Operation) (hfew : (history ops).issued.length < 2 ^ 56)
    (hf : Founded (history ops).issued) : (history ops).registry.Counted := by
  induction ops using List.reverseRecOn with
  | nil => exact fun _ _ hentry => nomatch hentry
  | append_singleton ops op ih =>
      rw [history_concat] at hfew hf ⊢
      have hbefore := Nat.lt_of_le_of_lt (issued_le _ op) hfew
      exact (history_kept ops hbefore).counted_add (ih hbefore (founded_of_add hf)) hf hfew

theorem Kept.dependents_eq {past : History} (hk : Kept past) (hcounted : past.registry.Counted)
    {i : Issue} (hi : i ∈ past.live) :
    past.registry.dependents i.handle = UInt64.ofNat (past.mentions i.handle) := by
  obtain ⟨dependents, hentry⟩ := hk.entered i hi
  have hcount := hcounted _ _ hentry
  rw [hk.mentions_eq] at hcount
  simp only [Registry.dependents, hentry, Option.map_some, Option.getD_some]
  exact hcount

/-- One live handle less, and its mentions with it. -/
theorem Kept.mentions_strike {past : History} (hk : Kept past) {j : Issue} (hj : j ∈ past.live)
    (handle : Handle) : (past.add (.remove j.handle)).mentions handle +
      (past.registry.parents j.handle).count handle = past.mentions handle := by
  have hstrike := addUp_strike hk.live_distinct hj
    fun i => (i.parents.filter (!·.isNull)).count handle
  rw [← (hk.remove j.handle).mentions_eq, (hk.remove j.handle).mentioned, ← hk.mentions_eq,
    hk.mentioned, hk.parents hj]
  exact hstrike

/-- Of every registry that issued fewer handles than sequence numbers fit, each with parents that are
null or were issued before: it has as many handles as are live, and the parents of each on record as
they were given, without the null ones. The count of a live handle is how often live handles have it
on record as a parent. The count has 64 bits, which is as much as an address space can mention. One
handle that goes takes off every other count what it mentions, whether its other parents are still
there or not, so that no count falls below zero. -/
theorem counts_exact (ops : List Operation) (hfew : (history ops).issued.length < 2 ^ 56)
    (hf : Founded (history ops).issued) :
    let past := history ops
    let r := past.registry
    r.size = past.live.length ∧
      (∀ handle, (∃ entry, r.entries.find? handle = some entry) ↔
        ∃ i ∈ past.live, i.handle = handle) ∧
      (∀ i ∈ past.live, r.parents i.handle = i.parents.filter (!·.isNull)) ∧
      (∀ i ∈ past.live, r.dependents i.handle = UInt64.ofNat (past.mentions i.handle) ∧
        (past.mentions i.handle < 2 ^ 64 →
          (r.dependents i.handle).toNat = past.mentions i.handle)) ∧
      ∀ i ∈ past.live, ∀ j ∈ past.live, i ≠ j → past.mentions i.handle < 2 ^ 64 →
        ((r.remove j.handle).2.dependents i.handle).toNat + (r.parents j.handle).count i.handle =
          (r.dependents i.handle).toNat := by
  intro past r
  have hk : Kept past := history_kept ops hfew
  have hcounted : r.Counted := history_counted ops hfew hf
  have hexact {past : History} (hk : Kept past) (hcounted : past.registry.Counted) {i : Issue}
      (hi : i ∈ past.live) (hfits : past.mentions i.handle < 2 ^ 64) :
      (past.registry.dependents i.handle).toNat = past.mentions i.handle := by
    rw [hk.dependents_eq hcounted hi]
    exact UInt64.toNat_ofNat_of_lt' hfits
  refine ⟨hk.size, fun handle => ⟨fun ⟨entry, hentry⟩ => hk.known handle entry hentry, ?_⟩,
    fun i hi => hk.parents hi, fun i hi => ⟨hk.dependents_eq hcounted hi, hexact hk hcounted hi⟩,
    fun i hi j hj hne hfits => ?_⟩
  · rintro ⟨i, hi, rfl⟩
    obtain ⟨_, hentry⟩ := hk.entered i hi
    exact ⟨_, hentry⟩
  · have hless := hk.mentions_strike hj i.handle
    have hother : i ∈ (past.add (.remove j.handle)).live := by
      refine List.mem_filter.2 ⟨hi, decide_eq_true fun heq => hne ?_⟩
      exact List.inj_on_of_nodup_map hk.live_distinct hi hj heq
    have hcounted' : (past.add (.remove j.handle)).registry.Counted :=
      hk.counted_add hcounted hf hfew
    have hafter := hexact (hk.remove j.handle) hcounted' hother (by omega)
    have hbefore := hexact hk hcounted hi hfits
    change ((past.add (.remove j.handle)).registry.dependents i.handle).toNat +
      (past.registry.parents j.handle).count i.handle =
        (past.registry.dependents i.handle).toNat
    omega

/-- A protection domain goes before the queue pair in it, which mentions a completion queue twice. -/
def orphaning : List Operation :=
  let ctx : Handle := .compose .context 1
  let pd : Handle := .compose .protectionDomain 2
  let cq : Handle := .compose .completionQueue 3
  [.insert .context 1 [], .insert .protectionDomain 2 [ctx], .insert .completionQueue 3 [ctx, .null],
    .insert .queuePair 4 [pd, cq, cq, .null], .remove pd]

theorem orphaning_counts :
    let past := history orphaning
    let cq : Issue :=
      { handle := .compose .completionQueue 3, kind := .completionQueue, native := 3
        parents := [.compose .context 1, .null] }
    past.issued.length = 4 ∧ Founded past.issued ∧ past.registry.size = 3 ∧ cq ∈ past.live ∧
      past.mentions cq.handle = 2 ∧ (past.registry.dependents cq.handle).toNat = 2 := by
  intro past cq
  have hf : Founded past.issued := by
    simp only [past, history, orphaning, List.foldl, History.add, Founded]
    decide
  have hlive : cq ∈ past.live := by decide
  have hmentions : past.mentions cq.handle = 2 := by decide
  obtain ⟨hsize, -, -, hcounts, -⟩ := counts_exact orphaning (by decide) hf
  refine ⟨by decide, hf, hsize.trans (by decide), hlive, hmentions, ?_⟩
  exact ((hcounts cq hlive).2 (by decide)).trans hmentions

/-! ## The way back -/

/-- While no two live handles share a native identity, each is the latest for its own. -/
theorem latest?_of_apart (ops : List Operation)
    (hapart : ∀ before, before <+: ops → (history before).Apart) :
    ∀ i ∈ (history ops).live, (history ops).latest? i.kind i.native = some i := by
  induction ops using List.reverseRecOn with
  | nil => exact fun _ hi => nomatch hi
  | append_singleton ops op ih =>
      have hbefore := ih fun before hinit => hapart before (hinit.trans (List.prefix_append _ _))
      have hnow := hapart _ (List.prefix_refl _)
      rw [history_concat] at hnow ⊢
      cases op with
      | remove handle => exact fun i hi => hbefore i (List.mem_filter.1 hi).1
      | insert kind native parents =>
          intro i hi
          rw [History.latest?_insert]
          rcases List.mem_cons.1 hi with rfl | hi
          · exact if_pos ⟨rfl, rfl⟩
          · have hother := (List.pairwise_cons.1 hnow).1 i hi
            rw [if_neg fun hsame => hother ⟨hsame.1.symm, hsame.2.symm⟩]
            exact hbefore i hi

/-- Of every registry that issued fewer handles than sequence numbers fit, for native identities of
which any may come back or be there twice: the way back from an identity leads to the handle that was
last issued for it, while that is live, and nowhere else, and the handle resolves to the identity. As
long as no two live handles shared an identity, it leads back to every live handle. -/
theorem lookups_exact (ops : List Operation) (hfew : (history ops).issued.length < 2 ^ 56) :
    let past := history ops
    let r := past.registry
    (∀ kind native handle, r.lookup kind native = some handle ↔
        ∃ i ∈ past.live, past.latest? kind native = some i ∧ i.handle = handle) ∧
      (∀ kind native handle, r.lookup kind native = some handle →
        r.resolve handle kind = some native) ∧
      ((∀ before, before <+: ops → (history before).Apart) →
        ∀ i ∈ past.live, r.lookup i.kind i.native = some i.handle) := by
  intro past r
  have hk : Kept past := history_kept ops hfew
  refine ⟨hk.back, fun kind native handle hback => ?_, fun hapart i hi => ?_⟩
  · obtain ⟨i, hi, hlatest, rfl⟩ := (hk.back kind native handle).1 hback
    have hfor := List.find?_some hlatest
    simp only [Issue.isFor, Bool.and_eq_true, decide_eq_true_eq] at hfor
    obtain ⟨_, hentry⟩ := hk.entered i hi
    exact resolve_eq_some.2 ⟨hfor.1 ▸ hk.kind? (hk.live_issued hi), _, hentry, hfor.2⟩
  · exact (hk.back _ _ _).2 ⟨i, hi, latest?_of_apart ops hapart i hi, rfl⟩

/-- A native identity comes back while the handle it had before is still live. -/
def recycling : List Operation :=
  [.insert .protectionDomain 7 [], .insert .protectionDomain 7 [],
    .remove (.compose .protectionDomain 1)]

theorem recycling_lookups :
    let past := history recycling
    let pd : Handle := .compose .protectionDomain 2
    past.issued.length = 2 ∧ past.registry.lookup .protectionDomain 7 = some pd ∧
      past.registry.resolve pd .protectionDomain = some 7 := by
  intro past pd
  obtain ⟨hback, hresolves, -⟩ := lookups_exact recycling (by decide)
  have hlookup : past.registry.lookup .protectionDomain 7 = some pd := by
    refine (hback _ _ _).2 ⟨⟨pd, .protectionDomain, 7, []⟩, ?_, ?_, rfl⟩ <;> decide
  exact ⟨by decide, hlookup, hresolves _ _ _ hlookup⟩

end Rdma.Registry
