/-!
# Keyed tables

A finite map as a list of pairs in order of first insertion, no key twice. `find?` is the view: every
operation is described by what it does to `find?`, and `values` are what `find?` finds.
-/

namespace Rdma

/-- What `weight` adds up to over a list. -/
def addUp {α : Type} (weight : α → Nat) : List α → Nat
  | [] => 0
  | a :: rest => weight a + addUp weight rest

section AddUp

variable {α : Type} {weight : α → Nat} {l : List α}

theorem addUp_append (l l' : List α) : addUp weight (l ++ l') = addUp weight l + addUp weight l' := by
  induction l with
  | nil => simp [addUp]
  | cons a rest ih => simp only [List.cons_append, addUp, ih, Nat.add_assoc]

theorem addUp_pos : 0 < addUp weight l ↔ ∃ a ∈ l, 0 < weight a := by
  induction l with
  | nil => simp [addUp]
  | cons a rest ih => rw [addUp, Nat.add_pos_iff_pos_or_pos, ih]; simp

theorem addUp_le {bound : Nat} (each : ∀ a ∈ l, weight a ≤ bound) :
    addUp weight l ≤ l.length * bound := by
  induction l with
  | nil => exact Nat.zero_le _
  | cons a rest ih =>
    have first := each a List.mem_cons_self
    have others := ih fun b member => each b (List.mem_cons_of_mem _ member)
    simp only [addUp, List.length_cons, Nat.succ_mul]
    omega

theorem addUp_one (l : List α) : addUp (fun _ => 1) l = l.length := by
  induction l with
  | nil => rfl
  | cons a rest ih => simp only [addUp, ih, List.length_cons, Nat.add_comm]

end AddUp

/-- A finite map from `κ` to `α`, in order of insertion. -/
structure Table (κ α : Type) where
  entries : List (κ × α) := []
  distinct : (entries.map (·.1)).Nodup := by exact List.nodup_nil
deriving Repr, DecidableEq

namespace Table

variable {κ α : Type} [DecidableEq κ]

def empty : Table κ α := {}

def find? (t : Table κ α) (key : κ) : Option α :=
  (t.entries.find? (·.1 = key)).map (·.2)

def contains (t : Table κ α) (key : κ) : Bool := (t.find? key).isSome

def size (t : Table κ α) : Nat := t.entries.length

def isEmpty (t : Table κ α) : Bool := t.entries.isEmpty

def keys (t : Table κ α) : List κ := t.entries.map (·.1)

def values (t : Table κ α) : List α := t.entries.map (·.2)

/-- Number of values that satisfy `p`. -/
def count (t : Table κ α) (p : α → Bool) : Nat := t.values.countP p

/-- What `weight` adds up to over all values. -/
def total (t : Table κ α) (weight : α → Nat) : Nat := addUp weight t.values

/-! ## Look-ups -/

theorem mem_entries {t : Table κ α} {key : κ} {a : α} :
    (key, a) ∈ t.entries ↔ t.find? key = some a := by
  obtain ⟨entries, distinct⟩ := t
  simp only [find?]
  induction entries with
  | nil => simp
  | cons e rest ih =>
    obtain ⟨absent, distinct⟩ := List.nodup_cons.1 distinct
    have ih := ih distinct
    obtain ⟨key', a'⟩ := e
    by_cases hk : key' = key
    · subst hk
      have : (key', a) ∉ rest := fun h => absent (List.mem_map.2 ⟨_, h, rfl⟩)
      simp [this, eq_comm]
    · simp only [List.find?_cons, hk, decide_false, ← ih, List.mem_cons, Prod.mk.injEq]
      exact ⟨fun h => h.resolve_left fun h => hk h.1.symm, .inr⟩

theorem mem_keys {t : Table κ α} {key : κ} : key ∈ t.keys ↔ ∃ a, t.find? key = some a := by
  simp [keys, mem_entries]

theorem mem_values {t : Table κ α} {a : α} : a ∈ t.values ↔ ∃ key, t.find? key = some a := by
  simp [values, mem_entries]

theorem any_values {t : Table κ α} {p : α → Bool} :
    t.values.any p = true ↔ ∃ key a, t.find? key = some a ∧ p a = true := by
  simp only [List.any_eq_true, mem_values]
  exact ⟨fun ⟨a, ⟨key, h⟩, hp⟩ => ⟨key, a, h, hp⟩, fun ⟨key, a, h, hp⟩ => ⟨a, ⟨key, h⟩, hp⟩⟩

theorem count_pos {t : Table κ α} {p : α → Bool} :
    0 < t.count p ↔ ∃ key a, t.find? key = some a ∧ p a = true := by
  rw [count, List.countP_pos_iff, ← List.any_eq_true, any_values]

theorem contains_iff {t : Table κ α} {key : κ} :
    t.contains key = true ↔ ∃ a, t.find? key = some a := Option.isSome_iff_exists

theorem contains_false {t : Table κ α} {key : κ} (h : ¬ t.contains key = true) :
    t.find? key = none := by
  simpa [contains] using h

theorem not_mem_keys {t : Table κ α} {key : κ} (absent : t.find? key = none) : key ∉ t.keys := by
  intro h
  obtain ⟨a, ha⟩ := mem_keys.1 h
  simp [absent] at ha

/-- A table in which nothing is found is empty. -/
theorem eq_empty {t : Table κ α} (absent : ∀ key, t.find? key = none) : t = {} := by
  obtain ⟨entries, distinct⟩ := t
  have none : entries = [] := List.eq_nil_iff_forall_not_mem.2 fun e member => by
    have found : (⟨entries, distinct⟩ : Table κ α).find? e.1 = some e.2 := mem_entries.1 member
    simp [absent] at found
  subst none
  rfl

/-! ## Updates -/

/-- Apply `f` to the value under `key`, if there is one. -/
def modify (t : Table κ α) (key : κ) (f : α → α) : Table κ α where
  entries := t.entries.map fun e => if e.1 = key then (e.1, f e.2) else e
  distinct := by
    have same : ((·.1) ∘ fun e : κ × α => if e.1 = key then (e.1, f e.2) else e) = (·.1) := by
      funext e
      simp only [Function.comp_apply]
      split <;> rfl
    rw [List.map_map, same]
    exact t.distinct

/-- Put a value under `key`, in the place of an earlier one if there is one. -/
def insert (t : Table κ α) (key : κ) (a : α) : Table κ α :=
  if h : t.contains key then t.modify key fun _ => a
  else
    { entries := t.entries ++ [(key, a)]
      distinct := by
        rw [List.map_append]
        refine List.nodup_append.2 ⟨t.distinct, by simp, ?_⟩
        intro key' present key'' single
        obtain rfl : key'' = key := by simpa using single
        rintro rfl
        exact not_mem_keys (contains_false h) present }

def erase (t : Table κ α) (key : κ) : Table κ α where
  entries := t.entries.filter (·.1 ≠ key)
  distinct := t.distinct.sublist (List.filter_sublist.map _)

/-- Apply `g` to every value. -/
def map {β : Type} (t : Table κ α) (g : α → β) : Table κ β where
  entries := t.entries.map fun e => (e.1, g e.2)
  distinct := by
    rw [List.map_map]
    exact t.distinct

/-- The table of a list of pairs; of two pairs with one key the later counts. -/
def ofList (entries : List (κ × α)) : Table κ α :=
  entries.foldl (fun t e => t.insert e.1 e.2) {}

@[simp] theorem find?_empty (key : κ) : (empty : Table κ α).find? key = none := rfl

@[simp] theorem find?_modify (t : Table κ α) (key key' : κ) (f : α → α) :
    (t.modify key f).find? key' = if key' = key then (t.find? key').map f else t.find? key' := by
  obtain ⟨entries, distinct⟩ := t
  simp only [find?, modify]
  clear distinct
  induction entries with
  | nil => simp
  | cons e rest ih =>
    simp only [List.map_cons, List.find?_cons]
    by_cases hk : e.1 = key <;> by_cases hk' : e.1 = key' <;> by_cases hsame : key' = key <;>
      simp_all

@[simp] theorem find?_erase (t : Table κ α) (key key' : κ) :
    (t.erase key).find? key' = if key' = key then none else t.find? key' := by
  obtain ⟨entries, distinct⟩ := t
  simp only [find?, erase]
  clear distinct
  induction entries with
  | nil => simp
  | cons e rest ih =>
    simp only [List.filter_cons, List.find?_cons]
    by_cases hk : e.1 = key <;> by_cases hk' : e.1 = key' <;> by_cases hsame : key' = key <;>
      simp_all

@[simp] theorem find?_insert (t : Table κ α) (key key' : κ) (a : α) :
    (t.insert key a).find? key' = if key' = key then some a else t.find? key' := by
  unfold insert
  split
  case isTrue h =>
    rw [find?_modify]
    by_cases hk : key' = key
    · subst hk
      obtain ⟨b, hb⟩ := contains_iff.1 h
      simp [hb]
    · simp [hk]
  case isFalse h =>
    have absent : t.find? key = none := contains_false h
    simp only [find?, Option.map_eq_none_iff] at absent ⊢
    simp only [List.find?_append]
    by_cases hk : key' = key
    · subst hk; simp [absent]
    · cases hf : t.entries.find? (·.1 = key') <;> simp [hk, eq_comm]

/-- What is found after a change is the changed value or was found before. -/
theorem modified {t : Table κ α} {key key' : κ} {b : α} {f : α → α}
    (h : (t.modify key f).find? key' = some b) :
    (key' = key ∧ ∃ a, t.find? key' = some a ∧ b = f a) ∨ t.find? key' = some b := by
  rw [find?_modify] at h
  split at h
  case isTrue hkey =>
    obtain ⟨a, ha, rfl⟩ := Option.map_eq_some_iff.1 h
    exact .inl ⟨hkey, a, ha, rfl⟩
  case isFalse => exact .inr h

theorem erased {t : Table κ α} {key key' : κ} {b : α} (h : (t.erase key).find? key' = some b) :
    key' ≠ key ∧ t.find? key' = some b := by
  rw [find?_erase] at h
  split at h
  case isTrue => cases h
  case isFalse hkey => exact ⟨hkey, h⟩

theorem inserted {t : Table κ α} {key key' : κ} {a b : α}
    (h : (t.insert key a).find? key' = some b) :
    (key' = key ∧ b = a) ∨ t.find? key' = some b := by
  rw [find?_insert] at h
  split at h
  case isTrue hkey => exact .inl ⟨hkey, (Option.some.inj h).symm⟩
  case isFalse => exact .inr h

@[simp] theorem find?_map {β : Type} (t : Table κ α) (g : α → β) (key : κ) :
    (t.map g).find? key = (t.find? key).map g := by
  obtain ⟨entries, distinct⟩ := t
  simp only [find?, map]
  clear distinct
  induction entries with
  | nil => simp
  | cons e rest ih =>
    simp only [List.map_cons, List.find?_cons]
    split <;> simp_all

theorem entries_insert {t : Table κ α} {key : κ} (absent : t.find? key = none) (a : α) :
    (t.insert key a).entries = t.entries ++ [(key, a)] := by
  simp [insert, contains, absent]

/-- A value that is put under a new key and erased again leaves nothing behind. -/
theorem erase_insert {t : Table κ α} {key : κ} (absent : t.find? key = none) (a : α) :
    (t.insert key a).erase key = t := by
  have kept : t.entries.filter (·.1 ≠ key) = t.entries := by
    refine List.filter_eq_self.2 fun e member => decide_eq_true fun same => ?_
    exact not_mem_keys absent (same ▸ List.mem_map.2 ⟨e, member, rfl⟩)
  have entries : ((t.insert key a).erase key).entries = t.entries := by
    show (t.insert key a).entries.filter (·.1 ≠ key) = t.entries
    rw [entries_insert absent, List.filter_append, kept]
    simp
  generalize (t.insert key a).erase key = t' at entries
  obtain ⟨_, _⟩ := t
  obtain ⟨_, _⟩ := t'
  cases entries
  rfl

/-- Changing a value to itself changes nothing. -/
theorem modify_eq_self {t : Table κ α} {key : κ} {f : α → α}
    (same : ∀ a, t.find? key = some a → f a = a) : t.modify key f = t := by
  obtain ⟨entries, distinct⟩ := t
  simp only [modify, mk.injEq]
  refine (List.map_congr_left fun e member => ?_).trans (List.map_id _)
  split
  case isTrue hk => rw [same e.2 (mem_entries.1 (hk ▸ member)), id]
  case isFalse => rfl

/-- Changes that agree on the value under the key agree on the table. -/
theorem modify_congr {t : Table κ α} {key : κ} {f g : α → α}
    (same : ∀ a, t.find? key = some a → f a = g a) : t.modify key f = t.modify key g := by
  simp only [modify, mk.injEq]
  refine List.map_congr_left fun e member => ?_
  split
  case isTrue hk => rw [same e.2 (mem_entries.1 (hk ▸ member))]
  case isFalse => rfl

/-- A change that `g` does not see is not seen in the table either. -/
theorem map_modify {β : Type} {t : Table κ α} {key : κ} {f : α → α} {g : α → β}
    (unseen : ∀ a, g (f a) = g a) : (t.modify key f).map g = t.map g := by
  simp only [modify, map, mk.injEq, List.map_map]
  refine List.map_congr_left fun e _ => ?_
  by_cases hk : e.1 = key <;> simp [hk, unseen]

theorem modify_modify (t : Table κ α) (key : κ) (f g : α → α) :
    (t.modify key f).modify key g = t.modify key (g ∘ f) := by
  simp only [modify, mk.injEq, List.map_map]
  refine List.map_congr_left fun e _ => ?_
  by_cases hk : e.1 = key <;> simp [hk]

/-! ## Totals -/

/-- The entry of a key stands alone between entries of other keys. -/
theorem entries_split {t : Table κ α} {key : κ} {a : α} (found : t.find? key = some a) :
    ∃ before after, t.entries = before ++ (key, a) :: after ∧ (∀ e ∈ before, e.1 ≠ key) ∧
      ∀ e ∈ after, e.1 ≠ key := by
  obtain ⟨before, after, split⟩ := List.append_of_mem (mem_entries.2 found)
  have distinct := t.distinct
  rw [split, List.map_append, List.map_cons, List.nodup_append, List.nodup_cons] at distinct
  obtain ⟨-, ⟨absent, -⟩, apart⟩ := distinct
  refine ⟨before, after, split, fun e he => ?_, fun e he => ?_⟩
  · exact apart e.1 (List.mem_map.2 ⟨e, he, rfl⟩) key List.mem_cons_self
  · rintro rfl
    exact absent (List.mem_map.2 ⟨e, he, rfl⟩)

/-- A change of one value changes the total by as much. -/
theorem total_modify {t : Table κ α} {key : κ} {a : α} (found : t.find? key = some a) (f : α → α)
    (weight : α → Nat) :
    (t.modify key f).total weight + weight a = t.total weight + weight (f a) := by
  obtain ⟨before, after, split, hbefore, hafter⟩ := entries_split found
  have keep : ∀ l : List (κ × α), (∀ e ∈ l, e.1 ≠ key) →
      l.map (fun e => if e.1 = key then (e.1, f e.2) else e) = l := fun l hl =>
    (List.map_congr_left fun e he => if_neg (hl e he)).trans (List.map_id _)
  simp only [total, values, modify, split, List.map_append, List.map_cons, keep _ hbefore,
    keep _ hafter, if_true, addUp_append, addUp]
  omega

/-- A change that does not change the weight of any value keeps the total. -/
theorem total_modify_same (t : Table κ α) (key : κ) {f : α → α} {weight : α → Nat}
    (same : ∀ a, weight (f a) = weight a) : (t.modify key f).total weight = t.total weight := by
  cases found : t.find? key with
  | none => rw [modify_eq_self fun a h => by simp [found] at h]
  | some a =>
      have changed := total_modify found f weight
      rw [same] at changed
      exact Nat.add_right_cancel changed

theorem total_erase {t : Table κ α} {key : κ} {a : α} (found : t.find? key = some a)
    (weight : α → Nat) : (t.erase key).total weight + weight a = t.total weight := by
  obtain ⟨before, after, split, hbefore, hafter⟩ := entries_split found
  have keep : ∀ l : List (κ × α), (∀ e ∈ l, e.1 ≠ key) → l.filter (·.1 ≠ key) = l := fun l hl =>
    List.filter_eq_self.2 fun e he => decide_eq_true (hl e he)
  simp only [total, values, erase, split, List.filter_append, keep _ hbefore, keep _ hafter,
    List.filter_cons, ne_eq, not_true, decide_false, Bool.false_eq_true, if_false, List.map_append,
    List.map_cons, addUp_append, addUp]
  omega

theorem total_insert {t : Table κ α} {key : κ} (absent : t.find? key = none) (a : α)
    (weight : α → Nat) : (t.insert key a).total weight = t.total weight + weight a := by
  simp [total, values, entries_insert absent, addUp_append, addUp]

theorem total_pos {t : Table κ α} {weight : α → Nat} :
    0 < t.total weight ↔ ∃ key a, t.find? key = some a ∧ 0 < weight a := by
  simp only [total, addUp_pos, mem_values]
  constructor
  · rintro ⟨a, ⟨key, found⟩, positive⟩
    exact ⟨key, a, found, positive⟩
  · rintro ⟨key, a, found, positive⟩
    exact ⟨a, ⟨key, found⟩, positive⟩

theorem total_le {t : Table κ α} {weight : α → Nat} {bound : Nat}
    (each : ∀ key a, t.find? key = some a → weight a ≤ bound) :
    t.total weight ≤ t.size * bound := by
  have sum : addUp weight t.values ≤ t.values.length * bound := by
    refine addUp_le fun a member => ?_
    obtain ⟨key, found⟩ := mem_values.1 member
    exact each key a found
  simpa [total, size, values] using sum

omit [DecidableEq κ] in
/-- Each value counts once for the size. -/
theorem size_eq_total (t : Table κ α) : t.size = t.total fun _ => 1 := by
  simp [total, values, size, addUp_one]

end Table

end Rdma
