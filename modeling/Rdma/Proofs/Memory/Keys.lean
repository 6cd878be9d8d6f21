import Rdma.Proofs.Host.Counters
import Rdma.Proofs.Memory.Covering

/-!
# Keys of memory regions

A region gets the key that the counter of keys is at, one key for local and for remote use. The
counter never stops at zero, and comes round to its first key after 2^32 - 1 regions. Whether a
region is still live with the next key is not asked, so keys tell live regions apart just as long as
none of them was left that far behind.

* `Course.keyed` — the key of a region, by how many were registered before it;
* `Course.keys_apart` — when keys are different, and what is found by them;
* `keys_coincide` — a region that was left behind.
-/

namespace Rdma

/-- The key of the region that is registered after `n` others. -/
def keyAt (n : Nat) : UInt32 := UInt32.ofNat ((0xfff + n) % (2 ^ 32 - 1) + 1)

theorem toNat_keyAt (n : Nat) : (keyAt n).toNat = (0xfff + n) % (2 ^ 32 - 1) + 1 := by
  have hmod := Nat.mod_lt (0xfff + n) (y := 2 ^ 32 - 1) (by decide)
  exact UInt32.toNat_ofNat_of_lt' (by show _ < 2 ^ 32; omega)

theorem keyAt_ne_zero (n : Nat) : keyAt n ≠ 0 := by
  intro hzero
  have hnat := toNat_keyAt n
  rw [hzero] at hnat
  exact absurd hnat.symm (Nat.succ_ne_zero _)

/-- Keys come round. -/
theorem keyAt_eq_iff {m n : Nat} : keyAt m = keyAt n ↔ m % (2 ^ 32 - 1) = n % (2 ^ 32 - 1) := by
  rw [← UInt32.toNat_inj, toNat_keyAt, toNat_keyAt]
  omega

/-- No two of 2^32 - 1 keys in a row are the same. -/
theorem keyAt_ne {m n : Nat} (hlt : m < n) (hnear : n < m + (2 ^ 32 - 1)) : keyAt m ≠ keyAt n := by
  intro hsame
  have hmod := keyAt_eq_iff.1 hsame
  omega

/-- What is found in a list does not depend on its order, if there is one candidate at most. -/
theorem find?_eq_of_perm {α : Type} {l l' : List α} {p : α → Bool} (hperm : l.Perm l')
    (hone : ∀ a ∈ l, ∀ b ∈ l, p a = true → p b = true → a = b) : l.find? p = l'.find? p := by
  cases hfound : l'.find? p with
  | none =>
      rw [List.find?_eq_none] at hfound ⊢
      exact fun a ha => hfound a (hperm.mem_iff.1 ha)
  | some b =>
      have hb : b ∈ l := hperm.mem_iff.2 (List.mem_of_find?_eq_some hfound)
      have hpb : p b = true := List.find?_some hfound
      obtain ⟨a, ha⟩ := Option.isSome_iff_exists.1 (List.find?_isSome.2 ⟨b, hb, hpb⟩)
      rw [ha, hone a (List.mem_of_find?_eq_some ha) b hb (List.find?_some ha) hpb]

namespace Fabric

variable {f : Fabric}

theorem nextKey_allocKey {n : Nat} (hkey : f.nextKey = keyAt n) :
    f.allocKey.2.nextKey = keyAt (n + 1) := by
  have hnow := toNat_keyAt n
  have hnext := toNat_keyAt (n + 1)
  have hmod := Nat.mod_lt (0xfff + n) (y := 2 ^ 32 - 1) (by decide)
  have hsucc : (keyAt n + 1).toNat = ((keyAt n).toNat + 1) % 2 ^ 32 := UInt32.toNat_add _ _
  simp only [allocKey, hkey, ← UInt32.toNat_inj]
  split
  case isTrue hover =>
    have hzero : (keyAt n + 1).toNat = 0 := hover
    rw [hnext]
    show 1 = _
    omega
  case isFalse hover =>
    have hzero : (keyAt n + 1).toNat ≠ 0 := hover
    omega

end Fabric

namespace Host

open Fabric (Region)

variable {h : Host} {devices : List DeviceConfig} {past : List (Host × Operation)}

/-! ## Registrations of the past -/

/-- How many regions were registered. -/
def registrations (past : List (Host × Operation)) : Nat :=
  past.countP fun done => done.2.registers done.1

/-- How many regions were registered before the one with the identity. -/
def rank (past : List (Host × Operation)) (id : NativeId) : Nat :=
  past.countP fun done => done.2.registers done.1 && decide (done.1.fabric.nextId < id)

/-- How many regions were registered from the one with the identity on. -/
def age (past : List (Host × Operation)) (id : NativeId) : Nat :=
  past.countP fun done => done.2.registers done.1 && decide (id ≤ done.1.fabric.nextId)

theorem rank_add_age (past : List (Host × Operation)) (id : NativeId) :
    rank past id + age past id = registrations past := by
  have hparts := List.countP_eq_countP_filter_add past (fun done => done.2.registers done.1)
    fun done => decide (done.1.fabric.nextId < id)
  rw [List.countP_filter, List.countP_filter] at hparts
  simp only [← decide_not, Nat.not_lt] at hparts
  exact hparts.symm

/-- The identity was drawn for a region. -/
def Drawn (past : List (Host × Operation)) (id : NativeId) : Prop :=
  ∃ done ∈ past, done.2.registers done.1 = true ∧ done.1.fabric.nextId = id

theorem Drawn.age_pos {id : NativeId} (hd : Drawn past id) : 0 < age past id := by
  obtain ⟨done, hdone, hregisters, rfl⟩ := hd
  exact List.countP_pos_iff.2 ⟨done, hdone, by simp [hregisters]⟩

/-- Regions rank in the order of their identities. -/
theorem Drawn.rank_lt {id id' : NativeId} (hd : Drawn past id) (hlt : id < id') :
    rank past id < rank past id' := by
  obtain ⟨done, hdone, hregisters, rfl⟩ := hd
  have hmono (l : List (Host × Operation)) : rank l done.1.fabric.nextId ≤ rank l id' := by
    refine List.countP_mono_left fun d _ hd => ?_
    simp only [Bool.and_eq_true, decide_eq_true_eq] at hd ⊢
    exact ⟨hd.1, Nat.lt_trans hd.2 hlt⟩
  obtain ⟨before, after, rfl⟩ := List.append_of_mem hdone
  have hfirst := hmono before
  have hlast := hmono after
  simp only [rank] at hfirst hlast
  simp only [rank, List.countP_append, List.countP_cons, hregisters, hlt, Nat.lt_irrefl,
    decide_true, decide_false, Bool.and_true, Bool.and_false, Bool.false_eq_true, if_true, if_false]
  omega

/-- What is done later does not change how an old identity ranks. -/
theorem rank_concat {id : NativeId} (hid : id ≤ h.fabric.nextId) (op : Operation) :
    rank (past ++ [(h, op)]) id = rank past id := by
  have hnot : ¬ h.fabric.nextId < id := Nat.not_lt.2 hid
  simp [rank, List.countP_append, hnot]

theorem Drawn.concat {id : NativeId} (hd : Drawn past id) (op : Operation) :
    Drawn (past ++ [(h, op)]) id := by
  obtain ⟨done, hdone, hdrawn⟩ := hd
  exact ⟨done, List.mem_append_left _ hdone, hdrawn⟩

/-! ## The keys of live regions -/

/-- The counter has come as far as regions were registered, and each region has the key that it was
at then. -/
structure Keyed (past : List (Host × Operation)) (h : Host) : Prop where
  nextKey : h.fabric.nextKey = keyAt (registrations past)
  below : ∀ {id}, Drawn past id → id < h.fabric.nextId
  drawn : ∀ {id r}, h.fabric.regions.find? id = some r → Drawn past id
  lkey : ∀ {id r}, h.fabric.regions.find? id = some r → r.lkey = keyAt (rank past id)
  rkey : ∀ {id r}, h.fabric.regions.find? id = some r → r.rkey = r.lkey

/-- All regions of the past rank before the next one. -/
theorem Keyed.rank_nextId (hk : Keyed past h) : rank past h.fabric.nextId = registrations past := by
  refine List.countP_congr fun done hdone => ?_
  constructor
  · intro hboth
    exact (Bool.and_eq_true _ _).mp hboth |>.1
  · intro hregisters
    have hlt := hk.below ⟨done, hdone, hregisters, rfl⟩
    simp [hregisters, hlt]

theorem nextId_of_registers {op : Operation} (hop : op.registers h = true) :
    (h.perform op).fabric.nextId = h.fabric.nextId + 1 := by
  cases op with
  | regMr pd addr length permission =>
      show (regMr pd addr length permission h).2.fabric.nextId = _
      simp only [Operation.registers, regMr, Step.guarded] at hop ⊢
      split at hop
      case h_1 => cases hop
      case h_2 => rfl
  | _ => cases hop

/-- A new region has the key that the counter is at. -/
theorem Registered.drawn {id : NativeId} {r : Region} {op : Operation}
    (hr : Registered [(h, op)] id r) :
    op.registers h = true ∧ id = h.fabric.nextId ∧ r.lkey = h.fabric.nextKey ∧
      r.rkey = h.fabric.nextKey := by
  obtain ⟨g, hpast, hok⟩ := hr
  obtain ⟨rfl, rfl⟩ := Prod.mk.inj (List.mem_singleton.1 hpast)
  obtain ⟨-, -, hgrant⟩ := Step.guarded_ok hok
  obtain ⟨hid, hinfo⟩ := RegionGrant.mk.inj hgrant
  obtain ⟨-, -, hlkey, hrkey⟩ := RegionInfo.mk.inj hinfo
  refine ⟨?_, hid.symm, hlkey.symm, hrkey.symm⟩
  simp only [Operation.registers, hok]
  rfl

/-- One operation keeps the keys: a region gets the next one, and nothing else draws any. -/
theorem Keyed.perform (hk : Keyed past h) (hh : h.Sound) (op : Operation) :
    Keyed (past ++ [(h, op)]) (h.perform op) := by
  have hdraws := h.perform_draws op
  have hnew (hop : op.registers h = true) : Drawn (past ++ [(h, op)]) h.fabric.nextId :=
    ⟨(h, op), List.mem_append_right _ (List.mem_singleton.2 rfl), hop, rfl⟩
  constructor
  case nextKey =>
    rw [hdraws.nextKey, registrations, List.countP_append, List.countP_singleton]
    split
    · exact Fabric.nextKey_allocKey hk.nextKey
    · exact hk.nextKey
  case below =>
    rintro id ⟨done, hdone, hregisters, rfl⟩
    rcases List.mem_append.1 hdone with hdone | hdone
    · exact Nat.lt_of_lt_of_le (hk.below ⟨done, hdone, hregisters, rfl⟩) hdraws.nextId_le
    · obtain rfl := List.mem_singleton.1 hdone
      rw [nextId_of_registers hregisters]
      exact Nat.lt_succ_self _
  case drawn =>
    intro id r hr
    rcases perform_region hh op hr with hr | ⟨rfl, hregistered⟩
    · exact (hk.drawn hr).concat op
    · exact hnew hregistered.drawn.1
  case lkey =>
    intro id r hr
    rcases perform_region hh op hr with hr | ⟨rfl, hregistered⟩
    · rw [rank_concat (Nat.le_of_lt (hk.below (hk.drawn hr))), hk.lkey hr]
    · obtain ⟨-, -, hlkey, -⟩ := hregistered.drawn
      rw [rank_concat (Nat.le_refl _), hlkey, hk.nextKey, hk.rank_nextId]
  case rkey =>
    intro id r hr
    rcases perform_region hh op hr with hr | ⟨rfl, hregistered⟩
    · exact hk.rkey hr
    · obtain ⟨-, -, hlkey, hrkey⟩ := hregistered.drawn
      rw [hlkey, hrkey]

/-- Along every course a region has the key of its place among the registrations. -/
theorem Course.keyed (hc : Course devices past h) : Keyed past h := by
  induction hc with
  | fresh memory =>
      have hnone {id : NativeId} {r : Region} :
          (({ memory } : Host).withDevices devices).fabric.regions.find? id ≠ some r := by
        intro hr
        have hfresh := fresh_object? memory devices .memoryRegion id
        rw [Fabric.find_region.1 hr] at hfresh
        cases hfresh
      have hundrawn {id : NativeId} : ¬ Drawn [] id := by
        rintro ⟨done, hdone, -⟩
        cases hdone
      constructor
      case nextKey =>
        obtain ⟨attached, nextId, hfabric⟩ := Fabric.ofDevices_eq devices
        simp only [withDevices, hfabric]
        decide
      case below => exact fun hdrawn => absurd hdrawn hundrawn
      case drawn => exact fun hr => absurd hr hnone
      case lkey => exact fun hr => absurd hr hnone
      case rkey => exact fun hr => absurd hr hnone
  | perform op hc ih => exact ih.perform hc.reachable.sound op
  | note _ _ _ ih => exact ⟨ih.nextKey, ih.below, ih.drawn, ih.lkey, ih.rkey⟩

/-- A region that was not left behind has its key for itself. -/
theorem Keyed.ne_of_lt (hk : Keyed past h) {id id' : NativeId} {r r' : Region}
    (hr : h.fabric.regions.find? id = some r) (hr' : h.fabric.regions.find? id' = some r')
    (hlt : id < id') (hrecent : age past id < 2 ^ 32) : r.lkey ≠ r'.lkey := by
  have hrank := (hk.drawn hr).rank_lt hlt
  have hage := (hk.drawn hr').age_pos
  have htotal := rank_add_age past id
  have htotal' := rank_add_age past id'
  rw [hk.lkey hr, hk.lkey hr']
  exact keyAt_ne hrank (by omega)

/-- On every course, each live region has one key for local and for remote use, which is not zero,
and two have the same if and only if the numbers of regions registered before them are the same
modulo 2^32 - 1. As long as each live region is among the last 2^32 - 1 registered, no two have the
same key, and what is found by a key does not depend on the order of the table. -/
theorem Course.keys_apart (hc : Course devices past h) :
    (∀ id r, h.fabric.regions.find? id = some r → r.lkey = r.rkey ∧ r.lkey ≠ 0) ∧
    (∀ id r id' r', h.fabric.regions.find? id = some r → h.fabric.regions.find? id' = some r' →
      (r.lkey = r'.lkey ↔ rank past id % (2 ^ 32 - 1) = rank past id' % (2 ^ 32 - 1))) ∧
    ((∀ id r, h.fabric.regions.find? id = some r → age past id < 2 ^ 32) →
      (∀ id r id' r', h.fabric.regions.find? id = some r → h.fabric.regions.find? id' = some r' →
        r.lkey = r'.lkey → id = id') ∧
      ∀ f : Fabric, h.fabric.regions.values.Perm f.regions.values → ∀ pd,
        (∀ sge, h.fabric.localRegion? pd sge = f.localRegion? pd sge) ∧
        ∀ target length,
          h.fabric.remoteRegion? pd target length = f.remoteRegion? pd target length) := by
  have hk := hc.keyed
  refine ⟨fun id r hr => ⟨(hk.rkey hr).symm, ?_⟩, fun id r id' r' hr hr' => ?_, fun hrecent => ?_⟩
  · rw [hk.lkey hr]
    exact keyAt_ne_zero _
  · rw [hk.lkey hr, hk.lkey hr']
    exact keyAt_eq_iff
  have happart (id r id' r') (hr : h.fabric.regions.find? id = some r)
      (hr' : h.fabric.regions.find? id' = some r') (hsame : r.lkey = r'.lkey) : id = id' := by
    rcases Nat.lt_trichotomy id id' with hlt | heq | hlt
    · exact absurd hsame (hk.ne_of_lt hr hr' hlt (hrecent id r hr))
    · exact heq
    · exact absurd hsame.symm (hk.ne_of_lt hr' hr hlt (hrecent id' r' hr'))
  have hone (r r' : Region) (hr : r ∈ h.fabric.regions.values) (hr' : r' ∈ h.fabric.regions.values)
      (hsame : r.lkey = r'.lkey) : r = r' := by
    obtain ⟨id, hr⟩ := Table.mem_values.1 hr
    obtain ⟨id', hr'⟩ := Table.mem_values.1 hr'
    obtain rfl := happart id r id' r' hr hr' hsame
    exact Option.some.inj (hr.symm.trans hr')
  refine ⟨happart, fun f hperm pd => ⟨fun sge => ?_, fun target length => ?_⟩⟩
  · refine find?_eq_of_perm hperm fun r hr r' hr' hmatch hmatch' => hone r r' hr hr' ?_
    simp only [Bool.and_eq_true, decide_eq_true_eq] at hmatch hmatch'
    exact hmatch.1.2.trans hmatch'.1.2.symm
  · refine find?_eq_of_perm hperm fun r hr r' hr' hmatch hmatch' => hone r r' hr hr' ?_
    simp only [Bool.and_eq_true, decide_eq_true_eq] at hmatch hmatch'
    have hkey {r : Region} (hr : r ∈ h.fabric.regions.values) : r.rkey = r.lkey := by
      obtain ⟨id, hr⟩ := Table.mem_values.1 hr
      exact hk.rkey hr
    rw [← hkey hr, ← hkey hr', hmatch.1.2, hmatch'.1.2]

/-- Two regions of one protection domain that have an address in common. -/
theorem registered_twice_apart :
    let h := (({} : Host).withDevices [{}]).performAll
      (registering 4096 ++ [.regMr 3 4096 64 .standard])
    ∃ r r', h.fabric.regions.find? 4 = some r ∧ h.fabric.regions.find? 5 = some r' ∧
      r.lkey ≠ r'.lkey ∧
      ∀ f : Fabric, h.fabric.regions.values.Perm f.regions.values → ∀ sge,
        h.fabric.localRegion? 3 sge = f.localRegion? 3 sge := by
  intro h
  let ops : List Operation := registering 4096 ++ [.regMr 3 4096 64 .standard]
  let past := (({} : Host).withDevices [{}]).history ops
  have hc : Course [{}] past h := (Course.fresh {}).performAll ops
  have hrecent : ∀ id r, h.fabric.regions.find? id = some r → age past id < 2 ^ 32 := by
    intro id _ _
    have hlength : past.length = 4 := by
      rw [← List.length_map (·.2), map_history]
      rfl
    have hcount : age past id ≤ past.length := List.countP_le_length
    omega
  obtain ⟨happart, hfound⟩ := hc.keys_apart.2.2 hrecent
  refine ⟨_, _, rfl, rfl, fun hsame => ?_, fun f hperm sge => (hfound f hperm 3).1 sge⟩
  exact absurd (happart 4 _ 5 _ rfl rfl hsame) (by decide)

/-! ## A region left behind -/

/-- The fabric once `n` identities were drawn, with the counter of keys at `key`. -/
def spent (f : Fabric) (n : Nat) (key : UInt32) : Fabric :=
  { f with nextId := f.nextId + n, nextKey := key }

/-- A region with one key for both uses. -/
def regionOf (pd : NativeId) (length : UInt64) (key : UInt32) : Region :=
  { pd, addr := 4096, length, permission := .standard, lkey := key, rkey := key }

def withRegion (f : Fabric) (id : NativeId) (r : Region) : Fabric :=
  { f with regions := f.regions.insert id r }

theorem perform_regMr {pd : NativeId} {length : UInt64} {k : Nat}
    (hcheck : h.fabric.checkRegion pd 4096 length .standard = .ok ())
    (hkey : h.fabric.nextKey = keyAt k) :
    (h.perform (.regMr pd 4096 length .standard)).fabric =
      withRegion (spent h.fabric 1 (keyAt (k + 1))) h.fabric.nextId
        (regionOf pd length (keyAt k)) := by
  rw [← Fabric.nextKey_allocKey hkey, ← hkey]
  show (regMr pd 4096 length .standard h).2.fabric = _
  simp only [regMr, Step.guarded, hcheck]
  rfl

/-- A region of a protection domain is registered and deregistered again, a number of times. The
first of them gets the identity `id`. -/
def renewing (pd : NativeId) : Nat → NativeId → List Operation
  | 0, _ => []
  | n + 1, id => .regMr pd 4096 64 .standard :: .deregMr id :: renewing pd n (id + 1)

/-- A region that goes again leaves nothing behind but the identity and the key that it drew. -/
theorem perform_regMr_deregMr {pd : NativeId} {k : Nat}
    (hcheck : h.fabric.checkRegion pd 4096 64 .standard = .ok ())
    (hfree : h.fabric.regions.find? h.fabric.nextId = none) (hkey : h.fabric.nextKey = keyAt k) :
    ((h.perform (.regMr pd 4096 64 .standard)).perform (.deregMr h.fabric.nextId)).fabric =
      spent h.fabric 1 (keyAt (k + 1)) := by
  have hregistered := perform_regMr hcheck hkey
  generalize h.perform (.regMr pd 4096 64 .standard) = g at hregistered ⊢
  have hcontains : g.fabric.regions.contains h.fabric.nextId = true := by
    simp [hregistered, withRegion, Table.contains]
  show (deregMr h.fabric.nextId g).2.fabric = _
  simp only [deregMr, Step.guarded, hcontains, if_true]
  rw [hregistered]
  exact congrArg (fun regions => { spent h.fabric 1 (keyAt (k + 1)) with regions })
    (Table.erase_insert hfree _)

/-- Each round of registering and deregistering spends a key and an identity, and no more. -/
theorem performAll_renewing {pd : NativeId} {k : Nat}
    (hcheck : h.fabric.checkRegion pd 4096 64 .standard = .ok ())
    (hfree : ∀ id, h.fabric.nextId ≤ id → h.fabric.regions.find? id = none)
    (hkey : h.fabric.nextKey = keyAt k) (n : Nat) :
    (h.performAll (renewing pd n h.fabric.nextId)).fabric = spent h.fabric n (keyAt (k + n)) := by
  induction n generalizing h k with
  | zero =>
      rw [Nat.add_zero, ← hkey]
      rfl
  | succ n ih =>
      have hround := perform_regMr_deregMr hcheck (hfree _ (Nat.le_refl _)) hkey
      show (((h.perform (.regMr pd 4096 64 .standard)).perform
        (.deregMr h.fabric.nextId)).performAll (renewing pd n (h.fabric.nextId + 1))).fabric = _
      generalize (h.perform (.regMr pd 4096 64 .standard)).perform (.deregMr h.fabric.nextId) = g
        at hround ⊢
      have hnext : g.fabric.nextId = h.fabric.nextId + 1 := congrArg Fabric.nextId hround
      have hrest : (g.performAll (renewing pd n g.fabric.nextId)).fabric =
          spent g.fabric n (keyAt (k + 1 + n)) := by
        refine ih ?_ (fun id hid => ?_) ?_
        · rw [hround]
          exact hcheck
        · rw [hround] at hid ⊢
          exact hfree id (Nat.le_of_succ_le hid)
        · rw [hround]
          rfl
      rw [← hnext, hrest, hround]
      simp only [spent, Nat.add_assoc, Nat.add_comm 1]

/-- One region is registered, then `n` others that go again, and then one more. -/
def renewed (n : Nat) : Host :=
  (((({} : Host).withDevices [{}]).performAll (registering 4096)).performAll
    (renewing 3 n 5)).perform (.regMr 3 4096 64 .standard)

theorem renewed_reachable (n : Nat) : Reachable [{}] (renewed n) :=
  (((Reachable.fresh {}).performAll _).performAll _).perform _

/-- After the rounds there are the region registered before them and the one registered after. -/
theorem renewed_regions (n : Nat) : (renewed n).fabric.regions =
    (Table.empty.insert 4 (regionOf 3 16 (keyAt 0))).insert (5 + n)
      (regionOf 3 64 (keyAt (1 + n))) := by
  let first := (({} : Host).withDevices [{}]).performAll (registering 4096)
  have hspent : (first.performAll (renewing 3 n 5)).fabric =
      spent first.fabric n (keyAt (1 + n)) := by
    refine performAll_renewing (h := first) (by decide) (fun id hid => ?_) (by decide) n
    have hother : ¬ id = 4 := fun heq => absurd hid (by rw [heq]; decide)
    show (Table.empty.insert 4 (regionOf 3 16 (keyAt 0))).find? id = none
    simp [hother]
  have hcheck :
      (spent first.fabric n (keyAt (1 + n))).checkRegion 3 4096 64 .standard = .ok () := by
    show first.fabric.checkRegion 3 4096 64 .standard = .ok ()
    decide
  rw [← hspent] at hcheck
  have hlast := perform_regMr hcheck (congrArg Fabric.nextKey hspent)
  rw [hspent] at hlast
  exact congrArg Fabric.regions hlast

/-- After 2^32 - 1 registrations a region is registered that has the key of the first. Both are live
in one protection domain and cover the same bytes, and which of them is found depends on the order
of the table. -/
theorem keys_coincide :
    let h := renewed 4294967294
    Reachable [{}] h ∧ ∃ r r', h.fabric.regions.find? 4 = some r ∧
      h.fabric.regions.find? 4294967299 = some r' ∧ r ≠ r' ∧ r.lkey = r'.lkey ∧
      h.fabric.localRegion? 3 ⟨4096, 16, r.lkey⟩ = some r ∧
      ∃ f : Fabric, h.fabric.regions.values.Perm f.regions.values ∧
        f.localRegion? 3 ⟨4096, 16, r.lkey⟩ = some r' := by
  have hr := renewed_reachable 4294967294
  have hregions := renewed_regions 4294967294
  -- nothing else is used of how this host came about
  generalize renewed 4294967294 = h at hr hregions ⊢
  refine ⟨hr, regionOf 3 16 4096, regionOf 3 64 4096, ?_, ?_, by decide, rfl, ?_, ?_⟩
  · rw [hregions]
    rfl
  · rw [hregions]
    rfl
  · rw [Fabric.localRegion?, hregions]
    rfl
  · refine ⟨{ h.fabric with regions :=
      (Table.empty.insert 4294967299 (regionOf 3 64 4096)).insert 4 (regionOf 3 16 4096) }, ?_, rfl⟩
    rw [hregions]
    exact List.Perm.swap _ _ []

end Host

end Rdma
