import Mathlib.Data.List.Nodup
import Rdma.Proofs.Host.Counters
import Rdma.Proofs.Memory.Word

/-!
# Addresses of ports

A port is addressed by numbers packed from the identity of its device and its own number. A global
identifier holds 32 bits of the one plus the other, a local identifier 12 bits of the one above four
bits for the other. Devices draw their identities from the counter that all objects draw from, so
that devices plugged one after the other may be next to each other or any distance apart.

* `Reachable.attested` — a context has the identity and the configuration of one device;
* `portGid_eq_iff`, `portLid_eq_iff` — addresses in terms of numbers;
* `Reachable.addresses_apart` — which ports are told apart by their addresses.
-/

namespace Rdma

namespace Fabric

/-! ## Addresses as numbers -/

section Numbers

variable {uid uid' : Nat} {port port' : UInt8}

theorem toNat_nodeGuid (uid : Nat) :
    (nodeGuid uid).toNat = 0x0002c90300000000 + uid % 2 ^ 32 := by
  have hlow : (UInt64.ofNat uid &&& 0xffffffff).toNat = uid % 2 ^ 32 := by
    have hmask : (0xffffffff : UInt64).toNat = 2 ^ 32 - 1 := rfl
    rw [UInt64.toNat_and, UInt64.toNat_ofNat', hmask, Nat.and_two_pow_sub_one_eq_mod]
    omega
  have hvendor : (0x0002c90300000000 : UInt64).toNat = 2 ^ 32 * 0x2c903 := rfl
  rw [nodeGuid, UInt64.toNat_or, hlow, hvendor,
    ← Nat.two_pow_add_eq_or_of_lt (Nat.mod_lt _ (Nat.two_pow_pos 32))]

/-- The vendor's number leaves so much room that adding a port does not overflow. -/
theorem toNat_nodeGuid_add (uid : Nat) (port : UInt8) :
    (nodeGuid uid + port.toUInt64).toNat = 0x0002c90300000000 + uid % 2 ^ 32 + port.toNat := by
  have hport : port.toNat < 2 ^ 8 := port.toNat_lt
  have huid : uid % 2 ^ 32 < 2 ^ 32 := Nat.mod_lt _ (Nat.two_pow_pos 32)
  rw [UInt64.toNat_add, UInt8.toNat_toUInt64, toNat_nodeGuid]
  exact Nat.mod_eq_of_lt (by omega)

/-- Addresses are equal just when the sums of device and port are: the sum is all they hold, so
ports of adjacent devices can share one. -/
theorem portGid_eq_iff :
    portGid uid port = portGid uid' port' ↔
      uid % 2 ^ 32 + port.toNat = uid' % 2 ^ 32 + port'.toNat := by
  have hinterface : nodeGuid uid + port.toUInt64 = nodeGuid uid' + port'.toUInt64 ↔
      uid % 2 ^ 32 + port.toNat = uid' % 2 ^ 32 + port'.toNat := by
    rw [← UInt64.toNat_inj, toNat_nodeGuid_add, toNat_nodeGuid_add]
    omega
  rw [← hinterface]
  constructor
  · intro hgid
    -- the last eight bytes are those of the interface, highest first
    have hbytes : Memory.bytesOfWord (nodeGuid uid + port.toUInt64) =
        Memory.bytesOfWord (nodeGuid uid' + port'.toUInt64) := by
      refine List.map_congr_left fun k hk => ?_
      rw [List.mem_range] at hk
      have hbyte := congrArg (fun gid : Gid => gid[15 - k]) hgid
      have hplace : 15 - UInt64.ofNat (15 - k) = UInt64.ofNat k := by
        rw [UInt64.ofNat_sub (by omega : k ≤ 15)]
        grind
      have hzero : ¬ 15 - k = 0 := by omega
      have hone : ¬ 15 - k = 1 := by omega
      have height : ¬ 15 - k < 8 := by omega
      simpa only [portGid, Vector.getElem_ofFn, hzero, hone, height, if_false, hplace] using hbyte
    have hword := congrArg Memory.wordOfBytes hbytes
    rwa [Memory.wordOfBytes_bytesOfWord, Memory.wordOfBytes_bytesOfWord] at hword
  · intro hsame
    rw [portGid, portGid, hsame]

theorem toNat_portLid (uid : Nat) (hport : port.toNat < 16) :
    (portLid uid port).toNat = 2 ^ 4 * (uid % 2 ^ 12) + port.toNat := by
  have hlow : (UInt64.ofNat uid &&& 0xfff).toNat = uid % 2 ^ 12 := by
    have hmask : (0xfff : UInt64).toNat = 2 ^ 12 - 1 := rfl
    rw [UInt64.toNat_and, UInt64.toNat_ofNat', hmask, Nat.and_two_pow_sub_one_eq_mod]
    omega
  have hhigh : ((UInt64.ofNat uid &&& 0xfff) <<< 4).toUInt16.toNat = 2 ^ 4 * (uid % 2 ^ 12) := by
    rw [UInt64.toNat_toUInt16, UInt64.toNat_shiftLeft, hlow, Nat.shiftLeft_eq]
    show uid % 2 ^ 12 * 2 ^ 4 % 2 ^ 64 % 2 ^ 16 = _
    omega
  rw [portLid, UInt16.toNat_or, hhigh, UInt8.toNat_toUInt16, ← Nat.two_pow_add_eq_or_of_lt hport]

/-- Where port numbers fit their four bits, the two parts of a local identifier do not mix. -/
theorem portLid_eq_iff (hport : port.toNat < 16) (hport' : port'.toNat < 16) :
    portLid uid port = portLid uid' port' ↔ uid % 2 ^ 12 = uid' % 2 ^ 12 ∧ port = port' := by
  rw [← UInt16.toNat_inj, toNat_portLid uid hport, toNat_portLid uid' hport', ← UInt8.toNat_inj]
  omega

end Numbers

/-! ## Contexts and devices -/

/-- The context is one of the device. -/
def Opens (f : Fabric) (ctx : NativeId) (d : Device) : Prop :=
  ∃ c, f.contexts.find? ctx = some c ∧ c.deviceUid = d.uid

/-- What a context keeps of its device is what an attached device of that identity has. -/
def Attested (f : Fabric) : Prop :=
  ∀ {ctx c}, f.contexts.find? ctx = some c → c.deviceUid < f.nextId ∧
    ∀ d ∈ f.devices, d.uid = c.deviceUid → d.config = c.config

/-- Attached devices have different identities. -/
theorem Sound.uid_inj {f : Fabric} (hf : f.Sound) {d e : Device} (hd : d ∈ f.devices)
    (he : e ∈ f.devices) (hsame : d.uid = e.uid) : d = e :=
  List.inj_on_of_nodup_map hf.devices hd he hsame

/-- No port of one device runs into the ports of the other, in the numbers that global identifiers
hold. -/
def Device.ClearOf (d e : Device) : Prop :=
  d = e ∨ d.uid % 2 ^ 32 + d.config.ports.toNat ≤ e.uid % 2 ^ 32 ∨
    e.uid % 2 ^ 32 + e.config.ports.toNat ≤ d.uid % 2 ^ 32

/-- Devices that are clear of each other have no address in common. -/
theorem portGid_eq_iff_of_clearOf {d e : Device} (hclear : d.ClearOf e) {p q : UInt8}
    (hp : d.config.hasPort p = true) (hq : e.config.hasPort q = true) :
    portGid d.uid p = portGid e.uid q ↔ d = e ∧ p = q := by
  -- ports are numbered from 1 up to how many there are
  have hport {c : DeviceConfig} {p : UInt8} (hp : c.hasPort p = true) :
      0 < p.toNat ∧ p.toNat ≤ c.ports.toNat := by
    simp only [DeviceConfig.hasPort, Bool.and_eq_true, decide_eq_true_eq] at hp
    exact ⟨Nat.pos_of_ne_zero fun hzero => hp.1 (UInt8.toNat_inj.1 hzero),
      UInt8.le_iff_toNat_le.1 hp.2⟩
  have happart {u v p q ports : Nat} (hq : 0 < q) (hp : p ≤ ports) (huv : u + ports ≤ v) :
      u + p ≠ v + q := by omega
  rcases hclear with rfl | hclear | hclear
  · rw [portGid_eq_iff, Nat.add_left_cancel_iff, UInt8.toNat_inj]
    exact (and_iff_right rfl).symm
  · refine iff_of_false (fun hsame => ?_) ?_
    · exact happart (hport hq).1 (hport hp).2 hclear (portGid_eq_iff.1 hsame)
    · rintro ⟨rfl, rfl⟩
      exact happart (hport hp).1 (hport hp).2 hclear rfl
  · refine iff_of_false (fun hsame => ?_) ?_
    · exact happart (hport hp).1 (hport hq).2 hclear (portGid_eq_iff.1 hsame).symm
    · rintro ⟨rfl, rfl⟩
      exact happart (hport hp).1 (hport hp).2 hclear rfl

end Fabric

namespace Host

open Fabric (Device Context Object)

variable {h : Host} {devices : List DeviceConfig}

/-- A context goes on knowing its device, since no identity is given twice. -/
theorem Reachable.attested (hr : Reachable devices h) : h.fabric.Attested := by
  induction hr with
  | fresh memory =>
      intro ctx c hc
      have hnone := fresh_object? memory devices .context ctx
      rw [Fabric.find_context.1 hc] at hnone
      cases hnone
  | note _ _ _ ih => exact ih
  | @perform h op hr ih =>
      intro ctx c hc
      have hdraws := h.perform_draws op
      have hf := hr.sound.fabric
      have hobject := Fabric.find_context.1 hc
      -- a device that comes now has an identity that no context knows
      have hold (hlt : c.deviceUid < h.fabric.nextId)
          (hsame : ∀ d ∈ h.fabric.devices, d.uid = c.deviceUid → d.config = c.config) :
          c.deviceUid < (h.perform op).fabric.nextId ∧
            ∀ d ∈ (h.perform op).fabric.devices, d.uid = c.deviceUid → d.config = c.config := by
        refine ⟨Nat.lt_of_lt_of_le hlt hdraws.nextId_le, fun d hd huid => ?_⟩
        rcases hdraws.devices d hd with hd | hnew
        · exact hsame d hd huid
        · exact absurd (huid.symm.trans hnew) (Nat.ne_of_lt hlt)
      have hkept (ho : h.fabric.object? .context ctx = some (.context c)) :=
        hold (ih (Fabric.find_context.2 ho)).1 (ih (Fabric.find_context.2 ho)).2
      cases h.perform_alters op with
      | keeps hsame => exact hkept (hsame ▸ hobject)
      | removes hremoves => exact hkept (hremoves.object_cases hobject).2
      | adds hcreates hadds =>
          rcases hadds.object_cases hobject with ⟨hkind, rfl, rfl⟩ | ho
          · cases op with
            | openDevice device =>
                obtain ⟨-, -, -, d, hd, hopened⟩ :=
                  (h.openDevice_created device).of_object hf hobject
                obtain rfl := Object.context.inj hopened
                have hmem : d ∈ h.fabric.devices := List.mem_of_find?_eq_some hd
                refine hold (hf.apart d hmem).1 fun e he huid => ?_
                rw [hf.uid_inj he hmem huid]
            | _ => cases hcreates
          · exact hkept ho

/-! ## What ports report -/

theorem queryGid_eq {ctx : NativeId} {c : Context} (hc : h.fabric.contexts.find? ctx = some c)
    {port : UInt8} (hport : c.config.hasPort port = true) :
    queryGid ctx port 0 h = (.ok (Fabric.portGid c.deviceUid port), h) := by
  simp [queryGid, Step.read, Fabric.contextWithPort, Fabric.context, hc, hport]

theorem queryPort_eq {ctx : NativeId} {c : Context} (hc : h.fabric.contexts.find? ctx = some c)
    {port : UInt8} (hport : c.config.hasPort port = true) :
    queryPort ctx port h = (.ok (Fabric.portAttributesOf c port), h) := by
  simp [queryPort, Step.read, Fabric.contextWithPort, Fabric.context, hc, hport, Except.map]

theorem queryPort_refused {ctx : NativeId} {c : Context}
    (hc : h.fabric.contexts.find? ctx = some c) {port : UInt8}
    (hport : c.config.hasPort port = false) : queryPort ctx port h = (.error .invalid, h) := by
  simp [queryPort, Step.read, Fabric.contextWithPort, Fabric.context, hc, hport, Except.map]

/-! ## Identities drawn between two devices -/

/-- A device is plugged and unplugged again, a number of times. -/
def replugging (device : DeviceConfig) : Nat → List Operation
  | 0 => []
  | n + 1 => .plug device :: .unplug device.name :: replugging device n

/-- A device that goes again leaves nothing behind but the identity that it drew. -/
theorem performAll_replugging (device : DeviceConfig) (n : Nat)
    (hname : ∀ d ∈ h.fabric.devices, d.config.name ≠ device.name) :
    (h.performAll (replugging device n)).fabric =
      { h.fabric with nextId := h.fabric.nextId + n } := by
  induction n generalizing h with
  | zero => rfl
  | succ n ih =>
      have hround : ((h.perform (.plug device)).perform (.unplug device.name)).fabric =
          { h.fabric with nextId := h.fabric.nextId + 1 } := by
        let plugged : Device := { uid := h.fabric.nextId, config := device }
        have hdevices : (h.fabric.devices ++ [plugged]).filter (·.config.name ≠ device.name) =
            h.fabric.devices := by
          rw [List.filter_append, List.filter_eq_self.2 (by simpa using hname)]
          simp [plugged]
        exact congrArg (fun devices => { h.fabric with nextId := h.fabric.nextId + 1, devices })
          hdevices
      show (((h.perform (.plug device)).perform (.unplug device.name)).performAll
        (replugging device n)).fabric = _
      rw [ih (by rw [hround]; exact hname), hround]
      show ({ h.fabric with nextId := _ } : Fabric) = _
      rw [Nat.add_assoc, Nat.add_comm 1]

/-- A device that is plugged is opened under the identity that it drew. -/
theorem performAll_plug_open (hh : h.Sound) {d : Device} (huid : d.uid = h.fabric.nextId) :
    (h.performAll [.plug d.config, .openDevice d.listed]).fabric = { h.fabric with
      devices := h.fabric.devices ++ [d]
      nextId := h.fabric.nextId + 2
      contexts := h.fabric.contexts.insert (h.fabric.nextId + 1)
        { deviceUid := d.uid, config := d.config } } := by
  have hdevices : (h.plug d.config).fabric.devices = h.fabric.devices ++ [d] :=
    congrArg (fun uid => h.fabric.devices ++ [({ uid, config := d.config } : Device)]) huid.symm
  have hother : h.fabric.devices.find? (·.uid = d.uid) = none := by
    refine List.find?_eq_none.2 fun e he hsame => ?_
    exact absurd ((of_decide_eq_true hsame).trans huid) (Nat.ne_of_lt (hh.fabric.apart e he).1)
  have hfound : (h.plug d.config).fabric.devices.find? (·.uid = d.listed.native) = some d := by
    rw [hdevices, List.find?_append, Fabric.Device.listed, hother]
    simp
  show (openDevice d.listed (h.plug d.config)).2.fabric = _
  simp only [openDevice, Step.guarded, hfound]
  rw [← hdevices]
  rfl

/-- Two devices of two ports that are there from the start. -/
def neighbour (uid : NativeId) : Device := { uid, config := { name := "near", ports := 2 } }

/-- A device that is plugged later. -/
def latecomer (uid : NativeId) : Device := { uid, config := { name := "late" } }

/-- The context of a device. -/
def contextFor (d : Device) : Context := { deviceUid := d.uid, config := d.config }

/-- Two devices of two ports are opened, and a third when `n` more identities were drawn. -/
def neighbourhood (n : Nat) : Host :=
  ((({} : Host).withDevices [(neighbour 1).config, (neighbour 2).config]).performAll
    [.openDevice (neighbour 1).listed, .openDevice (neighbour 2).listed]).performAll
      (replugging { name := "gone" } n)
    |>.performAll [.plug (latecomer (5 + n)).config, .openDevice (latecomer (5 + n)).listed]

theorem neighbourhood_reachable (n : Nat) :
    Reachable [(neighbour 1).config, (neighbour 2).config] (neighbourhood n) :=
  (((Reachable.fresh {}).performAll _).performAll _).performAll _

theorem neighbourhood_fabric (n : Nat) :
    (neighbourhood n).fabric.devices = [neighbour 1, neighbour 2, latecomer (5 + n)] ∧
    (neighbourhood n).fabric.contexts = ((Table.empty.insert 3 (contextFor (neighbour 1))).insert 4
      (contextFor (neighbour 2))).insert (5 + n + 1) (contextFor (latecomer (5 + n))) := by
  let first := (({} : Host).withDevices [(neighbour 1).config, (neighbour 2).config]).performAll
    [.openDevice (neighbour 1).listed, .openDevice (neighbour 2).listed]
  have hspent : (first.performAll (replugging { name := "gone" } n)).fabric =
      { first.fabric with nextId := 5 + n } :=
    performAll_replugging { name := "gone" } n (by decide)
  have hr : Reachable [(neighbour 1).config, (neighbour 2).config]
      (first.performAll (replugging { name := "gone" } n)) :=
    ((Reachable.fresh {}).performAll _).performAll _
  have hfabric := performAll_plug_open hr.sound (d := latecomer (5 + n)) (by rw [hspent]; rfl)
  rw [hspent] at hfabric
  exact ⟨congrArg Fabric.devices hfabric, congrArg Fabric.contexts hfabric⟩

/-! ## Ports told apart -/

/-- On a reachable host, contexts of attached devices report addresses for the ports that the
devices have. Ports of devices clear of each other have the same global identifier only if they are
one port. Where port numbers fit four bits, the local identifiers of InfiniBand ports are the same
only if the port numbers are and twelve bits of the devices' identities. -/
theorem Reachable.addresses_apart (hr : Reachable devices h) {x y : NativeId} {d e : Device}
    (hd : d ∈ h.fabric.devices) (he : e ∈ h.fabric.devices) (hx : h.fabric.Opens x d)
    (hy : h.fabric.Opens y e) {p q : UInt8} (hp : d.config.hasPort p = true)
    (hq : e.config.hasPort q = true) :
    ∃ gid gid' port port', queryGid x p 0 h = (.ok gid, h) ∧ queryGid y q 0 h = (.ok gid', h) ∧
      queryPort x p h = (.ok port, h) ∧ queryPort y q h = (.ok port', h) ∧
      (d.ClearOf e → (gid = gid' ↔ d = e ∧ p = q)) ∧
      (d.config.linkLayer = .infiniband → e.config.linkLayer = .infiniband →
        p.toNat < 16 → q.toNat < 16 →
          (port.lid = port'.lid ↔ d.uid % 2 ^ 12 = e.uid % 2 ^ 12 ∧ p = q)) := by
  obtain ⟨c, hc, hcd⟩ := hx
  obtain ⟨c', hc', hce⟩ := hy
  have hconfig : d.config = c.config := (hr.attested hc).2 d hd hcd.symm
  have hconfig' : e.config = c'.config := (hr.attested hc').2 e he hce.symm
  refine ⟨_, _, _, _, queryGid_eq hc (hconfig ▸ hp), queryGid_eq hc' (hconfig' ▸ hq),
    queryPort_eq hc (hconfig ▸ hp), queryPort_eq hc' (hconfig' ▸ hq), fun hclear => ?_,
    fun hlink hlink' hp16 hq16 => ?_⟩
  · rw [hcd, hce]
    exact Fabric.portGid_eq_iff_of_clearOf hclear hp hq
  · simp only [Fabric.portAttributesOf, ← hconfig, ← hconfig', hlink, hlink', if_true, hcd, hce]
    exact Fabric.portLid_eq_iff hp16 hq16

/-- The second port of a device and the port of one that was plugged when other identities had been
drawn. -/
theorem latecomer_apart :
    let h := neighbourhood 0
    (neighbour 1).ClearOf (latecomer 5) ∧ ∃ gid gid' port port',
      queryGid 3 2 0 h = (.ok gid, h) ∧ queryGid 6 1 0 h = (.ok gid', h) ∧
      queryPort 3 2 h = (.ok port, h) ∧ queryPort 6 1 h = (.ok port', h) ∧
      gid ≠ gid' ∧ port.lid ≠ port'.lid := by
  intro h
  have hclear : (neighbour 1).ClearOf (latecomer 5) := .inr (.inl (by decide))
  obtain ⟨gid, gid', port, port', hgid, hgid', hport, hport', hgids, hlids⟩ :=
    (neighbourhood_reachable 0).addresses_apart (x := 3) (y := 6) (d := neighbour 1)
      (e := latecomer 5) (p := 2) (q := 1) (by decide) (by decide) ⟨_, rfl, rfl⟩ ⟨_, rfl, rfl⟩
      (by decide) (by decide)
  refine ⟨hclear, gid, gid', port, port', hgid, hgid', hport, hport', fun hsame => ?_,
    fun hsame => ?_⟩
  · exact absurd ((hgids hclear).1 hsame).2 (by decide)
  · exact absurd ((hlids rfl rfl (by decide) (by decide)).1 hsame).2 (by decide)

/-- Two devices of two ports that are plugged one after the other share a global identifier. A
device that is plugged 4096 identities after another has the local identifiers of that. -/
theorem addresses_coincide :
    let h := neighbourhood 4092
    Reachable [(neighbour 1).config, (neighbour 2).config] h ∧
      h.fabric.devices = [neighbour 1, neighbour 2, latecomer 4097] ∧
      h.fabric.Opens 3 (neighbour 1) ∧ h.fabric.Opens 4 (neighbour 2) ∧
      h.fabric.Opens 4098 (latecomer 4097) ∧
      (∃ gid, queryGid 3 2 0 h = (.ok gid, h) ∧ queryGid 4 1 0 h = (.ok gid, h)) ∧
      ∃ port port', queryPort 3 1 h = (.ok port, h) ∧ queryPort 4098 1 h = (.ok port', h) ∧
        port.linkLayer = LinkLayer.infiniband.code ∧ port'.linkLayer = LinkLayer.infiniband.code ∧
        port.lid = port'.lid := by
  have hr := neighbourhood_reachable 4092
  obtain ⟨hdevices, hcontexts⟩ := neighbourhood_fabric 4092
  -- nothing else is used of how this host came about
  generalize neighbourhood 4092 = h at hr hdevices hcontexts ⊢
  have hnear : h.fabric.contexts.find? 3 = some (contextFor (neighbour 1)) := by
    rw [hcontexts]
    rfl
  have hnext : h.fabric.contexts.find? 4 = some (contextFor (neighbour 2)) := by
    rw [hcontexts]
    rfl
  have hlate : h.fabric.contexts.find? 4098 = some (contextFor (latecomer 4097)) := by
    rw [hcontexts]
    rfl
  refine ⟨hr, hdevices, ⟨_, hnear, rfl⟩, ⟨_, hnext, rfl⟩, ⟨_, hlate, rfl⟩,
    ?_, ?_⟩
  · have hgid : Fabric.portGid (contextFor (neighbour 1)).deviceUid 2 =
        Fabric.portGid (contextFor (neighbour 2)).deviceUid 1 := by decide
    refine ⟨_, queryGid_eq hnear (by decide), ?_⟩
    rw [queryGid_eq hnext (by decide), hgid]
  · exact ⟨_, _, queryPort_eq hnear (by decide), queryPort_eq hlate (by decide), rfl, rfl,
      by decide⟩

end Host

end Rdma
