import Rdma.Proofs.QueuePair.Isolation
import Rdma.Proofs.QueuePair.States

/-!
# Queue pairs while they are connected

Every modification runs the engine over all send queues. It goes past two queue pairs that have
nothing to send and are connected to each other, or not at all: what waits elsewhere waits for
somebody else. So a modification of one of them does to it what it says, and nothing to the other,
whatever else there is on the fabric.

* `progress_paired` — the engine goes past;
* `modifyQp_paired` — what one modification does to the two.
-/

namespace Rdma

open Fabric (QueuePair)

/-- The queue pair has nothing to send, and is connected to the number or not at all. -/
structure Fabric.QueuePair.Awaits (q : QueuePair) (number : UInt32) : Prop where
  idle : q.sendQueue = []
  destination : q.destination = none ∨ q.destination = some number

/-- Two queue pairs that each await the other. -/
structure Fabric.Paired (f : Fabric) (a b : NativeId) (p q : QueuePair) : Prop where
  left : f.qps.find? a = some p
  right : f.qps.find? b = some q
  apart : a ≠ b
  forth : p.Awaits q.number
  back : q.Awaits p.number

namespace Fabric

variable {f : Fabric} {a b : NativeId} {p q : QueuePair}

theorem Paired.symm (hp : f.Paired a b p q) : f.Paired b a q p :=
  ⟨hp.right, hp.left, hp.apart.symm, hp.back, hp.forth⟩

/-- No other reliable queue pair reaches them. -/
theorem Paired.unreached (hp : f.Paired a b p q) (hf : f.Numbered) {id : NativeId} {s : QueuePair}
    (hs : f.qps.find? id = some s) (hreliable : s.transport = .reliable) (hid : id ≠ b)
    {t : QueuePair} : ¬ f.Connected s a t := by
  intro hconnected
  obtain rfl := Option.some.inj (hp.left.symm.trans hconnected.found)
  have hback := hconnected.back hreliable
  rcases hp.forth.destination with hnone | hsome
  · rw [hnone] at hback
    cases hback
  · have hnumber : q.number = s.number := Option.some.inj (hsome.symm.trans hback)
    have hsender := (hf s.number id).2 ⟨s, hs, rfl⟩
    have hother := (hf s.number b).2 ⟨q, hp.right, hnumber⟩
    exact hid (Option.some.inj (hsender.symm.trans hother))

end Fabric

namespace Host

variable {h : Host} {devices : List DeviceConfig} {a b : NativeId} {p q : QueuePair}

/-- The engine goes past queue pairs that await each other, where all that can be sent is sent by
reliable ones. -/
theorem progress_paired (hp : h.fabric.Paired a b p q) (hh : h.fabric.Numbered)
    (hsenders : ∀ id s, h.fabric.qps.find? id = some s → s.state = .rts → s.sendQueue ≠ [] →
      s.transport = .reliable) : h.progress.fabric.Paired a b p q := by
  let others (id : NativeId) : Prop := id ≠ a ∧ id ≠ b
  -- neither of the two sends
  have houtside {id : NativeId} {s : QueuePair} (hs : h.fabric.qps.find? id = some s)
      (hne : s.sendQueue ≠ []) : others id := by
    constructor
    · rintro rfl
      obtain rfl := Option.some.inj (hs.symm.trans hp.left)
      exact hne hp.forth.idle
    · rintro rfl
      obtain rfl := Option.some.inj (hs.symm.trans hp.right)
      exact hne hp.back.idle
  have hparts : h.fabric.Parts others := by
    intro id s peerId t hs hrts hne hconnected
    have hid := houtside hs hne
    have hreliable := hsenders id s hs hrts hne
    refine ⟨fun _ => ⟨?_, ?_⟩, fun _ => hid⟩
    · rintro rfl
      exact hp.unreached hh hs hreliable hid.2 hconnected
    · rintro rfl
      exact hp.symm.unreached hh hs hreliable hid.1 hconnected
  have hcalm {id : NativeId} (hid : ¬ others id) : ¬ h.Due id := by
    intro hdue
    obtain ⟨s, pending, rest, hs, -, hsend⟩ := hdue.waiting
    exact hid (houtside hs (hsend ▸ List.cons_ne_nil _ _))
  have hsecludes := (progress_steps h).secludes hh hparts hcalm
  refine { hp with left := ?_, right := ?_ }
  · exact (hsecludes.outside fun hin => hin.1 rfl).trans hp.left
  · exact (hsecludes.outside fun hin => hin.2 rfl).trans hp.right

/-- A modification that is allowed and leads to no state that clears or flushes is applied, and the
engine runs. -/
theorem modifyQp_ok {id : NativeId} {attributes : QpAttributes} {mask : QpMask} {target : QpState}
    (hp : h.fabric.qps.find? id = some p) (hallows : h.Allows p attributes mask target)
    (htarget : target = .init ∨ target = .rtr ∨ target = .rts) :
    modifyQp id attributes mask h =
      (.ok (), (h.updateQp id (·.modified attributes mask target)).progress) := by
  obtain ⟨c, hc, hchecked⟩ := hallows.valid
  simp only [modifyQp, hp, hc, hallows.leads, hallows.legal, hchecked, ok_bind, pure_eq_ok,
    Bool.not_true, Bool.false_eq_true, if_false]
  rcases htarget with rfl | rfl | rfl <;> rfl

/-- On a reachable host, a modification of one of two queue pairs that await each other changes that
one as it says, and nothing else of the two. -/
theorem modifyQp_paired (hr : Reachable devices h) (hp : h.fabric.Paired a b p q)
    {attributes : QpAttributes} {mask : QpMask} {target : QpState}
    (hallows : h.Allows p attributes mask target)
    (htarget : target = .init ∨ target = .rtr ∨ target = .rts)
    (hawaits : (p.modified attributes mask target).Awaits q.number) :
    ∃ k, modifyQp a attributes mask h = (.ok (), k) ∧ Reachable devices k ∧
      k.fabric.Paired a b (p.modified attributes mask target) q ∧
      k.fabric.skeleton = h.fabric.skeleton := by
  let g := h.updateQp a (·.modified attributes mask target)
  have hmodify : modifyQp a attributes mask h = (.ok (), g.progress) :=
    modifyQp_ok hp.left hallows htarget
  have hreachable : Reachable devices (h.perform (.modifyQp a attributes mask)) := .perform _ hr
  have hperform : h.perform (.modifyQp a attributes mask) = g.progress := congrArg Prod.snd hmodify
  have hskeleton : (h.perform (.modifyQp a attributes mask)).fabric.skeleton = h.fabric.skeleton :=
    (h.modifyQp_ran a attributes mask).skeleton
  rw [hperform] at hreachable hskeleton
  have hother {id : NativeId} (hid : id ≠ a) : g.fabric.qps.find? id = h.fabric.qps.find? id := by
    simp [g, updateQp_fabric, Fabric.updateQp, hid]
  have hpaired : g.fabric.Paired a b (p.modified attributes mask target) q := by
    refine ⟨?_, (hother hp.apart.symm).trans hp.right, hp.apart, hawaits, hp.back⟩
    simp [g, updateQp_fabric, Fabric.updateQp, hp.left]
  refine ⟨g.progress, hmodify, hreachable, progress_paired hpaired ?_ fun id s hs hrts hne => ?_,
    hskeleton⟩
  · exact hr.numbered.updateQp fun _ => rfl
  · -- the two have nothing to send, and what others have waited before
    have hid : id ≠ a := by
      rintro rfl
      obtain rfl := Option.some.inj (hs.symm.trans hpaired.left)
      exact hne hawaits.idle
    exact (hr.settled id s ((hother hid).symm.trans hs) hrts hne).transport

end Host

end Rdma
