import Rdma.Boundary.Operation
import Rdma.Proofs.Verbs.Mirror

/-!
# The library of a process

A call is refused on its own arguments, and then the library is not even initialised, or it is one verb
on the handle layer of the process (`call_eq`). So what verbs keep, calls keep: whatever happened to a
library, its host is sound.

* `apply_sound` — the step;
* `applyAll_sound` — the run.
-/

namespace Rdma.Boundary

variable {α : Type}

/-- The verb that a call makes, or what is wrong with the call's own arguments. -/
def Operation.asVerb : Operation α → Except ArgumentError (Verbs.Operation α)
  | .openDevice index =>
      if index < 0 then .error .negativeDeviceIndex else .ok (.openDevice index.toInt.toNat)
  | .closeDevice ctx => .ok (.closeDevice ctx)
  | .queryDevice ctx attributes =>
      if attributes then .ok (.queryDevice ctx) else .error .nullDeviceAttributes
  | .queryPort ctx attributes port =>
      if attributes then .ok (.queryPort ctx port) else .error .nullPortAttributes
  | .allocPd ctx => .ok (.allocPd ctx)
  | .deallocPd pd => .ok (.deallocPd pd)
  | .regMr pd addr length access => .ok (.regMr pd addr length access)
  | .queryMr mr info => if info then .ok (.queryMr mr) else .error .nullRegionInfo
  | .deregMr mr => .ok (.deregMr mr)
  | .createChannel ctx => .ok (.createChannel ctx)
  | .destroyChannel channel => .ok (.destroyChannel channel)
  | .channelDescriptor channel => .ok (.channelDescriptor channel)
  | .createCq ctx depth channel cookie vector => .ok (.createCq ctx depth channel cookie vector)
  | .destroyCq cq => .ok (.destroyCq cq)
  | .reqNotifyCq cq solicitedOnly => .ok (.reqNotifyCq cq (solicitedOnly ≠ 0))
  | .getCqEvent channel => .ok (.getCqEvent channel)
  | .ackCqEvents cq n => .ok (.ackCqEvents cq n)
  | .createSrq pd (some init) => .ok (.createSrq pd init)
  | .createSrq _ none => .error .nullSrqAttributes
  | .destroySrq srq => .ok (.destroySrq srq)
  | .postSrqRecv srq heap head => (recvList heap head).map (.postSrqRecv srq)
  | .createQp pd (some init) => .ok (.createQp pd init)
  | .createQp _ none => .error .nullQpAttributes
  | .modifyQp qp (some attributes) mask => .ok (.modifyQp qp attributes mask)
  | .modifyQp _ none _ => .error .nullQpAttributes
  | .destroyQp qp => .ok (.destroyQp qp)
  | .qpNumber qp => .ok (.qpNumber qp)
  | .qpState qp => .ok (.qpState qp)
  | .endpoint qp port answer => if answer then .ok (.endpoint qp port) else .error .nullEndpoint
  | .connectQp qp (some here) (some remote) access => .ok (.connectQp qp here remote access)
  | .connectQp _ none _ _ => .error .nullLocalEndpoint
  | .connectQp _ (some _) none _ => .error .nullRemoteEndpoint
  | .postSend qp heap head => (sendList heap head).map (.postSend qp)
  | .postRecv qp heap head => (recvList heap head).map (.postRecv qp)

theorem wellFormed_then {β : Type} (list : Except ArgumentError β) (env : Environment)
    (verb : β → Verbs.Operation α) :
    (do let b ← wellFormed list; run env (Verbs.perform (verb b))) =
      match list.map verb with
      | .ok verb => run env (Verbs.perform verb)
      | .error what => refuse what := by
  cases list <;> rfl

/-- A call is one verb on the handle layer of the process, unless its own arguments are bad. -/
theorem call_eq (env : Environment) (op : Operation α) :
    op.call env = match op.asVerb with
      | .ok verb => run env (Verbs.perform verb)
      | .error what => refuse what := by
  cases op with
  | openDevice index =>
      by_cases hnegative : index < 0
      · simp only [Operation.call, Operation.asVerb, Boundary.openDevice, if_pos hnegative]
      · simp only [Operation.call, Operation.asVerb, Boundary.openDevice, if_neg hnegative]
        rfl
  | queryDevice ctx there | queryPort ctx there | queryMr mr there | endpoint qp port there =>
      cases there <;> rfl
  | createSrq pd init | createQp pd init | modifyQp qp init => cases init <;> rfl
  | connectQp qp here remote => cases here <;> cases remote <;> rfl
  | postSrqRecv srq heap head => exact wellFormed_then (recvList heap head) env (.postSrqRecv srq)
  | postSend qp heap head => exact wellFormed_then (sendList heap head) env (.postSend qp)
  | postRecv qp heap head => exact wellFormed_then (recvList heap head) env (.postRecv qp)
  | _ => rfl

/-! ## Initialisation -/

section Initialisation

variable {h : Host} {v : Verbs} (hh : h.Sound)

include hh

theorem start_sound (provider : Provider) (policy : DependencyPolicy) :
    (Verbs.start provider policy h).host.Sound :=
  hh.note trivial

theorem build_sound {config : Except ConfigError Config} (hv : Library.build config h = .ok v) :
    v.host.Sound := by
  cases config with
  | error cause => cases hv
  | ok config =>
      unfold Library.build Except.bind Verbs.ofConfig Config.attach at hv
      cases hprovider : config.provider with
      | ibverbs => simp [hprovider, Except.map] at hv
      | soft =>
          simp only [hprovider, Except.map, Except.ok.injEq] at hv
          rw [← hv]
          exact start_sound (Host.withDevices_sound hh config.devices) .soft config.policy

theorem config_sound (env : Environment) : (env.config h).2.Sound := by
  unfold Environment.config
  split
  · exact hh
  · exact hh.note trivial

theorem fallback_sound : (Library.fallback h).host.Sound :=
  start_sound (Host.withDevices_sound hh _) _ _

theorem initFrom_sound (config : Except ConfigError Config) :
    (Library.initFrom config h).2.host.Sound := by
  unfold Library.initFrom
  split
  case h_1 v hv => exact build_sound hh hv
  case h_2 => exact hh.note trivial

end Initialisation

/-! ## Steps -/

variable {lib : Library} (hh : lib.host.Sound) (env : Environment)

include hh

theorem instanceIn_sound : (lib.instanceIn env).host.Sound := by
  cases lib with
  | live v => exact hh
  | idle h =>
      have hconfig := config_sound hh env
      unfold Library.instanceIn
      simp only
      split
      case h_1 v hv => exact build_sound hconfig hv
      case h_2 => exact fallback_sound (hconfig.note trivial)

theorem init_sound (source : Library.Source) : (lib.init env source).2.host.Sound := by
  cases lib with
  | live v => exact hh
  | idle h =>
      cases source with
      | environment => exact initFrom_sound (config_sound hh env) _
      | file file => exact initFrom_sound hh _
      | unreadablePath => exact hh

theorem run_sound (verb : Verbs.Operation α) :
    (run env (Verbs.perform verb) lib).2.host.Sound :=
  (Verbs.perform_effect (instanceIn_sound hh env) verb).sound (instanceIn_sound hh env)

theorem note_sound {e : Event} (he : e.Orderly) : (lib.note e).host.Sound := by
  cases lib <;> exact hh.note he

theorem call_sound (op : Operation α) : (op.call env lib).2.host.Sound := by
  rw [call_eq]
  cases op.asVerb with
  | ok verb => exact run_sound hh env verb
  | error what => exact hh

theorem report_sound (record : Option ResultRecord) (outcome : Except VerbsError Handle) :
    (report record outcome lib).2.host.Sound := by
  unfold report
  split
  · exact hh
  · exact note_sound hh trivial
  · exact hh
  · exact note_sound hh trivial

/-- Whatever happens to a library, its host stays sound. -/
theorem apply_sound (act : Act) : (act.apply env lib).host.Sound := by
  cases act with
  | init source => exact init_sound hh env source
  | deviceCount | deviceName => exact instanceIn_sound hh env
  | pollCq cq array n =>
      have hrun := run_sound hh env (.pollCq cq n.toInt.toNat)
      show (pollCq env cq array n lib).2.host.Sound
      unfold pollCq
      split
      · exact hh
      · change (run env (Verbs.pollCq .soft cq n.toInt.toNat) lib).2.host.Sound at hrun
        split
        case h_1 heq => rwa [heq] at hrun
        case h_2 heq =>
          rw [heq] at hrun
          exact note_sound hrun trivial
  | call op record => exact report_sound (call_sound hh env op) record _
  | setMemory memory | setDescriptorsLeft left => cases lib <;> exact hh.of_frame rfl rfl rfl rfl
  | setDescriptor channel descriptor =>
      cases lib <;> exact (Host.setDescriptor_works _ channel descriptor).sound hh

omit env

theorem applyAll_sound (acts : List (Environment × Act)) : (applyAll lib acts).host.Sound := by
  induction acts generalizing lib with
  | nil => exact hh
  | cons act rest ih => exact ih (apply_sound hh act.1 act.2)

omit hh

/-- The host of a process is sound at any time. -/
theorem begun_sound (memory : Memory) (acts : List (Environment × Act)) :
    (applyAll (begun memory) acts).host.Sound :=
  applyAll_sound (show (begun memory).host.Sound from Host.bare_sound memory) acts

end Rdma.Boundary
