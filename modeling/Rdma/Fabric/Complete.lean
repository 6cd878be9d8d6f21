import Rdma.Host

/-!
# Completions and events

A completion is stored in its queue, unless the queue is full; a full queue overflows and the
completion is lost. Storing the first completion that an armed queue waits for disarms the queue and
raises one event on its channel.
-/

namespace Rdma

namespace Fabric.CompletionQueue

def isFull (q : CompletionQueue) : Bool := q.capacity.toNat ≤ q.entries.size

/-- Does storing this completion raise an event? -/
def wakes (q : CompletionQueue) (c : Completion) (solicited : Bool) : Bool :=
  match q.armed with
  | some solicitedOnly => !solicitedOnly || solicited || c.failed
  | none => false

end Fabric.CompletionQueue

namespace Host

/-- Queue an event on a channel and add a token to the channel's descriptor. The event stays queued
when no token can be added. -/
def raiseEvent (h : Host) (channel : NativeId) (event : CqEvent) : Host :=
  match h.fabric.channels.find? channel with
  | none => h
  | some c =>
    let queue (descriptor : Descriptor) (h : Host) : Host :=
      { h with
        fabric := h.fabric.updateChannel channel fun c =>
          { c with descriptor, pending := c.pending ++ [event] } }
    match c.descriptor.signal with
    | .ok descriptor => (queue descriptor h).note (.eventRaised channel event)
    | .error cause =>
      ((queue c.descriptor h).note (.eventRaised channel event)).note (.signalFailed cause)

/-- A full queue loses a completion, and from the first on it is overflowed. -/
def loseCompletion (h : Host) (cq : NativeId) (q : Fabric.CompletionQueue) (c : Completion)
    (solicited : Bool) : Host :=
  let h := (h.updateCq cq fun q => { q with overflowed := true }).note
    (.completed cq c solicited false)
  if q.overflowed then h else h.note (.overflowed cq)

def storeCompletion (h : Host) (cq : NativeId) (c : Completion) (solicited : Bool) : Host :=
  (h.updateCq cq fun q => { q with entries := q.entries.push c }).note
    (.completed cq c solicited true)

/-- Disarm a completion queue, and raise an event on its channel if it has one. -/
def wake (h : Host) (cq : NativeId) (q : Fabric.CompletionQueue) : Host :=
  let h := h.updateCq cq fun q => { q with armed := none }
  match q.channel with
  | some channel => h.raiseEvent channel { cq, cookie := q.cookie }
  | none => h

/-- Hand a completion to a completion queue. -/
def complete (h : Host) (cq : NativeId) (c : Completion) (solicited : Bool) : Host :=
  match h.fabric.cqs.find? cq with
  | none => h.note (.undelivered cq c)
  | some q =>
    if q.isFull then h.loseCompletion cq q c solicited
    else
      let h := h.storeCompletion cq c solicited
      if q.wakes c solicited then h.wake cq q else h

end Host

end Rdma
