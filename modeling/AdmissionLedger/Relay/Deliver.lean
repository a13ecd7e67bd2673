import AdmissionLedger.Relay.Basic

/-!
# Deliveries at work

## Main definitions

* `Relay.deliver` — a stretch of a delivery.
* `Relay.cancelDelivery` — asks a delivery to end.
* `Relay.retire`, `Relay.report` — what follows the end of a delivery.
-/

namespace AdmissionLedger.Relay

variable {κ σ : Type}

/-- A delivery ends: the router is to forget it, then those who wait for it are told. -/
def endDelivery (r : Relay κ σ) (id : Nat) (d : DeliveryTask κ) (phase : DeliveryPhase) :
    Relay κ σ :=
  (r.setDelivery id { d with phase, watchers := [] }).push (.retire id :: d.watchers.map .report)

/-- The channel of a delivery delivers. -/
def carry (r : Relay κ σ) (id : Nat) (d : DeliveryTask κ) : Logged (Relay κ σ) := do
  let (result, outside) ← r.carrier.deliver d.channel d.event r.outside
  let r := { r with outside }
  match result with
  | none => return r.setDelivery id { d with phase := .hanging }
  | some result =>
    let name := r.carrier.name d.channel
    Logged.emitAll (result.entries name d.event)
    return (r.record [.delivered name d.event result]).endDelivery id d .done

/-- A stretch of a delivery.  If it was asked to end, it does; if its work is done elsewhere, that
comes first. -/
def deliver (r : Relay κ σ) (id : Nat) : Logged (Relay κ σ) :=
  match r.delivery? id with
  | none => return r
  | some d =>
    if d.asked && !d.hasEnded then return r.endDelivery id d .cancelled
    else
      match d.phase with
      | .scheduled =>
        if r.carrier.away d.channel then
          return (r.setDelivery id { d with phase := .away }).push [.deliver id]
        else r.carry id d
      | .away => r.carry id d
      | .hanging | .done | .cancelled => return r

/-- Asks a delivery to end.  One that hangs is made to run for it. -/
def cancelDelivery (r : Relay κ σ) (id : Nat) : Relay κ σ :=
  match r.delivery? id with
  | none => r
  | some d =>
    if d.hasEnded || d.asked then r
    else
      let r := r.setDelivery id { d with asked := true }
      if d.phase = .hanging then r.push [.deliver id] else r

/-- The router forgets a delivery. -/
def retire (r : Relay κ σ) (id : Nat) : Relay κ σ :=
  { r with dispatch := r.dispatch.map fun p => { p with pending := p.pending.filter (· ≠ id) } }

/-- A caller that waits for deliveries waits for one less; after the last it goes on. -/
def report (r : Relay κ σ) (caller : Nat) : Relay κ σ :=
  match r.routerStops.lookup caller with
  | some left =>
    let r := { r with routerStops := r.routerStops.map fun (c, n) =>
      (c, if c = caller then left - 1 else n) }
    if left ≤ 1 then r.push [.resumeRouter caller] else r
  | none => r

/-- A caller watches a delivery.  It is told at once about one that has ended. -/
def watch (r : Relay κ σ) (caller id : Nat) : Relay κ σ :=
  match r.delivery? id with
  | none => r
  | some d =>
    if d.hasEnded then r.push [.report caller]
    else r.setDelivery id { d with watchers := d.watchers ++ [caller] }

end AdmissionLedger.Relay
