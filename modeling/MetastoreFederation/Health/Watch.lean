import MetastoreFederation.Health.Probe
import MetastoreFederation.Metastore.Inventory

/-!
The statuses over time. Probes that are under way write the status of their own entry when they
answer, also after whoever waited for them has stopped waiting. In the background all statuses are
refreshed at regular times; a refresh that takes longer than it should is followed at once by those
that are due.

Time stands still while something happens and passes only in steps, in milliseconds. When a step
ends at a time at which something else is due, that is left to the next step.
-/

set_option autoImplicit false
set_option relaxedAutoImplicit false

namespace MetastoreFederation.Health

open Metastore Request

/-- A probe under way: which entry it is for, when it answers and what. -/
structure Flight where
  id : Nat
  time : Nat
  status : Status
  /-- Before this time the probe ends with the background refresh that started it. -/
  bound : Nat

/-- Regular refreshes: the time between them, when the next is due, and when the one under way is
over. -/
structure Polling where
  interval : Nat
  due : Nat
  busy : Nat

/-- When the next refresh starts. -/
def Polling.next (p : Polling) : Nat := max p.due p.busy

/-- The entries and their statuses at one time, and what is under way. -/
structure Watch where
  now : Nat
  inventory : Inventory
  flights : List Flight
  polling : Option Polling
  /-- The definitions of all probes that were started, in the order of their start. -/
  started : List Definition

namespace Watch

/-- The watch over an inventory before anything happens. -/
def ofInventory (i : Inventory) : Watch := ⟨0, i, [], none, []⟩

/-- Writes the statuses of all probes that answer up to a time. -/
def land (w : Watch) (time : Nat) : Watch :=
  let landed := (w.flights.filter fun f => f.time ≤ time).mergeSort fun a b => a.time ≤ b.time
  { w with
    inventory := landed.foldl (fun i f => i.record f.id f.status) w.inventory
    flights := w.flights.filter fun f => time < f.time }

/-- The probe of an entry that starts at a time and answers after less than `limit`. -/
def flight? (time bound : Nat) (limit : Option Nat) (e : Entry) : Outcome Status → Option Flight
  | .answered delay status =>
    if limit.all (delay < ·) then some ⟨e.id, time + delay, status, bound⟩ else none
  | _ => none

/-- Starts a probe of each entry. The probes with a bound are those of a background refresh. -/
def launch (probe : Probe) (w : Watch) (entries : List Entry) (time bound : Nat)
    (limit : Option Nat) : Watch :=
  { w with
    flights := w.flights ++ entries.filterMap fun e =>
      flight? time bound limit e (probe e.definition)
    started := w.started ++ entries.map Entry.definition }

/-- A background refresh that starts at a time. -/
def refreshAt (probe : Probe) (deadline : Nat) (w : Watch) (p : Polling) (time : Nat) : Watch :=
  let w := w.land time
  let entries := w.inventory.entries
  let through := time + finish deadline (entries.map fun e => probe e.definition)
  { (w.launch probe entries time through none).land time with
    polling := some { p with due := p.due + p.interval, busy := through } }

/-- Lets happen what is due up to a time, with at most so many background refreshes. -/
def runBounded (probe : Probe) (deadline time : Nat) : Nat → Watch → Watch
  | 0, w => w.land time
  | n + 1, w =>
    match w.polling with
    | none => w.land time
    | some p =>
      if p.next ≤ time then
        runBounded probe deadline time n (w.refreshAt probe deadline p p.next)
      else w.land time

/-- Lets happen what is due up to a time. Each refresh makes the next one due later. -/
def runUntil (probe : Probe) (deadline time : Nat) (w : Watch) : Watch :=
  let refreshes := match w.polling with
    | none => 0
    | some p => time + 1 - p.due
  w.runBounded probe deadline time refreshes

/-- Someone waits for a while. What is due when they stop waiting has not happened yet. -/
def sleep (probe : Probe) (deadline : Nat) (w : Watch) (duration : Nat) : Watch :=
  if duration = 0 then w
  else { w.runUntil probe deadline (w.now + duration - 1) with now := w.now + duration }

/-- Someone waits for others who need a while. What is due when these are ready has happened. -/
def join (probe : Probe) (deadline : Nat) (w : Watch) (duration : Nat) : Watch :=
  { w.runUntil probe deadline (w.now + duration) with now := w.now + duration }

/-- Probes an entry and waits for the answer, but for no longer than `patience`. -/
def refreshOne (probe : Probe) (deadline patience : Nat) (w : Watch) (e : Entry) :
    Option (Status × Nat) × Watch :=
  let w := { w with started := w.started ++ [e.definition] }
  match (probe e.definition).within patience with
  | .answered duration status =>
    let w := w.sleep probe deadline duration
    (some (status, duration), { w with inventory := w.inventory.record e.id status })
  | _ => (none, w.sleep probe deadline patience)

/-- Probes entries and waits until all probes have ended or the deadline is over, but for no longer
than `patience`; who gives up before the end ends the probes, too. -/
def refreshAll (probe : Probe) (deadline patience : Nat) (w : Watch) (entries : List Entry) :
    Option (Report × Nat) × Watch :=
  let outcomes := entries.map fun e => probe e.definition
  let duration := finish deadline outcomes
  if entries.isEmpty then (some (.ofOutcomes deadline outcomes, 0), w)
  else
    let w := w.runUntil probe deadline w.now
    if patience < duration then
      (none, (w.launch probe entries w.now 0 (some patience)).sleep probe deadline patience)
    else
      let w := w.launch probe entries w.now 0 none
      let w := if duration < deadline then w.join probe deadline duration
        else w.sleep probe deadline duration
      (some (.ofOutcomes deadline outcomes, duration), w)

/-- Ends the regular refreshes, and the one under way with its probes. -/
def stopPolling (w : Watch) : Watch :=
  { w with
    polling := none
    flights := w.flights.filter fun f => f.time ≤ w.now || f.bound ≤ w.now }

/-- Starts regular refreshes instead of those so far. The first one is due at once; without a time
between them there are none. -/
def startPolling (w : Watch) (interval : Nat) : Watch :=
  { w.stopPolling with polling := if interval = 0 then none else some ⟨interval, w.now, 0⟩ }

end Watch

end MetastoreFederation.Health
