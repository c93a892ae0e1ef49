import MetastoreFederation.Administration
import MetastoreFederation.Catalog
import MetastoreFederation.FederationFile
import MetastoreFederation.Health.Watch
import MetastoreFederation.Settings

/-!
A running federation: the routing table, and the inventory of metastores under watch. What surrounds
it, which is how clients are made and what comes of calls and probes, is given anew with each
request. Whoever asks waits for an answer for a limited time only.
-/

set_option autoImplicit false
set_option relaxedAutoImplicit false

namespace MetastoreFederation

open Metastore Request Routing Health

/-- The inventory of a federation file, of which there may be no text at its path. -/
def Metastore.Inventory.ofFile (path : String) (text : Option String) :
    Except ConfigError Inventory :=
  match text with
  | none => .error (.missingFile path)
  | some text => (FederationFile.parse text).map fun f => .ofDefinitions f.definitions

/-- The text of a federation file with the definitions of the inventory. -/
def Metastore.Inventory.toFile (i : Inventory) : String :=
  (FederationFile.ofDefinitions i.definitions).render

/-- What surrounds a federation at one moment. -/
structure Surroundings (κ : Type) where
  create : Factory κ
  clients : κ → Client
  probe : Probe
  /-- How long is waited for an answer. -/
  patience : Nat

/-- A running federation. -/
structure Federation (κ : Type) where
  settings : Settings
  table : Table κ
  watch : Watch

/-- What a request to a federation leads to. There is no answer where nobody waited for it. -/
structure Federation.Reply (κ α : Type) where
  answer : Option α
  elapsed : Nat
  calls : List (κ × Call)
  after : Federation κ

namespace Federation

variable {κ α : Type}

/-- Starts a federation over an inventory, all entries of which have to be registered. -/
def start (create : Factory κ) (settings : Settings) (inventory : Inventory) :
    Except Error (Federation κ) :=
  if !settings.problems.isEmpty then .error (.config (.invalid settings.problems))
  else
    let told := replay (Table.notify create) inventory.entries [.empty settings.resolution]
    match told.result with
    | .error cause => .error (.registration cause)
    | .ok () =>
      .ok ⟨settings, told.listeners.headD (.empty settings.resolution), .ofInventory inventory⟩

def deadline (f : Federation κ) : Nat := f.settings.statusDeadline.millis

def inventory (f : Federation κ) : Inventory := f.watch.inventory

def statuses (f : Federation κ) : StatusBoard := f.inventory.statuses

/-- The administration of the inventory, with the routing table as the only listener. -/
def administration (f : Federation κ) : Administration (Table κ) :=
  ⟨f.settings.resolution, f.inventory, [f.table]⟩

/-- The federation after a change. -/
def changed (f : Federation κ) (c : Administration.Change (Table κ)) : Federation κ :=
  { f with
    table := c.after.listeners.headD f.table
    watch := { f.watch with inventory := c.after.inventory } }

/-- Tells the routing table alone of a change. -/
def notify (create : Factory κ) (f : Federation κ) (event : Event) :
    Except RegistrationError (Federation κ) := do
  return { f with table := ← f.table.notify create event }

/-- Someone waits for a while. -/
def sleep (s : Surroundings κ) (f : Federation κ) (duration : Nat) : Federation κ :=
  { f with watch := f.watch.sleep s.probe f.deadline duration }

/-- Someone waits for others who need a while. -/
def join (s : Surroundings κ) (f : Federation κ) (duration : Nat) : Federation κ :=
  { f with watch := f.watch.join s.probe f.deadline duration }

/-- Serves a request on one database. A call that takes too long is given up. -/
def serve (s : Surroundings κ) (f : Federation κ)
    (request : (κ → Client) → Table κ → Catalog.Served κ α) : Reply κ (Except Error α) :=
  let served := request (fun k => (s.clients k).within s.patience) f.table
  let f := { f with table := served.table }
  match served.outcome with
  | .answered time answer => ⟨some answer, time, served.calls, f.sleep s time⟩
  | _ => ⟨none, s.patience, served.calls, f.sleep s s.patience⟩

/-- Serves a request that goes to all available metastores. -/
def survey (s : Surroundings κ) (f : Federation κ)
    (request : (κ → Client) → Survey κ → Survey.Report κ α) : Reply κ (List α) :=
  let (available, table) :=
    Catalog.survey f.statuses f.settings.requestTimeout.millis f.table
  let f := { f with table }
  let report := request s.clients available
  if s.patience < report.elapsed then
    ⟨none, s.patience, report.calls, f.sleep s s.patience⟩
  else if report.calls.isEmpty then ⟨some report.items, 0, [], f⟩
  else ⟨some report.items, report.elapsed, report.calls, f.join s report.elapsed⟩

/-- The definition under a name with its status, after a probe. -/
def get (s : Surroundings κ) (f : Federation κ) (name : String) :
    Reply κ (Except RegistrationError View) :=
  match f.inventory.find? name with
  | none => ⟨some (.error (.notRegistered name)), 0, [], f⟩
  | some e =>
    let (answer, watch) := f.watch.refreshOne s.probe f.deadline s.patience e
    let f := { f with watch }
    ⟨answer.map fun _ => .ok (f.inventory.view e), (answer.map Prod.snd).getD s.patience, [], f⟩

/-- All definitions with their statuses, after a refresh. -/
def getAll (s : Surroundings κ) (f : Federation κ) : Reply κ (List View) :=
  let entries := f.inventory.entries
  let (answer, watch) := f.watch.refreshAll s.probe f.deadline s.patience entries
  let f := { f with watch }
  ⟨answer.map fun _ => entries.map f.inventory.view, (answer.map Prod.snd).getD s.patience, [], f⟩

/-- Starts the regular refreshes, if there are none yet. -/
def startPolling (f : Federation κ) : Federation κ :=
  match f.watch.polling with
  | some _ => f
  | none => { f with watch := f.watch.startPolling f.settings.pollingInterval.millis }

/-- Ends the regular refreshes. -/
def stop (s : Surroundings κ) (f : Federation κ) : Federation κ :=
  match f.watch.polling with
  | none => f
  | some _ => Federation.join s { f with watch := f.watch.stopPolling } 0

/-- The text that is to be kept when the federation ends, if one is. -/
def fileOnShutdown (f : Federation κ) : Option String :=
  if f.settings.overwriteOnShutdown then some f.inventory.toFile else none

end Federation

end MetastoreFederation
