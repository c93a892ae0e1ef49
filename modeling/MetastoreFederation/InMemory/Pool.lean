import MetastoreFederation.InMemory
import MetastoreFederation.Routing.Registry

/-!
Pools of metastores in memory. Each one that was ever put into the pool keeps its number and its
behavior; a name leads to the latest one under it. Calls and pings are kept by number.
-/

set_option autoImplicit false
set_option relaxedAutoImplicit false

namespace MetastoreFederation

open Request Metastore

/-- The metastores of a pool, and where the names lead. -/
structure InMemory.Pool where
  members : List InMemory
  current : List (String × Nat)
  calls : List (Nat × Call)
  pings : List Nat

namespace InMemory.Pool

def empty : Pool := ⟨[], [], [], []⟩

/-- The number of the metastore that a name leads to. -/
def number? (p : Pool) (name : String) : Option Nat := p.current.lookup name

/-- Puts a metastore into the pool, to which its name leads from now on. -/
def put (p : Pool) (m : InMemory) : Pool :=
  { p with
    members := p.members ++ [m]
    current := (m.name, p.members.length) :: p.current.filter fun c => c.1 != m.name }

/-- The pool in which a name leads nowhere. -/
def drop (p : Pool) (name : String) : Pool :=
  { p with current := p.current.filter fun c => c.1 != name }

/-- Changes how the metastore behaves that a name leads to. -/
def behave (p : Pool) (name : String) (behavior : Behavior) : Pool :=
  match p.number? name with
  | some n => { p with members := p.members.modify n fun m => { m with behavior } }
  | none => p

/-- A definition gets the metastore that its name leads to. -/
def create (p : Pool) : Routing.Factory Nat := fun d =>
  match p.number? d.name with
  | some n => .ok n
  | none => .error (.connection ("no route to " ++ d.addresses))

/-- The client of a numbered metastore. -/
def client (p : Pool) (n : Nat) : Client :=
  match p.members[n]? with
  | some m => m.client
  | none => ⟨fun _ => .silent, .silent⟩

/-- The pool after calls. -/
def called (p : Pool) (calls : List (Nat × Call)) : Pool :=
  { p with calls := p.calls ++ calls }

/-- The pool after definitions were probed: those with a metastore had it pinged. -/
def pinged (p : Pool) (definitions : List Definition) : Pool :=
  { p with pings := p.pings ++ definitions.filterMap fun d => p.number? d.name }

/-- The pings so far of the metastores that names lead to. -/
def pingCounts (p : Pool) : List (String × Nat) :=
  p.current.map fun (name, n) => (name, p.pings.count n)

/-- The calls of the metastores that names lead to, where there were some. -/
def currentCalls (p : Pool) : List (String × List Call) :=
  (p.current.map fun (name, n) => (name, (p.calls.filter fun c => c.1 == n).map Prod.snd)).filter
    fun c => !c.2.isEmpty

/-- The pool without the calls of the metastores that names lead to. -/
def forgetCalls (p : Pool) : Pool :=
  { p with calls := p.calls.filter fun c => !(p.current.map Prod.snd).contains c.1 }

end InMemory.Pool

end MetastoreFederation
