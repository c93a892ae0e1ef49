import MetastoreFederation.Metastore.Binding
import MetastoreFederation.Pattern.Decompose
import MetastoreFederation.Survey.Gather

/-!
Surveys: requests that go to many metastores at once. The answer of each metastore is cut down to
what is visible and put under the names of the federation before the answers come together.
-/

set_option autoImplicit false
set_option relaxedAutoImplicit false

namespace MetastoreFederation

open Metastore Request Pattern

variable {κ α : Type}

/-- What a database pattern is to the metastores: each gets its share of it, or all get the whole.
-/
inductive Survey.Scope
  | decomposed
  | forwarded
deriving DecidableEq, Repr

/-- The scope of patterns under a way of resolution. -/
def Survey.Scope.under : Resolution → Scope
  | .prefixed => decomposed
  | .manual => forwarded

/-- A call to one metastore, and what its answer contributes. -/
structure Survey.Question (κ α : Type) where
  binding : Binding κ
  call : Call
  read : call.Answer → List α

/-- The calls of a survey, what came of them, and when the last one was through. -/
structure Survey.Report (κ α : Type) where
  calls : List (κ × Call)
  items : List α
  elapsed : Nat

/-- The metastores that are asked, and how. -/
structure Survey (κ : Type) where
  bindings : List (Binding κ)
  /-- Milliseconds for an answer, before what a definition allows beyond. -/
  timeout : Nat
  scope : Survey.Scope
  /-- The database of the binding's metastore is visible. -/
  shows : Binding κ → String → Bool

namespace Survey

/-- A question as a target of the survey. -/
def target (s : Survey κ) (clients : κ → Client) (q : Question κ α) : Target α where
  limit := s.timeout + q.binding.definition.latency.toNat
  outcome := ((clients q.binding.client).call q.call).map fun result => result.map q.read

/-- Asks all questions at once. -/
def ask (clients : κ → Client) (s : Survey κ) (questions : List (Question κ α)) : Report κ α :=
  let targets := questions.map (s.target clients)
  ⟨questions.map fun q => (q.binding.client, q.call), gather targets, finish targets⟩

/-- The names in the federation of those databases that are visible. -/
def surface (s : Survey κ) (b : Binding κ) (databases : List String) : List String :=
  (databases.filter (s.shows b)).flatMap b.outboundNames

/-- The summaries of those tables that are visible, under the names of the federation. -/
def surfaceTables (s : Survey κ) (b : Binding κ) (tables : List TableMeta) : List TableMeta :=
  (tables.filter fun t => s.shows b t.database && b.showsTable t.database t.table).map fun t =>
    { t with database := b.outbound t.database }

/-- The bindings that a database pattern reaches, each with the pattern for its metastore. -/
def reached (s : Survey κ) (pattern : String) : List (Binding κ × String) :=
  match s.scope with
  | .forwarded => s.bindings.map fun b => (b, pattern)
  | .decomposed =>
    let parts := Decompose.decompose (s.bindings.map Binding.databasePrefix) pattern
    s.bindings.filterMap fun b => (parts.lookup b.databasePrefix).map fun part => (b, part)

/-- The question for the databases of a metastore. -/
def databasesOf (s : Survey κ) (pattern : Option String) (b : Binding κ) : Question κ String :=
  ⟨b, .databases pattern, s.surface b⟩

/-- All visible databases. -/
def allDatabases (clients : κ → Client) (s : Survey κ) : Report κ String :=
  s.ask clients (s.bindings.map fun b => ⟨b, .allDatabases, s.surface b⟩)

/-- The visible databases that a pattern reaches; without a pattern each metastore lists its all. -/
def databases (clients : κ → Client) (s : Survey κ) : Option String → Report κ String
  | none => s.ask clients (s.bindings.map (s.databasesOf none))
  | some pattern =>
    s.ask clients ((s.reached pattern).map fun (b, part) => s.databasesOf (some part) b)

/-- The visible tables that patterns reach. -/
def tableMeta (clients : κ → Client) (s : Survey κ) (databasePattern tablePattern : String)
    (types : List String) : Report κ TableMeta :=
  s.ask clients ((s.reached databasePattern).map fun (b, part) =>
    ⟨b, .tableMeta part tablePattern types, s.surfaceTables b⟩)

/-- Announces a user to all metastores. The groups of the answers are listed once each, in the order
in which they first arrive. -/
def setGroups (clients : κ → Client) (s : Survey κ) (user : String) (groups : List String) :
    Report κ String :=
  let report := s.ask clients (s.bindings.map fun b => ⟨b, .setGroups user groups, id⟩)
  { report with items := report.items.eraseDups }

end Survey

end MetastoreFederation
