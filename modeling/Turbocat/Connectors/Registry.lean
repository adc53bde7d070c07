import Turbocat.Connectors.Kapture
import Turbocat.Connectors.Razorpay

/-! The registry of source connectors, and what each registered class contributes to
`BaseSourceConnector.sync`.
-/

namespace Turbocat.Connectors

open Turbocat.Python

inductive ConnectorClass where
  | razorpayOrders
  | razorpayCustomers
  | kaptureTickets
  deriving DecidableEq, Repr

/-- What an `extract` call takes from outside: the host, the configuration its connector
was built with, the clock reading at its start and the reading of each record it yields.
-/
structure ExtractEnv where
  host : Host
  config : KaptureTickets.Config := {}
  now : Datetime
  clock : Nat → Datetime

namespace ConnectorClass

def getSchema : ConnectorClass → TableSchema
  | razorpayOrders => RazorpayOrders.getSchema
  | razorpayCustomers => RazorpayCustomers.getSchema
  | kaptureTickets => KaptureTickets.getSchema

def transform (cls : ConnectorClass) (host : Host) : Transform :=
  match cls with
  | razorpayOrders => RazorpayOrders.transform host
  | razorpayCustomers => RazorpayCustomers.transform host
  | kaptureTickets => KaptureTickets.transform host

/-- `extract(start_time, end_time)` over the replies to its requests. -/
def extract (cls : ConnectorClass) (env : ExtractEnv) (startTime endTime : Option Datetime)
    (replies : List Reply)
    : ExtractRun :=
  match cls with
  | razorpayOrders => RazorpayOrders.extract env.host env.clock startTime endTime replies
  | razorpayCustomers => RazorpayCustomers.extract env.host env.clock replies
  | kaptureTickets =>
      KaptureTickets.extract env.config env.host env.now env.clock startTime endTime replies

end ConnectorClass

/-- `_REGISTRY`. -/
def registry : List (String × ConnectorClass) :=
  [
    ("razorpay_orders", .razorpayOrders),
    ("razorpay_customers", .razorpayCustomers),
    ("kapture_tickets", .kaptureTickets)
  ]

/-- `_SOURCE_REGISTRY`: the class that stands for a source when credentials are tested. -/
def sourceRegistry : List (String × ConnectorClass) :=
  [("razorpay", .razorpayOrders), ("kapture", .kaptureTickets)]

/-- `_SOURCE_CONNECTORS`, with the class `_REGISTRY` has for each name. -/
def sourceConnectors : List (String × List (String × ConnectorClass)) :=
  [
    ("razorpay",
      [("razorpay_orders", .razorpayOrders), ("razorpay_customers", .razorpayCustomers)]),
    ("kapture", [("kapture_tickets", .kaptureTickets)])
  ]

/-- Every name listed under a source is registered, with the class listed for it. -/
theorem sourceConnectors_registered
    : ∀ source ∈ sourceConnectors, ∀ entry ∈ source.2, entry ∈ registry := by
  decide

/-- The `KeyError` for a name outside a registry; its text is a representation itself. -/
def unknownName (repr : String → String) (kind name : String) (available : List String)
    : PyException :=
  ⟨.keyError, repr ("Unknown " ++ kind ++ " " ++ repr name ++ ". Available: ["
    ++ ", ".intercalate (available.map repr) ++ "]")⟩

/-- `lookup(name)`. -/
def lookup (repr : String → String) (name : String) : Except PyException ConnectorClass :=
  match registry.lookup name with
  | some cls => .ok cls
  | none => .error (unknownName repr "connector" name (registry.map (fun entry => entry.1)))

/-- What constructing a class's configuration from keyword arguments gives: nothing the
orchestrator reads, or an exception.
-/
abbrev Configure := ConnectorClass → Json → Except PyException Unit

/-- `build_from_credentials(source, credentials)`. -/
def buildFromCredentials (repr : String → String) (configure : Configure) (source : String)
    (credentials : Json)
    : Except PyException ConnectorClass :=
  match sourceRegistry.lookup source with
  | none =>
      .error (unknownName repr "source" source (sourceRegistry.map (fun entry => entry.1)))
  | some cls => do
      configure cls credentials
      return cls

/-- An entity of a source: a connector's name and its destination table. -/
structure TableEntry where
  connector : String
  tableName : String
  deriving DecidableEq, Repr

/-- `get_schemas_for_source(source, credentials)`. -/
def getSchemasForSource (repr : String → String) (configure : Configure) (source : String)
    (credentials : Json)
    : Except PyException (List TableEntry) :=
  match sourceConnectors.lookup source with
  | none =>
      .error (unknownName repr "source" source (sourceConnectors.map (fun entry => entry.1)))
  | some names =>
      names.mapM (fun entry => do
        configure entry.2 credentials
        return ⟨entry.1, entry.2.getSchema.tableName⟩)

end Turbocat.Connectors
