import Turbocat.Connectors.OffsetPages

/-! The Razorpay connectors: orders, selected by creation time, and customers, of which
every sync reads all.
-/

namespace Turbocat.Connectors

open Turbocat.Python

namespace RazorpayOrders

/-- The parameters of one page: `from` and `to` only when the window has them. -/
def params (startTime endTime : Option Datetime) (skip : Nat) : Dict :=
  [("skip", .int skip), ("count", .int pageCount)]
  ++ (startTime.map (fun time => ("from", .int time.intTimestamp))).toList
  ++ (endTime.map (fun time => ("to", .int time.intTimestamp))).toList

def request (startTime endTime : Option Datetime) (skip : Nat) : Request :=
  ⟨"GET", "/orders", params startTime endTime skip⟩

/-- `float(value) if value is not None else 0.0`. -/
def noneToZero (host : Host) (value : Json) : Except PyException PyFloat :=
  match value with
  | .null => .ok (.finite 0)
  | value => pyFloat host value

/-- Amounts come in paise and leave in rupees. -/
def transform (host : Host) : Transform := fun now record => do
  let id ← record.getItem "id"
  let amount ← noneToZero host (← record.get "amount")
  let amountPaid ← noneToZero host (← record.get "amount_paid")
  let amountDue ← noneToZero host (← record.get "amount_due")
  let currency ← record.getItem "currency"
  let receipt ← record.get "receipt"
  let status ← record.getItem "status"
  let createdAt ← fromtimestamp host (← record.getItem "created_at")
  return [
    ("id", .json id),
    ("amount", .json (.float amount.divHundred)),
    ("amount_paid", .json (.float amountPaid.divHundred)),
    ("amount_due", .json (.float amountDue.divHundred)),
    ("currency", .json currency),
    ("receipt", .json receipt),
    ("status", .json status),
    ("created_at", .datetime createdAt),
    ("_extracted_at", .datetime (.aware now))
  ]

def getSchema : TableSchema :=
  {
    tableName := "razorpay_orders"
    columns := [
      ⟨"id", "string", true⟩,
      ⟨"amount", "float", true⟩,
      ⟨"amount_paid", "float", false⟩,
      ⟨"amount_due", "float", false⟩,
      ⟨"currency", "string", true⟩,
      ⟨"receipt", "string", false⟩,
      ⟨"status", "string", true⟩,
      ⟨"created_at", "datetime", true⟩,
      ⟨"_extracted_at", "datetime", true⟩
    ]
  }

def extract (host : Host) (clock : Nat → Datetime) (startTime endTime : Option Datetime)
    (replies : List Reply)
    : ExtractRun :=
  offsetPages (request startTime endTime) (transform host) clock 0 0 replies

/-- The lower bound of a window as the API reads it; a window without start sends none. -/
theorem params_from (startTime endTime : Option Datetime) (skip : Nat)
    : (params startTime endTime skip).lookup "from"
      = startTime.map (fun time => .int time.intTimestamp) := by
  cases startTime <;> cases endTime <;> rfl

/-- The upper bound of a window as the API reads it. -/
theorem params_to (startTime endTime : Option Datetime) (skip : Nat)
    : (params startTime endTime skip).lookup "to"
      = endTime.map (fun time => .int time.intTimestamp) := by
  cases startTime <;> cases endTime <;> rfl

end RazorpayOrders

-----------------------------------------------------------------------------------------
-- Customers
-----------------------------------------------------------------------------------------

namespace RazorpayCustomers

/-- The parameters of one page; the window is not among them. -/
def params (skip : Nat) : Dict := [("skip", .int skip), ("count", .int pageCount)]

def request (skip : Nat) : Request := ⟨"GET", "/customers", params skip⟩

def transform (host : Host) : Transform := fun now record => do
  let id ← record.getItem "id"
  let name ← record.get "name"
  let contact ← record.getItem "contact"
  let email ← record.get "email"
  let gstin ← record.get "gstin"
  let notes ← record.get "notes"
  let createdAt ← fromtimestamp host (← record.getItem "created_at")
  return [
    ("id", .json id),
    ("name", .json name),
    ("contact", .json contact),
    ("email", .json email),
    ("gstin", .json gstin),
    ("notes", .json notes),
    ("created_at", .datetime createdAt),
    ("_extracted_at", .datetime (.aware now))
  ]

def getSchema : TableSchema :=
  {
    tableName := "customers"
    columns := [
      ⟨"id", "string", true⟩,
      ⟨"name", "string", false⟩,
      ⟨"contact", "string", false⟩,
      ⟨"email", "string", false⟩,
      ⟨"gstin", "string", false⟩,
      ⟨"notes", "string", false⟩,
      ⟨"created_at", "datetime", true⟩,
      ⟨"_extracted_at", "datetime", true⟩
    ]
  }

def extract (host : Host) (clock : Nat → Datetime) (replies : List Reply) : ExtractRun :=
  offsetPages request (transform host) clock 0 0 replies

end RazorpayCustomers

/-- Both transforms read `record["id"]` first, which a text has not. -/
theorem razorpay_rejects_text (host : Host) (now : Datetime) (text : String)
    : (∃ exception, RazorpayOrders.transform host now (.str text) = .error exception)
      ∧ ∃ exception, RazorpayCustomers.transform host now (.str text) = .error exception :=
  ⟨⟨_, rfl⟩, ⟨_, rfl⟩⟩

end Turbocat.Connectors
