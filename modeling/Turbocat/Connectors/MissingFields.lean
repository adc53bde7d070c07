import Turbocat.Connectors.AnsweredExtracts

/-! Items in which fields are absent or null, and what each transform makes of them: an
exception, a record that is rejected, or one with a value of its own in place of null.
-/

namespace Turbocat.Python.Json

/-- `value is None`. -/
def isNull : Json → Bool
  | null => true
  | _ => false

/-- Whether a value is an object. -/
def isObject : Json → Bool
  | dict _ => true
  | _ => false

/-- The value at a path of keys, null where there is none. -/
def atPath : Json → List String → Json
  | value, [] => value
  | dict entries, key :: rest => (getOrNone entries key).atPath rest
  | _, _ :: _ => null

/-- Whether an object has a key. -/
def hasKey : Json → String → Bool
  | dict entries, key => (entries.lookup key).isSome
  | _, _ => false

theorem isNull_iff {value : Json} : value.isNull = true ↔ value = null := by
  cases value <;> simp [isNull]

theorem isNull_eq_false_iff {value : Json} : value.isNull = false ↔ value ≠ null := by
  cases value <;> simp [isNull]

theorem atPath_dict (entries : Dict) (key : String)
    : (dict entries).atPath [key] = getOrNone entries key := by
  cases found : getOrNone entries key <;> simp [atPath, found]

theorem hasKey_dict {entries : Dict} {key : String}
    : (dict entries).hasKey key = true ↔ ∃ value, entries.lookup key = some value :=
  Option.isSome_iff_exists

theorem getOrNone_of_lookup {entries : Dict} {key : String} {value : Json}
    (found : entries.lookup key = some value)
    : getOrNone entries key = value := by
  rw [getOrNone, found]
  rfl

theorem get_dict {entries : Dict} {key : String} {value : Json}
    : (dict entries).get key = .ok value ↔ getOrNone entries key = value := by
  rw [get, Except.ok.injEq]

theorem getItem_dict {entries : Dict} {key : String} {value : Json}
    : (dict entries).getItem key = .ok value ↔ entries.lookup key = some value := by
  cases found : entries.lookup key <;> simp [getItem, found]

end Turbocat.Python.Json

namespace Turbocat.Connectors

open Turbocat.Python

theorem Value.isNone_json (value : Json) : (Value.json value).isNone = value.isNull := by
  cases value <;> rfl

theorem Value.isNone_datetime (value : PyDatetime) : (Value.datetime value).isNone = false :=
  rfl

namespace ConnectorClass

/-- The API field that feeds each column. -/
def feeds : ConnectorClass → List (String × List String)
  | razorpayOrders => [
      ("id", ["id"]),
      ("amount", ["amount"]),
      ("amount_paid", ["amount_paid"]),
      ("amount_due", ["amount_due"]),
      ("currency", ["currency"]),
      ("receipt", ["receipt"]),
      ("status", ["status"]),
      ("created_at", ["created_at"])
    ]
  | razorpayCustomers => [
      ("id", ["id"]),
      ("name", ["name"]),
      ("contact", ["contact"]),
      ("email", ["email"]),
      ("gstin", ["gstin"]),
      ("notes", ["notes"]),
      ("created_at", ["created_at"])
    ]
  | kaptureTickets => [
      ("ticket_id", ["ticketId"]),
      ("task_id", ["ticket", "Task Id"]),
      ("task_title", ["ticket", "Task Title"]),
      ("status", ["ticket", "Status"]),
      ("sub_status", ["ticket", "Sub Status"]),
      ("priority", ["ticket", "Priority Name"]),
      ("tat", ["ticket", "TAT"]),
      ("sla", ["ticket", "SLA"]),
      ("created_at", ["createDate"]),
      ("last_conversation_at", ["lastConversationDate"]),
      ("source_type", ["sourceType"]),
      ("create_source_type", ["createSourceType"]),
      ("create_reason", ["createReason"]),
      ("landing_folder", ["landingFolder"]),
      ("disposed_folder", ["disposedFolder"]),
      ("folder_level_1", ["dispositionFolderLevel", "Folder level 1"]),
      ("folder_level_2", ["dispositionFolderLevel", "Folder level 2"]),
      ("folder_level_3", ["dispositionFolderLevel", "Folder level 3"]),
      ("current_queue", ["currentQueue"]),
      ("landing_queue", ["landingQueue"]),
      ("dispose_by", ["disposeBy"]),
      ("first_response_by", ["firstResponseBy"]),
      ("last_response_by", ["lastresponseBy"]),
      ("first_assign_emp", ["firstAssignEmpName"]),
      ("reopen_count", ["reopenCount"]),
      ("dispose_count", ["disposeCount"]),
      ("customer_interaction_count", ["customerInteractioncount"]),
      ("agent_interaction_count", ["agentInteractionCount"]),
      ("total_interaction_count", ["totalInteractionCount"]),
      ("conversation_count", ["ticket", "Conversation Count"]),
      ("ftr", ["ftr"]),
      ("first_response_time", ["firstResponseTime"]),
      ("avg_agent_response_time", ["avgAgentResponseTime"]),
      ("avg_handling_time", ["avgHandlingTime"]),
      ("time_to_resolve", ["diffCreateAndResolve"]),
      ("ticket_url", ["ticketUrl"]),
      ("email", ["ticket", "Email"]),
      ("phone", ["ticket", "Phone"]),
      ("customer_name", ["customer", "Customer Name"]),
      ("customer_code", ["customer", "Customer Code"]),
      ("contact_name", ["contact", "Contact Person"]),
      ("contact_email", ["contact", "Email"]),
      ("contact_phone", ["contact", "Phone"])
    ]

/-- Whether a column's field is absent or null. -/
def fieldMissing (cls : ConnectorClass) (item : Json) (column : ColumnSchema) : Bool :=
  (cls.feeds.lookup column.name).any (fun path => (item.atPath path).isNull)

/-- Whether the field of a required column is absent or null. -/
def missesRequired (cls : ConnectorClass) (item : Json) : Bool :=
  cls.getSchema.columns.any (fun column => column.required && cls.fieldMissing item column)

/-- Every optional column whose field is absent or null is null. -/
def NullsMissing (cls : ConnectorClass) (item : Json) (record : Record) : Prop :=
  ∀ column ∈ cls.getSchema.columns,
    column.required = false → cls.fieldMissing item column = true →
      record.lookup column.name = some (.json .null)

/-- An object each of whose fields is absent, null or of the kind its API documents: what
the transform converts, it can convert.
-/
def WellFormed (cls : ConnectorClass) (host : Host) (item : Json) : Prop :=
  item.isObject = true
  ∧ match cls with
    | razorpayOrders =>
        (∀ key ∈ ["amount", "amount_paid", "amount_due"],
          ∃ amount, RazorpayOrders.noneToZero host (item.atPath [key]) = .ok amount)
        ∧ (item.atPath ["created_at"] = .null
            ∨ ∃ createdAt, fromtimestamp host (item.atPath ["created_at"]) = .ok createdAt)
    | razorpayCustomers =>
        item.atPath ["created_at"] = .null
        ∨ ∃ createdAt, fromtimestamp host (item.atPath ["created_at"]) = .ok createdAt
    | kaptureTickets =>
        (∀ key ∈ ["ticket", "customer", "contact", "dispositionFolderLevel"],
          item.atPath [key] = .null ∨ (item.atPath [key]).isObject = true)
        ∧ (∀ key ∈ ["createDate", "createTime", "lastConversationDate",
              "lastConversationTime"],
            item.atPath [key] = .null ∨ ∃ text, item.atPath [key] = .str text)
        ∧ ∀ path ∈ [["reopenCount"], ["disposeCount"], ["customerInteractioncount"],
              ["agentInteractionCount"], ["totalInteractionCount"],
              ["ticket", "Conversation Count"]],
            ∃ number, KaptureTickets.toInt host (item.atPath path) = .ok number

/-- Whether a transform treats the missing fields of an item as the schema says: it does not
raise, and it leaves an amount null that is null.
-/
def Tolerates (cls : ConnectorClass) (item : Json) : Prop :=
  match cls with
  | razorpayOrders =>
      (∀ key ∈ ["id", "currency", "status", "created_at"], item.hasKey key = true)
      ∧ item.atPath ["created_at"] ≠ .null
      ∧ ((∀ key ∈ ["id", "currency", "status"], item.atPath [key] ≠ .null) →
          ∀ key ∈ ["amount", "amount_paid", "amount_due"], item.atPath [key] ≠ .null)
  | razorpayCustomers =>
      (∀ key ∈ ["id", "contact", "created_at"], item.hasKey key = true)
      ∧ item.atPath ["created_at"] ≠ .null
  | kaptureTickets => True

/-- What a tolerated item becomes: a record that is accepted exactly when no required field
is missing, and then has null where an optional one is.
-/
def Handles (cls : ConnectorClass) (host : Host) (now : Datetime) (item : Json) : Prop :=
  ∃ record,
    cls.transform host now item = .ok record
    ∧ validate cls.getSchema record = !cls.missesRequired item
    ∧ (cls.missesRequired item = false → cls.NullsMissing item record)

end ConnectorClass

namespace RazorpayOrders

/-- What the transform makes of an object. -/
theorem transform_ok_iff {host : Host} {now : Datetime} {entries : Dict} {record : Record}
    : transform host now (.dict entries) = .ok record
      ↔ ∃ id amount amountPaid amountDue currency status created createdAt,
          entries.lookup "id" = some id
          ∧ noneToZero host (Json.getOrNone entries "amount") = .ok amount
          ∧ noneToZero host (Json.getOrNone entries "amount_paid") = .ok amountPaid
          ∧ noneToZero host (Json.getOrNone entries "amount_due") = .ok amountDue
          ∧ entries.lookup "currency" = some currency
          ∧ entries.lookup "status" = some status
          ∧ entries.lookup "created_at" = some created
          ∧ fromtimestamp host created = .ok createdAt
          ∧ record = [
              ("id", .json id),
              ("amount", .json (.float amount.divHundred)),
              ("amount_paid", .json (.float amountPaid.divHundred)),
              ("amount_due", .json (.float amountDue.divHundred)),
              ("currency", .json currency),
              ("receipt", .json (Json.getOrNone entries "receipt")),
              ("status", .json status),
              ("created_at", .datetime createdAt),
              ("_extracted_at", .datetime (.aware now))
            ] := by
  simp only [transform, bind_eq_ok_iff, Json.getItem_dict, Json.get_dict]
  constructor
  · intro ran
    obtain ⟨id, hasId, _, rfl, amount, isAmount, _, rfl, amountPaid, isPaid, _, rfl, amountDue,
      isDue, currency, hasCurrency, receipt, rfl, status, hasStatus, created, hasCreated,
      createdAt, isCreated, same⟩ := ran
    cases same
    exact ⟨id, amount, amountPaid, amountDue, currency, status, created, createdAt, hasId,
      isAmount, isPaid, isDue, hasCurrency, hasStatus, hasCreated, isCreated, rfl⟩
  · intro parts
    obtain ⟨id, amount, amountPaid, amountDue, currency, status, created, createdAt, hasId,
      isAmount, isPaid, isDue, hasCurrency, hasStatus, hasCreated, isCreated, rfl⟩ := parts
    exact ⟨id, hasId, _, rfl, amount, isAmount, _, rfl, amountPaid, isPaid, _, rfl, amountDue,
      isDue, currency, hasCurrency, _, rfl, status, hasStatus, created, hasCreated, createdAt,
      isCreated, rfl⟩

/-- A record is accepted by its `id`, `currency` and `status`. -/
theorem validate_transform {host : Host} {now : Datetime} {entries : Dict} {record : Record}
    (transformed : transform host now (.dict entries) = .ok record)
    : validate getSchema record
      = !((Json.getOrNone entries "id").isNull || (Json.getOrNone entries "currency").isNull
          || (Json.getOrNone entries "status").isNull) := by
  rw [transform_ok_iff] at transformed
  obtain ⟨id, amount, amountPaid, amountDue, currency, status, created, createdAt, hasId, _, _,
    _, hasCurrency, hasStatus, _, _, same⟩ := transformed
  have accepted
      : validate getSchema record
        = (!(Value.json id).isNone
          && (!(Value.json currency).isNone && (!(Value.json status).isNone && true))) := by
    rw [same]
    rfl
  simp only [accepted, Value.isNone_json, Json.getOrNone, hasId, hasCurrency, hasStatus,
    Option.getD_some, Bool.and_true, Bool.not_or, Bool.and_assoc]

theorem missesRequired_dict (entries : Dict)
    : ConnectorClass.razorpayOrders.missesRequired (.dict entries)
      = ((Json.getOrNone entries "id").isNull || (Json.getOrNone entries "amount").isNull
          || (Json.getOrNone entries "currency").isNull
          || (Json.getOrNone entries "status").isNull
          || (Json.getOrNone entries "created_at").isNull) := by
  simp [ConnectorClass.missesRequired, ConnectorClass.getSchema, getSchema,
    ConnectorClass.fieldMissing, ConnectorClass.feeds, Json.atPath, List.lookup_cons,
    Bool.or_assoc]

/-- Every record without a missing required field is accepted, when it is transformed. -/
theorem validate_of_complete {host : Host} {now : Datetime} {entries : Dict} {record : Record}
    (transformed : transform host now (.dict entries) = .ok record)
    (complete : ConnectorClass.razorpayOrders.missesRequired (.dict entries) = false)
    : validate getSchema record = true := by
  rw [missesRequired_dict] at complete
  simp only [Bool.or_eq_false_iff] at complete
  obtain ⟨⟨⟨⟨id, _⟩, currency⟩, status⟩, _⟩ := complete
  rw [validate_transform transformed, id, currency, status]
  rfl

/-- A dated order is accepted or rejected as its required fields say exactly when it does not
miss its amount alone.
-/
theorem validate_eq_iff {host : Host} {now : Datetime} {entries : Dict} {record : Record}
    (transformed : transform host now (.dict entries) = .ok record)
    (dated : (Json.getOrNone entries "created_at").isNull = false)
    : validate getSchema record
        = !ConnectorClass.razorpayOrders.missesRequired (.dict entries)
      ↔ ((Json.getOrNone entries "id").isNull = false
        → (Json.getOrNone entries "currency").isNull = false
        → (Json.getOrNone entries "status").isNull = false
        → (Json.getOrNone entries "amount").isNull = false) := by
  rw [validate_transform transformed, missesRequired_dict, dated]
  cases (Json.getOrNone entries "id").isNull <;>
    cases (Json.getOrNone entries "currency").isNull <;>
    cases (Json.getOrNone entries "status").isNull <;>
    cases (Json.getOrNone entries "amount").isNull <;> decide

/-- Missing optional amounts become zero, a missing receipt stays null. -/
theorem nullsMissing_iff {host : Host} {now : Datetime} {entries : Dict} {record : Record}
    (transformed : transform host now (.dict entries) = .ok record)
    : ConnectorClass.razorpayOrders.NullsMissing (.dict entries) record
      ↔ Json.getOrNone entries "amount_paid" ≠ .null
        ∧ Json.getOrNone entries "amount_due" ≠ .null := by
  rw [transform_ok_iff] at transformed
  obtain ⟨id, amount, amountPaid, amountDue, currency, status, created, createdAt, _, _, _, _, _,
    _, _, _, rfl⟩ := transformed
  simp only [ConnectorClass.NullsMissing, ConnectorClass.getSchema, getSchema,
    ConnectorClass.fieldMissing, ConnectorClass.feeds, List.forall_mem_cons]
  simp [List.lookup_cons, Json.atPath, Json.isNull_iff]

/-- An order is handled exactly when it is tolerated. -/
theorem handles_iff {host : Host} {now : Datetime} {item : Json}
    (wellFormed : ConnectorClass.razorpayOrders.WellFormed host item)
    : ConnectorClass.razorpayOrders.Handles host now item
      ↔ ConnectorClass.razorpayOrders.Tolerates item := by
  obtain ⟨object, amounts, createds⟩ := wellFormed
  cases item with
  | null | bool _ | int _ | float _ | str _ | list _ => cases object
  | dict entries =>
      simp only [ConnectorClass.Tolerates, List.forall_mem_cons, Json.hasKey_dict,
        Json.atPath_dict] at amounts createds ⊢
      constructor
      · intro handled
        obtain ⟨record, transformed, accepted, nulls⟩ := handled
        obtain ⟨id, _, _, _, currency, status, created, createdAt, hasId, _, _, _, hasCurrency,
          hasStatus, hasCreated, isCreated, _⟩ :=
          (@transform_ok_iff host now entries record).mp transformed
        have dated : Json.getOrNone entries "created_at" ≠ .null := by
          intro absent
          rw [Json.getOrNone_of_lookup hasCreated] at absent
          rw [absent] at isCreated
          cases isCreated
        refine ⟨⟨⟨id, hasId⟩, ⟨currency, hasCurrency⟩, ⟨status, hasStatus⟩,
          ⟨created, hasCreated⟩, List.forall_mem_nil _⟩, dated, fun present => ?_⟩
        simp only [← Json.isNull_eq_false_iff] at present dated
        have amount := (validate_eq_iff transformed dated).mp accepted present.1 present.2.1
          present.2.2.1
        have complete
            : ConnectorClass.razorpayOrders.missesRequired (.dict entries) = false := by
          rw [missesRequired_dict, present.1, amount, present.2.1, present.2.2.1, dated]
          rfl
        obtain ⟨paid, due⟩ := (nullsMissing_iff transformed).mp (nulls complete)
        exact ⟨Json.isNull_eq_false_iff.mp amount, paid, due, List.forall_mem_nil _⟩
      · intro tolerated
        obtain ⟨⟨⟨id, hasId⟩, ⟨currency, hasCurrency⟩, ⟨status, hasStatus⟩,
          ⟨created, hasCreated⟩, _⟩, dated, complete⟩ := tolerated
        obtain ⟨⟨amount, isAmount⟩, ⟨amountPaid, isPaid⟩, ⟨amountDue, isDue⟩, _⟩ := amounts
        obtain ⟨createdAt, isCreated⟩ := createds.resolve_left dated
        rw [Json.getOrNone_of_lookup hasCreated] at isCreated
        have transformed := (@transform_ok_iff host now entries _).mpr
          ⟨id, amount, amountPaid, amountDue, currency, status, created, createdAt, hasId,
            isAmount, isPaid, isDue, hasCurrency, hasStatus, hasCreated, isCreated, rfl⟩
        simp only [← Json.isNull_eq_false_iff] at dated complete
        refine ⟨_, transformed, (validate_eq_iff transformed dated).mpr ?_,
          fun present => (nullsMissing_iff transformed).mpr ?_⟩
        · intro hasId hasCurrency hasStatus
          exact (complete ⟨hasId, hasCurrency, hasStatus, List.forall_mem_nil _⟩).1
        · rw [missesRequired_dict] at present
          simp only [Bool.or_eq_false_iff] at present
          obtain ⟨⟨⟨⟨hasId, _⟩, hasCurrency⟩, hasStatus⟩, _⟩ := present
          have amounts := complete ⟨hasId, hasCurrency, hasStatus, List.forall_mem_nil _⟩
          exact ⟨Json.isNull_eq_false_iff.mp amounts.2.1,
            Json.isNull_eq_false_iff.mp amounts.2.2.1⟩

end RazorpayOrders

namespace RazorpayCustomers

/-- What the transform makes of an object. -/
theorem transform_ok_iff {host : Host} {now : Datetime} {entries : Dict} {record : Record}
    : transform host now (.dict entries) = .ok record
      ↔ ∃ id contact created createdAt,
          entries.lookup "id" = some id
          ∧ entries.lookup "contact" = some contact
          ∧ entries.lookup "created_at" = some created
          ∧ fromtimestamp host created = .ok createdAt
          ∧ record = [
              ("id", .json id),
              ("name", .json (Json.getOrNone entries "name")),
              ("contact", .json contact),
              ("email", .json (Json.getOrNone entries "email")),
              ("gstin", .json (Json.getOrNone entries "gstin")),
              ("notes", .json (Json.getOrNone entries "notes")),
              ("created_at", .datetime createdAt),
              ("_extracted_at", .datetime (.aware now))
            ] := by
  simp only [transform, bind_eq_ok_iff, Json.getItem_dict, Json.get_dict]
  constructor
  · intro ran
    obtain ⟨id, hasId, _, rfl, contact, hasContact, _, rfl, _, rfl, _, rfl, created, hasCreated,
      createdAt, isCreated, same⟩ := ran
    cases same
    exact ⟨id, contact, created, createdAt, hasId, hasContact, hasCreated, isCreated, rfl⟩
  · intro parts
    obtain ⟨id, contact, created, createdAt, hasId, hasContact, hasCreated, isCreated, rfl⟩ :=
      parts
    exact ⟨id, hasId, _, rfl, contact, hasContact, _, rfl, _, rfl, _, rfl, created, hasCreated,
      createdAt, isCreated, rfl⟩

/-- A record is accepted by its `id`. -/
theorem validate_transform {host : Host} {now : Datetime} {entries : Dict} {record : Record}
    (transformed : transform host now (.dict entries) = .ok record)
    : validate getSchema record = !(Json.getOrNone entries "id").isNull := by
  rw [transform_ok_iff] at transformed
  obtain ⟨id, contact, created, createdAt, hasId, _, _, _, same⟩ := transformed
  have accepted : validate getSchema record = (!(Value.json id).isNone && true) := by
    rw [same]
    rfl
  rw [accepted, Bool.and_true, Value.isNone_json, Json.getOrNone_of_lookup hasId]

theorem missesRequired_dict (entries : Dict)
    : ConnectorClass.razorpayCustomers.missesRequired (.dict entries)
      = ((Json.getOrNone entries "id").isNull
          || (Json.getOrNone entries "created_at").isNull) := by
  simp [ConnectorClass.missesRequired, ConnectorClass.getSchema, getSchema,
    ConnectorClass.fieldMissing, ConnectorClass.feeds, Json.atPath, List.lookup_cons]

/-- Missing optional fields stay null. -/
theorem nullsMissing {host : Host} {now : Datetime} {entries : Dict} {record : Record}
    (transformed : transform host now (.dict entries) = .ok record)
    : ConnectorClass.razorpayCustomers.NullsMissing (.dict entries) record := by
  rw [transform_ok_iff] at transformed
  obtain ⟨id, contact, created, createdAt, _, hasContact, _, _, rfl⟩ := transformed
  simp only [ConnectorClass.NullsMissing, ConnectorClass.getSchema, getSchema,
    ConnectorClass.fieldMissing, ConnectorClass.feeds, List.forall_mem_cons]
  simp [List.lookup_cons, Json.atPath, Json.isNull_iff, Json.getOrNone, hasContact]

/-- Every record without a missing required field is accepted, when it is transformed. -/
theorem validate_of_complete {host : Host} {now : Datetime} {entries : Dict} {record : Record}
    (transformed : transform host now (.dict entries) = .ok record)
    (complete : ConnectorClass.razorpayCustomers.missesRequired (.dict entries) = false)
    : validate getSchema record = true := by
  rw [missesRequired_dict] at complete
  simp only [Bool.or_eq_false_iff] at complete
  rw [validate_transform transformed, complete.1]
  rfl

/-- A customer is handled exactly when it is tolerated. -/
theorem handles_iff {host : Host} {now : Datetime} {item : Json}
    (wellFormed : ConnectorClass.razorpayCustomers.WellFormed host item)
    : ConnectorClass.razorpayCustomers.Handles host now item
      ↔ ConnectorClass.razorpayCustomers.Tolerates item := by
  obtain ⟨object, createds⟩ := wellFormed
  cases item with
  | null | bool _ | int _ | float _ | str _ | list _ => cases object
  | dict entries =>
      simp only [ConnectorClass.Tolerates, List.forall_mem_cons, Json.hasKey_dict,
        Json.atPath_dict] at createds ⊢
      constructor
      · intro handled
        obtain ⟨record, transformed, _, _⟩ := handled
        obtain ⟨id, contact, created, createdAt, hasId, hasContact, hasCreated, isCreated, _⟩ :=
          (@transform_ok_iff host now entries record).mp transformed
        refine ⟨⟨⟨id, hasId⟩, ⟨contact, hasContact⟩, ⟨created, hasCreated⟩,
          List.forall_mem_nil _⟩, ?_⟩
        intro absent
        rw [Json.getOrNone_of_lookup hasCreated] at absent
        rw [absent] at isCreated
        cases isCreated
      · intro tolerated
        obtain ⟨⟨⟨id, hasId⟩, ⟨contact, hasContact⟩, ⟨created, hasCreated⟩, _⟩, dated⟩ :=
          tolerated
        obtain ⟨createdAt, isCreated⟩ := createds.resolve_left dated
        rw [Json.getOrNone_of_lookup hasCreated] at isCreated
        have transformed := (@transform_ok_iff host now entries _).mpr
          ⟨id, contact, created, createdAt, hasId, hasContact, hasCreated, isCreated, rfl⟩
        refine ⟨_, transformed, ?_, fun _ => nullsMissing transformed⟩
        refine (validate_transform transformed).trans (congrArg not ?_)
        rw [missesRequired_dict, Json.isNull_eq_false_iff.mpr dated, Bool.or_false]

end RazorpayCustomers

namespace KaptureTickets

section

variable {host : Host} {now : Datetime} {entries : Dict}

/-- A field of an object. -/
theorem get_field (key : String)
    : (Json.dict entries).get key = .ok ((Json.dict entries).atPath [key]) := by
  rw [Json.atPath_dict]
  rfl

/-- A nested field of an object whose part is absent, null or an object. -/
theorem get_nested {key : String}
    (part : Json.getOrNone entries key = .null ∨ (Json.getOrNone entries key).isObject = true)
    (name : String)
    : ((Json.getOrNone entries key).orElse (.dict [])).get name
      = .ok ((Json.dict entries).atPath [key, name]) := by
  rw [Json.atPath]
  cases found : Json.getOrNone entries key with
  | null => rfl
  | dict fields => cases fields <;> rfl
  | bool _ | int _ | float _ | str _ | list _ =>
      rw [found] at part
      rcases part with absent | absent <;> cases absent

theorem ok_bind {α β : Type} (value : α) (next : α → Except PyException β)
    : (Except.ok value >>= next) = next value :=
  rfl

theorem null_orElse : Json.null.orElse .null = .null := rfl

theorem toInt_null : toInt host .null = .ok (.json .null) := rfl

theorem parseDt_null (time : Json) : parseDt host .null time = .ok (.json .null) := rfl

/-- Texts, or nothing, can be read as a date. -/
theorem parseDt_isOk {date time : Json} (dates : date = .null ∨ ∃ text, date = .str text)
    (times : time = .null ∨ ∃ text, time = .str text)
    : (parseDt host date time).isOk = true := by
  have timed : ∃ text, time.orElse (.str "00:00:00") = .str text := by
    rcases times with rfl | ⟨text, rfl⟩
    · exact ⟨_, rfl⟩
    · unfold Json.orElse
      split
      · exact ⟨text, rfl⟩
      · exact ⟨_, rfl⟩
  obtain ⟨timeText, isTime⟩ := timed
  rcases dates with rfl | ⟨dateText, rfl⟩
  · rfl
  · unfold parseDt
    rw [isTime]
    split <;> rfl

theorem isOk_of_exists {α : Type} {result : Except PyException α}
    (done : ∃ value, result = .ok value)
    : result.isOk = true := by
  obtain ⟨value, rfl⟩ := done
  rfl

/-- The columns of a ticket, as the transform computes them from an object. -/
def values (host : Host) (now : Datetime) (entries : Dict)
    : List (String × Except PyException Value) :=
  let part (key : String) := (Json.getOrNone entries key).orElse (.dict [])
  columnValues host now (.dict entries) (part "ticket") (part "customer") (part "contact")
    (part "dispositionFolderLevel")

/-- A column whose field is absent or null is null. -/
theorem values_null (wellFormed : ConnectorClass.kaptureTickets.WellFormed host (.dict entries))
    : ∀ entry ∈ values host now entries, ∀ path,
        ConnectorClass.kaptureTickets.feeds.lookup entry.1 = some path
        → (Json.dict entries).atPath path = .null
        → entry.2 = .ok (.json .null) := by
  obtain ⟨_, parts, dates, numbers⟩ := wellFormed
  simp only [List.forall_mem_cons, Json.atPath_dict] at parts
  obtain ⟨ticket, customer, contact, folder, _⟩ := parts
  simp only [values, columnValues, List.forall_mem_cons, ConnectorClass.feeds, getValue,
    getOrNull, getInt, getDatetime, get_nested ticket, get_nested customer, get_nested contact,
    get_nested folder, get_field]
  simp +contextual [List.lookup_cons, ok_bind, null_orElse, toInt_null, parseDt_null]

/-- Every column of a well-formed ticket can be computed. -/
theorem values_ok (wellFormed : ConnectorClass.kaptureTickets.WellFormed host (.dict entries))
    : ∀ entry ∈ values host now entries, entry.2.isOk = true := by
  obtain ⟨_, parts, dates, numbers⟩ := wellFormed
  simp only [List.forall_mem_cons, Json.atPath_dict] at parts
  obtain ⟨ticket, customer, contact, folder, _⟩ := parts
  simp only [List.forall_mem_cons] at dates numbers
  obtain ⟨createDate, createTime, lastDate, lastTime, _⟩ := dates
  obtain ⟨reopen, dispose, customerCount, agentCount, total, conversation, _⟩ := numbers
  simp only [values, columnValues, List.forall_mem_cons, getValue, getOrNull, getInt,
    getDatetime, get_nested ticket, get_nested customer, get_nested contact, get_nested folder,
    get_field, ok_bind, isOk_of_exists reopen, isOk_of_exists dispose,
    isOk_of_exists customerCount, isOk_of_exists agentCount, isOk_of_exists total,
    isOk_of_exists conversation, parseDt_isOk createDate createTime,
    parseDt_isOk lastDate lastTime]
  simp [Except.isOk, Except.toBool, pure, Except.pure]

/-- A column of a dict display has the value computed for it, by induction over the
entries.
-/
theorem dictDisplay_lookup {computed : List (String × Except PyException Value)}
    {record : Record} (done : dictDisplay computed = .ok record) {name : String}
    {value : Except PyException Value} (found : computed.lookup name = some value)
    : ∃ made, value = .ok made ∧ record.lookup name = some made := by
  induction computed generalizing record with
  | nil => cases found
  | cons entry rest ih =>
      obtain ⟨first, made, later⟩ := bind_eq_ok_iff.mp done
      obtain ⟨columns, display, same⟩ := bind_eq_ok_iff.mp later
      cases same
      cases own : name == entry.1 with
      | true =>
          rw [List.lookup_cons, own] at found
          cases found
          refine ⟨first, made, ?_⟩
          rw [List.lookup_cons, own]
      | false =>
          rw [List.lookup_cons, own] at found ⊢
          exact ih display found

/-- A name among the keys of a list is found there. -/
theorem lookup_of_name {α : Type} {listed : List (String × α)} {name : String}
    (member : name ∈ listed.map Prod.fst)
    : ∃ value, listed.lookup name = some value ∧ (name, value) ∈ listed := by
  induction listed with
  | nil => cases member
  | cons entry rest ih =>
      cases own : name == entry.1 with
      | true =>
          rw [List.lookup_cons, own]
          exact ⟨entry.2, rfl, (beq_iff_eq.mp own).symm ▸ List.mem_cons_self⟩
      | false =>
          rw [List.lookup_cons, own]
          have later : name ∈ rest.map Prod.fst := by
            rcases List.mem_cons.mp member with same | among
            · exact absurd same (by simpa using own)
            · exact among
          obtain ⟨value, found, inside⟩ := ih later
          exact ⟨value, found, List.mem_cons_of_mem _ inside⟩

theorem values_names
    : (values host now entries).map Prod.fst
      = getSchema.columns.map (fun column => column.name) :=
  rfl

/-- A well-formed ticket has a record. -/
theorem display_ok (wellFormed : ConnectorClass.kaptureTickets.WellFormed host (.dict entries))
    : ∃ record, dictDisplay (values host now entries) = .ok record := by
  have all : (dictDisplay (values host now entries)).isOk = true := by
    rw [dictDisplay_isOk, List.all_eq_true]
    exact values_ok wellFormed
  cases made : dictDisplay (values host now entries) with
  | ok record => exact ⟨record, rfl⟩
  | error _ =>
      rw [made] at all
      cases all

/-- A well-formed ticket is handled. -/
theorem handles (wellFormed : ConnectorClass.kaptureTickets.WellFormed host (.dict entries))
    : ConnectorClass.kaptureTickets.Handles host now (.dict entries) := by
  obtain ⟨record, display⟩ := @display_ok host now entries wellFormed
  have ticket
      : record.lookup "ticket_id" = some (.json ((Json.dict entries).atPath ["ticketId"])) := by
    obtain ⟨made, same, found⟩ := @dictDisplay_lookup _ _ display "ticket_id"
      (getValue (.dict entries) "ticketId") rfl
    rw [getValue, get_field, ok_bind] at same
    cases same
    exact found
  have stamp : record.lookup "_extracted_at" = some (.datetime (.aware now)) := by
    obtain ⟨made, same, found⟩ := @dictDisplay_lookup _ _ display "_extracted_at"
      (.ok (.datetime (.aware now))) rfl
    cases same
    exact found
  refine ⟨record, display, ?_, fun _ column member _ missing => ?_⟩
  · have required
        : ConnectorClass.kaptureTickets.getSchema.requiredColumnNames
          = ["ticket_id", "_extracted_at"] :=
      rfl
    rw [validate, required]
    simp [ticket, stamp, Value.isNone_json, Value.isNone_datetime,
      ConnectorClass.missesRequired, ConnectorClass.getSchema, getSchema,
      ConnectorClass.fieldMissing, ConnectorClass.feeds, List.lookup_cons]
  · obtain ⟨path, fed, absent⟩ := (Option.any_eq_true _ _).mp missing
    obtain ⟨value, found, inside⟩ := @lookup_of_name _ (values host now entries) column.name (by
      rw [values_names]
      exact List.mem_map_of_mem member)
    obtain ⟨made, same, read⟩ := dictDisplay_lookup display found
    have null : value = .ok (.json .null) :=
      values_null wellFormed _ inside path fed (Json.isNull_iff.mp absent)
    rw [null] at same
    cases same
    exact read

end

end KaptureTickets

namespace ConnectorClass

variable {cls : ConnectorClass} {host : Host} {now : Datetime} {item : Json}

/-- A well-formed item is handled exactly when it is tolerated. -/
theorem handles_iff (wellFormed : cls.WellFormed host item)
    : cls.Handles host now item ↔ cls.Tolerates item := by
  cases cls with
  | razorpayOrders => exact RazorpayOrders.handles_iff wellFormed
  | razorpayCustomers => exact RazorpayCustomers.handles_iff wellFormed
  | kaptureTickets =>
      have object := wellFormed.1
      cases item with
      | null | bool _ | int _ | float _ | str _ | list _ => cases object
      | dict entries => exact ⟨fun _ => trivial, fun _ => KaptureTickets.handles wellFormed⟩

/-- A well-formed item that lacks no required field is accepted, when it is transformed. -/
theorem validate_of_complete (wellFormed : cls.WellFormed host item) {record : Record}
    (transformed : cls.transform host now item = .ok record)
    (complete : cls.missesRequired item = false)
    : validate cls.getSchema record = true := by
  have object := wellFormed.1
  cases item with
  | null | bool _ | int _ | float _ | str _ | list _ => cases object
  | dict entries =>
      cases cls with
      | razorpayOrders => exact RazorpayOrders.validate_of_complete transformed complete
      | razorpayCustomers => exact RazorpayCustomers.validate_of_complete transformed complete
      | kaptureTickets =>
          obtain ⟨handled, made, accepted, _⟩ := @KaptureTickets.handles host now _ wellFormed
          rw [transformed] at made
          cases made
          rw [accepted, complete]
          rfl

end ConnectorClass

end Turbocat.Connectors
