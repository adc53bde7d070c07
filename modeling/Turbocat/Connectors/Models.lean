import Turbocat.Python.Host

/-! Schemas, records and sync results, and what one run of an `extract` generator does:
the requests it sends and the records it yields, in order, and how it ends.
-/

namespace Turbocat.Connectors

open Turbocat.Python

/-- A value of a transformed record. -/
inductive Value where
  | json (value : Json)
  | datetime (value : PyDatetime)
  deriving Repr

/-- `value is None`. -/
def Value.isNone : Value → Bool
  | .json .null => true
  | _ => false

/-- A transformed record. -/
abbrev Record := List (String × Value)

/-- A column of a destination table. -/
structure ColumnSchema where
  name : String
  type : String
  required : Bool := false
  deriving DecidableEq, Repr

/-- A destination table. -/
structure TableSchema where
  tableName : String
  columns : List ColumnSchema
  deriving DecidableEq, Repr

/-- The names of the required columns. -/
def TableSchema.requiredColumnNames (schema : TableSchema) : List String :=
  (schema.columns.filter (fun column => column.required)).map (fun column => column.name)

inductive SyncStatus where
  | success
  | error
  deriving DecidableEq, Repr

/-- What `sync` returns. -/
structure SyncResult where
  status : SyncStatus
  recordsExtracted : Nat
  recordsLoaded : Nat
  recordsFailed : Nat
  nextState : Dict
  error : Option String := none
  deriving Repr

/-- A request of `extract` to its source API. -/
structure Request where
  method : String
  endpoint : String
  params : Dict
  deriving Repr

/-- The decoded JSON reply to a request, or the exception the HTTP client or the decoder
raised instead.
-/
abbrev Reply := Except PyException Json

/-- One step of a generator: a request sent, or a record yielded for a source item. -/
inductive ExtractEvent where
  | request (sent : Request)
  | record (item : Json) (yielded : Record)
  deriving Repr

/-- How a generator ends; `waiting` means a request has not been answered yet. -/
inductive ExtractOutcome where
  | returned
  | raised (exception : PyException)
  | waiting
  deriving DecidableEq, Repr

/-- The steps of a generator and its end. -/
structure ExtractRun where
  events : List ExtractEvent
  outcome : ExtractOutcome
  deriving Repr

namespace ExtractRun

/-- The same run after some earlier events. -/
def after (run : ExtractRun) (earlier : List ExtractEvent) : ExtractRun :=
  { run with events := earlier ++ run.events }

@[simp]
theorem after_events (run : ExtractRun) (earlier : List ExtractEvent)
    : (run.after earlier).events = earlier ++ run.events :=
  rfl

@[simp]
theorem after_outcome (run : ExtractRun) (earlier : List ExtractEvent)
    : (run.after earlier).outcome = run.outcome :=
  rfl

end ExtractRun

/-- The requests among the events of a run. -/
def requestsOf (events : List ExtractEvent) : List Request :=
  events.filterMap
    (fun event =>
      match event with
      | .request sent => some sent
      | .record _ _ => none)

/-- The source items whose records were yielded. -/
def itemsOf (events : List ExtractEvent) : List Json :=
  events.filterMap
    (fun event =>
      match event with
      | .request _ => none
      | .record item _ => some item)

/-- The records that were yielded. -/
def recordsOf (events : List ExtractEvent) : List Record :=
  events.filterMap
    (fun event =>
      match event with
      | .request _ => none
      | .record _ yielded => some yielded)

@[simp]
theorem requestsOf_append (left right : List ExtractEvent)
    : requestsOf (left ++ right) = requestsOf left ++ requestsOf right :=
  List.filterMap_append

@[simp]
theorem itemsOf_append (left right : List ExtractEvent)
    : itemsOf (left ++ right) = itemsOf left ++ itemsOf right :=
  List.filterMap_append

@[simp]
theorem recordsOf_append (left right : List ExtractEvent)
    : recordsOf (left ++ right) = recordsOf left ++ recordsOf right :=
  List.filterMap_append

@[simp]
theorem recordsOf_cons_request (sent : Request) (events : List ExtractEvent)
    : recordsOf (.request sent :: events) = recordsOf events :=
  rfl

@[simp]
theorem recordsOf_cons_record (item : Json) (yielded : Record) (events : List ExtractEvent)
    : recordsOf (.record item yielded :: events) = yielded :: recordsOf events :=
  rfl

@[simp]
theorem requestsOf_cons_request (sent : Request) (events : List ExtractEvent)
    : requestsOf (.request sent :: events) = sent :: requestsOf events :=
  rfl

@[simp]
theorem requestsOf_cons_record (item : Json) (yielded : Record) (events : List ExtractEvent)
    : requestsOf (.record item yielded :: events) = requestsOf events :=
  rfl

@[simp]
theorem itemsOf_cons_request (sent : Request) (events : List ExtractEvent)
    : itemsOf (.request sent :: events) = itemsOf events :=
  rfl

@[simp]
theorem itemsOf_cons_record (item : Json) (yielded : Record) (events : List ExtractEvent)
    : itemsOf (.record item yielded :: events) = item :: itemsOf events :=
  rfl

/-- The replies a run has read, when each of its requests has been answered. -/
def ExtractRun.consumed (run : ExtractRun) (replies : List Reply) : List Reply :=
  replies.take (requestsOf run.events).length

/-- The transform of a connector: the clock reading it takes and the raw record. -/
abbrev Transform := Datetime → Json → Except PyException Record

/-- `for item in items: yield self.transform(item)`, where the record yielded as number
`index` of the run reads the clock as `clock index`. The first exception ends the loop.
-/
def yieldItems (transform : Transform) (clock : Nat → Datetime)
    : Nat → List Json → List ExtractEvent × Option PyException
  | _, [] => ([], none)
  | index, item :: items =>
      match transform (clock index) item with
      | .error exception => ([], some exception)
      | .ok yielded =>
          let rest := yieldItems transform clock (index + 1) items
          (.record item yielded :: rest.1, rest.2)

/-- The loop sends no request. -/
@[simp]
theorem requestsOf_yieldItems (transform : Transform) (clock : Nat → Datetime) (index : Nat)
    (items : List Json)
    : requestsOf (yieldItems transform clock index items).1 = [] := by
  induction items generalizing index with
  | nil => rfl
  | cons item rest ih =>
      unfold yieldItems
      split
      · rfl
      · exact ih (index + 1)

/-- A loop that ends without an exception yields every item. -/
theorem itemsOf_yieldItems {transform : Transform} {clock : Nat → Datetime} {index : Nat}
    {items : List Json} (complete : (yieldItems transform clock index items).2 = none)
    : itemsOf (yieldItems transform clock index items).1 = items := by
  induction items generalizing index with
  | nil => rfl
  | cons item rest ih =>
      unfold yieldItems at complete ⊢
      split
      · next failed =>
          rw [failed] at complete
          cases complete
      · next transformed =>
          rw [transformed] at complete
          exact congrArg (List.cons item) (ih complete)

/-- The transforms of some items, the first of which reads the clock as `clock index`. -/
def transformed (transform : Transform) (clock : Nat → Datetime) (index : Nat)
    (items : List Json)
    : List (Except PyException Record) :=
  items.mapIdx (fun offset item => transform (clock (index + offset)) item)

theorem transformed_append (transform : Transform) (clock : Nat → Datetime) (index : Nat)
    (front back : List Json)
    : transformed transform clock index (front ++ back)
      = transformed transform clock index front
        ++ transformed transform clock (index + front.length) back := by
  simp only [transformed, List.mapIdx_append, Nat.add_assoc, Nat.add_comm front.length]

/-- The records of a loop over items are the transforms of the items it yielded, by induction
over the items.
-/
theorem yieldItems_records (transform : Transform) (clock : Nat → Datetime) (index : Nat)
    (items : List Json)
    : let events := (yieldItems transform clock index items).1
      (recordsOf events).map .ok = transformed transform clock index (itemsOf events) := by
  induction items generalizing index with
  | nil => rfl
  | cons item rest ih =>
      have later := ih (index + 1)
      unfold yieldItems
      split
      · rfl
      · next record made =>
          simp only [recordsOf_cons_record, itemsOf_cons_record, List.map_cons, later]
          simp only [transformed, List.mapIdx_cons, Nat.add_zero, made, Nat.add_assoc,
            Nat.add_comm 1]

/-- Every item that was yielded has its record. -/
theorem exists_record {transform : Transform} {clock : Nat → Datetime} {index : Nat}
    {events : List ExtractEvent}
    (records : (recordsOf events).map .ok = transformed transform clock index (itemsOf events))
    {item : Json} (member : item ∈ itemsOf events)
    : ∃ record ∈ recordsOf events, ∃ reading, transform (clock reading) item = .ok record := by
  obtain ⟨offset, inside, rfl⟩ := List.getElem_of_mem member
  have made : transform (clock (index + offset)) (itemsOf events)[offset]
      ∈ transformed transform clock index (itemsOf events) :=
    List.mem_mapIdx.mpr ⟨offset, inside, rfl⟩
  rw [← records] at made
  obtain ⟨record, among, same⟩ := List.mem_map.mp made
  exact ⟨record, among, _, same.symm⟩

end Turbocat.Connectors
