import Turbocat.Connectors.ClickHouse
import Turbocat.Connectors.MissingFields

/-! Whether the record of a ticket fits the columns that the destination creates for it. -/

namespace Turbocat.Connectors.TicketSchema

open Turbocat.Python KaptureTickets

/-- A ticket as the API documents it, but for its counts: the nested parts are objects, absent
or null, and its dates and times are texts, absent or null.
-/
structure TicketObject (item : Json) : Prop where
  object : item.isObject = true
  parts
    : ∀ key ∈ ["ticket", "customer", "contact", "dispositionFolderLevel"],
        item.atPath [key] = .null ∨ (item.atPath [key]).isObject = true
  dates
    : ∀ key ∈ ["createDate", "createTime", "lastConversationDate", "lastConversationTime"],
        item.atPath [key] = .null ∨ ∃ text, item.atPath [key] = .str text

/-- The columns that hold a count, each with the field it is read from. -/
def counts : List (String × List String) :=
  [
    ("reopen_count", ["reopenCount"]),
    ("dispose_count", ["disposeCount"]),
    ("customer_interaction_count", ["customerInteractioncount"]),
    ("agent_interaction_count", ["agentInteractionCount"]),
    ("total_interaction_count", ["totalInteractionCount"]),
    ("conversation_count", ["ticket", "Conversation Count"])
  ]

/-- A number that an `Int64` column can hold. -/
def FitsInt64 (number : Int) : Prop := -2 ^ 63 ≤ number ∧ number < 2 ^ 63

instance (number : Int) : Decidable (FitsInt64 number) := inferInstanceAs (Decidable (_ ∧ _))

/-- Null, or an integer that an `Int64` column can hold. -/
def IsCount (value : Value) : Prop :=
  value = .json .null ∨ ∃ number, value = .json (.int number) ∧ FitsInt64 number

/-- Null, or a datetime. -/
def IsMoment (value : Value) : Prop :=
  value = .json .null ∨ ∃ moment, value = .datetime moment

/-- A record with exactly the columns of the schema: the integers are created as `Int64` and
hold what such a column can, and the datetimes hold datetimes.
-/
structure FitsSchema (record : Record) : Prop where
  keys : record.map Prod.fst = getSchema.columns.map (fun column => column.name)
  integers
    : ∀ column ∈ getSchema.columns, column.type = "integer" →
        ClickHouse.columnType column = "Nullable(Int64)"
        ∧ ∃ value, record.lookup column.name = some value ∧ IsCount value
  datetimes
    : ∀ column ∈ getSchema.columns, column.type = "datetime" →
        ∃ value, record.lookup column.name = some value ∧ IsMoment value

/-- A count that can be read, and held where it is a number: it is not infinite, and a number or
a text that Python reads as an integer is in the range of the column.
-/
def Countable (host : Host) : Json → Prop
  | .int number => FitsInt64 number
  | .float (.finite number) => FitsInt64 (number.num.tdiv number.den)
  | .float (.infinity _) => False
  | .str text =>
      text ≠ "null" → text ≠ "" →
        ∀ number, host.intOfStr text = some number → FitsInt64 number
  | .null | .bool _ | .float .nan | .list _ | .dict _ => True

variable {host : Host} {now : Datetime} {entries : Dict} {item : Json}

theorem isCount_null : IsCount (.json .null) := .inl rfl

theorem isCount_int {number : Int} : IsCount (.json (.int number)) ↔ FitsInt64 number := by
  simp [IsCount]

/-- `_to_int` gives a count exactly for what can be counted, by cases of the value. -/
theorem toInt_count_iff {value : Json}
    : (∃ count, toInt host value = .ok count ∧ IsCount count) ↔ Countable host value := by
  cases value with
  | null => exact iff_of_true ⟨_, rfl, isCount_null⟩ trivial
  | bool flag =>
      refine iff_of_true ⟨_, rfl, isCount_int.mpr ?_⟩ trivial
      cases flag <;> decide
  | int number => simp [toInt, Countable, isCount_int]
  | float number =>
      cases number with
      | finite number => simp [toInt, Countable, isCount_int]
      | infinity negative => simp [toInt, Countable]
      | nan => exact iff_of_true ⟨_, rfl, isCount_null⟩ trivial
  | str text =>
      by_cases blank : text = "null" ∨ text = ""
      · simp only [toInt, blank, if_true, Countable]
        refine iff_of_true ⟨_, rfl, isCount_null⟩ (fun named some_ => ?_)
        rcases blank with null | empty
        · exact absurd null named
        · exact absurd empty some_
      · simp only [toInt, blank, if_false, Countable]
        obtain ⟨named, some_⟩ := not_or.mp blank
        cases read : host.intOfStr text with
        | none => exact iff_of_true ⟨_, rfl, isCount_null⟩ (by simp)
        | some number => simp [isCount_int, named, some_]
  | list items => exact iff_of_true ⟨_, rfl, isCount_null⟩ trivial
  | dict fields => exact iff_of_true ⟨_, rfl, isCount_null⟩ trivial

/-- A date gives a moment, or nothing, where it is computed at all. -/
theorem parseDt_moment {date time : Json} {value : Value}
    (parsed : parseDt host date time = .ok value)
    : IsMoment value := by
  unfold parseDt at parsed
  split at parsed
  · obtain ⟨dateText, _, rest⟩ := bind_eq_ok_iff.mp parsed
    obtain ⟨timeText, _, made⟩ := bind_eq_ok_iff.mp rest
    cases read : host.strptime (dateText ++ " " ++ timeText) with
    | some wall =>
        rw [read] at made
        cases made
        exact .inr ⟨_, rfl⟩
    | none =>
        rw [read] at made
        cases made
        exact .inl rfl
  · cases parsed
    exact .inl rfl

/-- The integer columns are the counts, and nullable. -/
theorem integer_columns
    : ∀ column ∈ getSchema.columns, column.type = "integer" →
        ClickHouse.columnType column = "Nullable(Int64)"
        ∧ column.name ∈ counts.map Prod.fst := by
  decide

/-- Each count is a column of the schema. -/
theorem counts_declared
    : ∀ count ∈ counts, ∃ column ∈ getSchema.columns,
        column.name = count.1 ∧ column.type = "integer" := by
  decide

/-- The datetime columns are read from two dates, or from the clock. -/
theorem datetime_columns
    : ∀ column ∈ getSchema.columns, column.type = "datetime" →
        column.name ∈ ["created_at", "last_conversation_at", "_extracted_at"] := by
  decide

/-- What a count is computed from. -/
theorem values_count (ticket : TicketObject (.dict entries)) {name : String}
    {path : List String} (count : (name, path) ∈ counts)
    : (values host now entries).lookup name
      = some (toInt host ((Json.dict entries).atPath path)) := by
  have part := ticket.parts "ticket" List.mem_cons_self
  rw [Json.atPath_dict] at part
  have field (key : String)
      : getInt host (.dict entries) key = toInt host ((Json.dict entries).atPath [key]) := by
    rw [getInt, get_field, ok_bind]
  have nested
      : getInt host ((Json.getOrNone entries "ticket").orElse (.dict [])) "Conversation Count"
        = toInt host ((Json.dict entries).atPath ["ticket", "Conversation Count"]) := by
    rw [getInt, get_nested part, ok_bind]
  simp only [counts, List.mem_cons, Prod.mk.injEq, List.not_mem_nil, or_false] at count
  rcases count with ⟨rfl, rfl⟩ | ⟨rfl, rfl⟩ | ⟨rfl, rfl⟩ | ⟨rfl, rfl⟩ | ⟨rfl, rfl⟩ | ⟨rfl, rfl⟩
  · exact congrArg some (field "reopenCount")
  · exact congrArg some (field "disposeCount")
  · exact congrArg some (field "customerInteractioncount")
  · exact congrArg some (field "agentInteractionCount")
  · exact congrArg some (field "totalInteractionCount")
  · exact congrArg some nested

/-- A datetime column holds a moment, where the record is computed at all. -/
theorem display_moment {record : Record}
    (display : dictDisplay (values host now entries) = .ok record) {name : String}
    (listed : name ∈ ["created_at", "last_conversation_at", "_extracted_at"])
    : ∃ value, record.lookup name = some value ∧ IsMoment value := by
  have dated {name dateKey timeKey : String}
      (found
        : (values host now entries).lookup name
          = some (getDatetime host (.dict entries) dateKey timeKey))
      : ∃ value, record.lookup name = some value ∧ IsMoment value := by
    obtain ⟨made, same, stored⟩ := dictDisplay_lookup display found
    rw [getDatetime, get_field, ok_bind, get_field, ok_bind] at same
    exact ⟨made, stored, parseDt_moment same⟩
  simp only [List.mem_cons, List.not_mem_nil, or_false] at listed
  rcases listed with rfl | rfl | rfl
  · exact @dated _ "createDate" "createTime" rfl
  · exact @dated _ "lastConversationDate" "lastConversationTime" rfl
  · obtain ⟨made, same, stored⟩ := @dictDisplay_lookup _ _ display "_extracted_at"
      (.ok (.datetime (.aware now))) rfl
    cases same
    exact ⟨_, stored, .inr ⟨_, rfl⟩⟩

/-- A ticket whose counts can be read is well-formed. -/
theorem TicketObject.wellFormed (ticket : TicketObject item)
    (countable : ∀ count ∈ counts, Countable host (item.atPath count.2))
    : ConnectorClass.kaptureTickets.WellFormed host item := by
  refine ⟨ticket.object, ticket.parts, ticket.dates, fun path member => ?_⟩
  obtain ⟨count, listed, rfl⟩ := List.mem_map.mp (show path ∈ counts.map Prod.snd from member)
  obtain ⟨value, read, _⟩ := toInt_count_iff.mpr (countable count listed)
  exact ⟨value, read⟩

/-- A record that fits its schema has counts that can be read, and held by their columns. -/
theorem countable_of_fits (ticket : TicketObject (.dict entries)) {record : Record}
    (transformed : transform host now (.dict entries) = .ok record) (fits : FitsSchema record)
    : ∀ count ∈ counts, Countable host ((Json.dict entries).atPath count.2) := by
  intro count listed
  rw [← toInt_count_iff]
  obtain ⟨column, declared, name, type⟩ := counts_declared count listed
  obtain ⟨_, value, stored, isCount⟩ := fits.integers column declared type
  obtain ⟨made, same, found⟩ := @dictDisplay_lookup _ _ transformed count.1 _
    (values_count ticket listed)
  rw [name, found] at stored
  cases stored
  exact ⟨_, same, isCount⟩

/-- A ticket whose counts can be read, and held by their columns, has a record that fits. -/
theorem fits_of_countable (ticket : TicketObject (.dict entries))
    (countable : ∀ count ∈ counts, Countable host ((Json.dict entries).atPath count.2))
    : ∃ record, transform host now (.dict entries) = .ok record ∧ FitsSchema record := by
  obtain ⟨record, display⟩ := @display_ok host now entries (ticket.wellFormed countable)
  refine ⟨record, display, ?_, fun column declared type => ?_, fun column declared type => ?_⟩
  · rw [dictDisplay_names display, values_names]
  · obtain ⟨created, named⟩ := integer_columns column declared type
    obtain ⟨path, _, listed⟩ := lookup_of_name named
    obtain ⟨made, same, stored⟩ := @dictDisplay_lookup _ _ display column.name _
      (values_count ticket listed)
    obtain ⟨value, read, isCount⟩ := toInt_count_iff.mpr (countable _ listed)
    rw [same] at read
    cases read
    exact ⟨created, made, stored, isCount⟩
  · exact display_moment display (datetime_columns column declared type)

/-- A ticket has a record that fits its schema exactly when each of its counts can be read, and
held by its column.
-/
theorem transform_fits_schema_iff (ticket : TicketObject item)
    : (∃ record, transform host now item = .ok record ∧ FitsSchema record)
      ↔ ∀ count ∈ counts, Countable host (item.atPath count.2) := by
  have object := ticket.object
  cases item with
  | null | bool _ | int _ | float _ | str _ | list _ => cases object
  | dict entries =>
      constructor
      · intro ⟨record, transformed, fits⟩
        exact countable_of_fits ticket transformed fits
      · exact fits_of_countable ticket

namespace Sample

/-- A ticket reopened a number of times. -/
def ticket (reopenCount : Json) : Json :=
  .dict [("ticketId", .str "T1"), ("reopenCount", reopenCount)]

theorem ticketObject (reopenCount : Json) : TicketObject (ticket reopenCount) := by
  refine ⟨rfl, ?_, ?_⟩
  · simp [ticket, Json.atPath_dict, Json.getOrNone, List.lookup_cons]
  · simp [ticket, Json.atPath_dict, Json.getOrNone, List.lookup_cons]

end Sample

/-- An infinite count raises, and one of `2 ** 63` does not fit its column. -/
theorem infinite_count_raises
    : TicketObject (Sample.ticket (.float (.infinity false)))
      ∧ transform Host.utc default (Sample.ticket (.float (.infinity false)))
        = .error ⟨.overflowError, "cannot convert float infinity to integer"⟩
      ∧ (¬ ∃ record,
          transform Host.utc default (Sample.ticket (.float (.infinity false))) = .ok record
          ∧ FitsSchema record)
      ∧ ¬ ∃ record,
          transform Host.utc default (Sample.ticket (.int (2 ^ 63))) = .ok record
          ∧ FitsSchema record := by
  refine ⟨Sample.ticketObject _, rfl, fun fits => ?_, fun fits => ?_⟩
  · obtain ⟨record, transformed, _⟩ := fits
    cases transformed
  · obtain ⟨record, transformed, fits⟩ := fits
    have held := countable_of_fits (Sample.ticketObject (.int (2 ^ 63))) transformed fits
      ("reopen_count", ["reopenCount"]) List.mem_cons_self
    exact absurd held.2 (lt_irrefl _)

/-- A ticket that was reopened three times. -/
theorem small_count_fits
    : ∃ record,
        transform Host.utc default (Sample.ticket (.int 3)) = .ok record
        ∧ FitsSchema record := by
  refine (transform_fits_schema_iff (Sample.ticketObject (.int 3))).mpr ?_
  intro count listed
  simp only [counts, List.mem_cons, List.not_mem_nil, or_false] at listed
  rcases listed with rfl | rfl | rfl | rfl | rfl | rfl
  · exact show FitsInt64 3 by decide
  · trivial
  · trivial
  · trivial
  · trivial
  · trivial

end Turbocat.Connectors.TicketSchema
