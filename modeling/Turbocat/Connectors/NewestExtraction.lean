import Turbocat.Connectors.ClickHouseInserts
import Turbocat.Connectors.Razorpay
import Turbocat.Library.Interleavings

/-! Concurrent syncs of one table. The version of a row is the whole second of its
extraction, so of the rows of one `id` in one second the last inserted one is kept.
-/

namespace Turbocat.Connectors.ClickHouse

open Turbocat.Library Turbocat.Python

/-- A record a sync extracted, with the row it is stored as. -/
structure Extraction (server : Server) (schema : TableSchema) where
  record : Record
  extractedAt : Datetime
  row : Row
  stamped : record.lookup "_extracted_at" = some (.datetime (.aware extractedAt))
  stored : rowOf server schema (definition schema) record = .ok row

variable {server : Server} {schema : TableSchema}

/-- The table after batches were inserted in an order. -/
def tableAfter (order : List (List (Extraction server schema))) : Option StoredTable :=
  loadAll server schema (fun _ => {}) 0 none
    (order.map (fun batch => batch.map Extraction.record))

/-- The extractions of some jobs, each of which inserts its batches in order. -/
def extractionsOf (jobs : List (List (List (Extraction server schema))))
    : List (Extraction server schema) :=
  jobs.flatten.flatten

/-- Whether an extraction is the newest of its `id`. -/
structure Newest (jobs : List (List (List (Extraction server schema))))
    (newest : Extraction server schema)
    : Prop where
  member : newest ∈ extractionsOf jobs
  greatest
    : ∀ other ∈ extractionsOf jobs,
        idOf other.row = idOf newest.row → other.extractedAt.us ≤ newest.extractedAt.us

/-- Whether an extraction has the `id` and the stored version of another. -/
def Extraction.rivals (newest other : Extraction server schema) : Bool :=
  decide (idOf other.row = idOf newest.row
    ∧ wholeSecond other.extractedAt = wholeSecond newest.extractedAt)

/-- The merged table has the newest extraction of every `id`. -/
def KeepsNewest (jobs : List (List (List (Extraction server schema))))
    (order : List (List (Extraction server schema)))
    : Prop :=
  ∀ newest, Newest jobs newest → merged (tableAfter order) (idOf newest.row) = some newest.row

/-- The rows after some inserts are those of the inserted extractions. -/
theorem rowsOf_tableAfter (order : List (List (Extraction server schema)))
    : rowsOf (tableAfter order) = order.flatten.map Extraction.row := by
  have batches (number : Nat)
      : insertedAll server schema (fun _ => {}) (definition schema) number
          (order.map (fun batch => batch.map Extraction.record))
        = order.flatten.map Extraction.row := by
    induction order generalizing number with
    | nil => rfl
    | cons batch rest ih =>
        have stored
            : (batch.map Extraction.record).mapM (rowOf server schema (definition schema))
              = .ok (batch.map Extraction.row) := by
          rw [mapM_eq_ok_iff, List.forall₂_map_left_iff, List.forall₂_map_right_iff]
          exact List.forall₂_same.mpr fun extraction _ => extraction.stored
        rw [List.map_cons, insertedAll, inserted_of_rows stored, ih, List.flatten_cons,
          List.map_append]
  rw [tableAfter, rowsOf_loadAll]
  exact batches 0

/-- Merging keeps an extraction under each `id`. -/
theorem merged_tableAfter
    (listed : ∃ column ∈ schema.columns, column.name = "_extracted_at")
    (order : List (List (Extraction server schema))) (k : Option Cell)
    : merged (tableAfter order) k
      = (survivor (fun extraction => idOf extraction.row)
          (fun extraction => wholeSecond extraction.extractedAt) order.flatten k).map
            Extraction.row := by
  have replaces : (tableDefinition schema (tableAfter order)).Replaces := by
    rw [tableAfter, tableDefinition_loadAll]
    exact definition_replaces listed
  have versions
      : extractedSecond ∘ Extraction.row
        = fun extraction : Extraction server schema => wholeSecond extraction.extractedAt := by
    funext extraction
    exact extractedSecond_rowOf listed extraction.stamped extraction.stored
  rw [merged_replaces replaces, rowsOf_tableAfter, survivor_map, versions]
  rfl

section

variable {jobs : List (List (List (Extraction server schema)))}
  {order : List (List (Extraction server schema))}

/-- The extractions that come are those of the jobs. -/
theorem mem_order_iff (interleaved : Interleaving jobs order)
    {extraction : Extraction server schema}
    : extraction ∈ order.flatten ↔ extraction ∈ extractionsOf jobs := by
  rw [extractionsOf, List.mem_flatten, List.mem_flatten]
  simp only [interleaved.mem_iff]

/-- Under the `id` of its newest extraction a table keeps the last inserted of those that
have the stored version of the newest.
-/
theorem merged_newest (listed : ∃ column ∈ schema.columns, column.name = "_extracted_at")
    (interleaved : Interleaving jobs order) {newest : Extraction server schema}
    (isNewest : Newest jobs newest)
    : merged (tableAfter order) (idOf newest.row)
      = (lastOf newest.rivals order.flatten).map Extraction.row := by
  have bound
      : ∀ other ∈ order.flatten,
          idOf other.row = idOf newest.row
          → wholeSecond other.extractedAt ≤ wholeSecond newest.extractedAt :=
    fun other member same =>
      wholeSecond_le (isNewest.greatest other ((mem_order_iff interleaved).mp member) same)
  rw [merged_tableAfter listed, survivor_eq_lastOf bound
    ⟨newest, (mem_order_iff interleaved).mpr isNewest.member, rfl, rfl⟩]
  rfl

/-- Every job inserts, as the last of the extractions that have the stored version of the
newest, one that is stored as the newest is.
-/
def EndsWithNewest (jobs : List (List (List (Extraction server schema)))) : Prop :=
  ∀ newest, Newest jobs newest → ∀ job ∈ jobs, ∀ last,
    lastOf newest.rivals job.flatten = some last → last.row = newest.row

/-- An extraction of an `id` has a newest one. -/
theorem exists_newest {extraction : Extraction server schema}
    (member : extraction ∈ extractionsOf jobs)
    : ∃ newest, Newest jobs newest ∧ idOf newest.row = idOf extraction.row := by
  obtain ⟨newest, kept, _⟩ := @le_survivor _ _ _ _ _
    (fun extraction : Extraction server schema => idOf extraction.row)
    (fun extraction => extraction.extractedAt.us) _ _ member
  obtain ⟨among, same⟩ := mem_of_survivor kept
  refine ⟨newest, ⟨among, fun other inside own => ?_⟩, same⟩
  obtain ⟨greatest, keeps, above⟩ := @le_survivor _ _ _ _ _
    (fun extraction : Extraction server schema => idOf extraction.row)
    (fun extraction => extraction.extractedAt.us) _ _ inside
  rw [own, same, kept] at keeps
  cases keeps
  exact above

/-- Two orders that keep the newest extractions give the same table. -/
theorem merged_eq_of_keepsNewest
    (listed : ∃ column ∈ schema.columns, column.name = "_extracted_at")
    {other : List (List (Extraction server schema))} (first : Interleaving jobs order)
    (second : Interleaving jobs other) (firstKeeps : KeepsNewest jobs order)
    (secondKeeps : KeepsNewest jobs other)
    : merged (tableAfter order) = merged (tableAfter other) := by
  funext k
  by_cases some_ : ∃ extraction ∈ extractionsOf jobs, idOf extraction.row = k
  · obtain ⟨extraction, member, rfl⟩ := some_
    obtain ⟨newest, isNewest, same⟩ := exists_newest member
    rw [← same, firstKeeps newest isNewest, secondKeeps newest isNewest]
  · have nothing {inserts : List (List (Extraction server schema))}
        (interleaved : Interleaving jobs inserts)
        : merged (tableAfter inserts) k = none := by
      rw [merged_tableAfter listed]
      cases found : survivor (fun extraction : Extraction server schema => idOf extraction.row)
          (fun extraction => wholeSecond extraction.extractedAt) inserts.flatten k with
      | none => rfl
      | some extraction =>
          obtain ⟨member, same⟩ := mem_of_survivor found
          exact absurd ⟨extraction, (mem_order_iff interleaved).mp member, same⟩ some_
    rw [nothing first, nothing second]

/-- Every order keeps the newest extractions, and all orders give one table, exactly when
every job ends with the newest extraction of an `id` what it inserts of that second.
-/
theorem keeps_newest_iff
    (listed : ∃ column ∈ schema.columns, column.name = "_extracted_at")
    : ((∀ order, Interleaving jobs order → KeepsNewest jobs order)
        ∧ ∀ order other,
            Interleaving jobs order → Interleaving jobs other
            → merged (tableAfter order) = merged (tableAfter other))
      ↔ EndsWithNewest jobs := by
  constructor
  · intro both newest isNewest job member last found
    obtain ⟨before, interleaved⟩ := Interleaving.ends_with member
    have kept := both.1 _ interleaved newest isNewest
    rw [merged_newest listed interleaved isNewest, List.flatten_append, lastOf_append, found]
      at kept
    exact Option.some.inj kept
  · intro ends
    have keeps {order : List (List (Extraction server schema))}
        (interleaved : Interleaving jobs order)
        : KeepsNewest jobs order := by
      intro newest isNewest
      rw [merged_newest listed interleaved isNewest]
      obtain ⟨last, found⟩ := @lastOf_of_mem _ newest.rivals _ _
        ((mem_order_iff interleaved).mpr isNewest.member) (decide_eq_true ⟨rfl, rfl⟩)
      obtain ⟨job, member, own⟩ := interleaved.lastOf_flatten found
      rw [found, Option.map_some, ends newest isNewest job member last own]
    exact ⟨fun order interleaved => keeps interleaved, fun order other first second =>
      merged_eq_of_keepsNewest listed first second (keeps first) (keeps second)⟩

end

namespace Sample

/-- An order extracted at an instant, in one of its states. -/
def order (status : String) (extractedAt : Datetime)
    : Extraction Server.plain RazorpayOrders.getSchema :=
  {
    record := [
      ("id", .json (.str "order_1")),
      ("amount", .json (.float (.finite 10))),
      ("amount_paid", .json (.float (.finite 0))),
      ("amount_due", .json (.float (.finite 10))),
      ("currency", .json (.str "INR")),
      ("receipt", .json .null),
      ("status", .json (.str status)),
      ("created_at", .datetime (.naive 0)),
      ("_extracted_at", .datetime (.aware extractedAt))
    ]
    extractedAt
    row := [
      ("id", .text "order_1"),
      ("amount", .float (.finite 10)),
      ("amount_paid", .float (.finite 0)),
      ("amount_due", .float (.finite 10)),
      ("currency", .text "INR"),
      ("receipt", .null),
      ("status", .text status),
      ("created_at", .dateTime 0),
      ("_extracted_at", .dateTime (wholeSecond extractedAt))
    ]
    stamped := rfl
    stored := rfl
  }

/-- The order as one sync found it. -/
def created : Extraction Server.plain RazorpayOrders.getSchema :=
  order "created" ⟨100000, by decide, by decide⟩

/-- The order as another sync found it within the same second. -/
def paid : Extraction Server.plain RazorpayOrders.getSchema :=
  order "paid" ⟨900000, by decide, by decide⟩

/-- The order as another sync found it a second later. -/
def refunded : Extraction Server.plain RazorpayOrders.getSchema :=
  order "refunded" ⟨1900000, by decide, by decide⟩

/-- The second of two syncs can insert first. -/
theorem swapped (first second : Extraction Server.plain RazorpayOrders.getSchema)
    : Interleaving [[[first]], [[second]]] [[second], [first]] := by
  apply @Interleaving.step _ [[[first]]] [] [second] []
  apply @Interleaving.step _ [] [[]] [first] []
  apply Interleaving.done
  simp

/-- The later of two extractions is the newest. -/
theorem newest_of_two {first second : Extraction Server.plain RazorpayOrders.getSchema}
    (later : first.extractedAt.us ≤ second.extractedAt.us)
    : Newest [[[first]], [[second]]] second := by
  refine ⟨List.mem_cons_of_mem _ List.mem_cons_self, fun other member _ => ?_⟩
  rcases List.mem_cons.mp member with rfl | last
  · exact later
  · rw [List.mem_singleton.mp last]

end Sample

/-- Two syncs extract an order within one second, and the one that saw it first inserts
last: the table keeps the older state.
-/
theorem older_extraction_kept
    : Sample.created.extractedAt.us < Sample.paid.extractedAt.us
      ∧ ¬ (∀ order,
            Interleaving [[[Sample.created]], [[Sample.paid]]] order
            → KeepsNewest [[[Sample.created]], [[Sample.paid]]] order) := by
  refine ⟨by decide, fun keeps => ?_⟩
  have kept := keeps _ (Sample.swapped Sample.created Sample.paid) Sample.paid
    (Sample.newest_of_two (by decide))
  have older
      : merged (tableAfter [[Sample.paid], [Sample.created]]) (idOf Sample.paid.row)
        = some Sample.created.row :=
    rfl
  rw [older] at kept
  exact absurd kept (by decide)

/-- Syncs that extract an order in different seconds can insert in any order. -/
theorem keeps_newest_apart
    : (∀ order,
        Interleaving [[[Sample.created]], [[Sample.refunded]]] order
        → KeepsNewest [[[Sample.created]], [[Sample.refunded]]] order)
      ∧ ∀ order other,
        Interleaving [[[Sample.created]], [[Sample.refunded]]] order
        → Interleaving [[[Sample.created]], [[Sample.refunded]]] other
        → merged (tableAfter order) = merged (tableAfter other) := by
  have stampColumn
      : ∃ column ∈ RazorpayOrders.getSchema.columns, column.name = "_extracted_at" :=
    ⟨⟨"_extracted_at", "datetime", true⟩, by decide, rfl⟩
  apply (@keeps_newest_iff Server.plain RazorpayOrders.getSchema
    [[[Sample.created]], [[Sample.refunded]]] stampColumn).mpr
  intro newest isNewest job inside last found
  have among := isNewest.member
  rcases List.mem_cons.mp among with rfl | second
  · have later := isNewest.greatest Sample.refunded
      (List.mem_cons_of_mem _ List.mem_cons_self) rfl
    exact absurd later (by decide)
  · obtain rfl := List.mem_singleton.mp second
    rcases List.mem_cons.mp inside with rfl | other
    · cases found
    · rw [List.mem_singleton.mp other] at found
      cases found
      rfl

end Turbocat.Connectors.ClickHouse
