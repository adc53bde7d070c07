import Turbocat.Connectors.MissingFields

/-! The `created_at` of an order or a customer on hosts in different time zones. -/

namespace Turbocat.Connectors.LocalTimestamps

open Turbocat.Python

/-- A host in another time zone: the offset from UTC at each UNIX second. -/
def inZone (host : Host) (zone : Int → Int) : Host := { host with utcoffset := zone }

/-- The microseconds of a UNIX timestamp, as `fromtimestamp` rounds it. -/
def timestampUs : Json → Option Int
  | .int seconds => some (seconds * second)
  | .float (.finite seconds) =>
      some (roundHalfEven (seconds * second).num (seconds * second).den)
  | _ => none

/-- An order or a customer with a UNIX timestamp, whose other fields can be transformed. -/
def Timestamped (cls : ConnectorClass) (host : Host) (entries : Dict) (us : Int) : Prop :=
  (match cls with
    | .razorpayOrders =>
        (∀ key ∈ ["id", "currency", "status"], ∃ value, entries.lookup key = some value)
        ∧ ∀ key ∈ ["amount", "amount_paid", "amount_due"],
            ∃ amount, RazorpayOrders.noneToZero host (Json.getOrNone entries key) = .ok amount
    | .razorpayCustomers =>
        ∀ key ∈ ["id", "contact"], ∃ value, entries.lookup key = some value
    | .kaptureTickets => False)
  ∧ ∃ value, entries.lookup "created_at" = some value ∧ timestampUs value = some us

/-- A time that a datetime can denote. -/
def Representable (us : Int) : Prop := minDay * day ≤ us ∧ us < (maxDay + 1) * day

instance (us : Int) : Decidable (Representable us) := inferInstanceAs (Decidable (_ ∧ _))

/-- The microseconds a datetime shows, of which an aware one shows those of UTC. -/
def shown : PyDatetime → Int
  | .naive wall => wall
  | .aware instant => instant.us

/-- A record whose `created_at` is the instant of a timestamp on the time base of its
`_extracted_at`: as far before that as the timestamp is before the reading of the clock.
-/
structure Denotes (now : Datetime) (us : Int) (record : Record) (moment : PyDatetime) : Prop where
  created : record.lookup "created_at" = some (.datetime moment)
  base
    : ∃ extracted,
        record.lookup "_extracted_at" = some (.datetime extracted)
        ∧ shown extracted - shown moment = now.us - us

section

variable {cls : ConnectorClass} {host : Host} {now : Datetime} {zone : Int → Int}
  {entries : Dict} {us : Int} {moment : PyDatetime}

theorem fromtimestamp_timestamp {value : Json} (timestamp : timestampUs value = some us)
    : fromtimestamp host value = localDatetime host us := by
  unfold timestampUs at timestamp
  split at timestamp
  · cases timestamp
    rfl
  · cases timestamp
    rfl
  · cases timestamp

/-- A timestamp becomes what the clocks of the zone show, where they can. -/
theorem localDatetime_ok_iff
    : localDatetime (inZone host zone) us = .ok moment
      ↔ (us / second).natAbs < 2 ^ 63
        ∧ Representable (us + zone (us / second) * second)
        ∧ moment = .naive (us + zone (us / second) * second) := by
  unfold localDatetime
  dsimp only [inZone]
  split
  · next large =>
      simp only [reduceCtorEq, false_iff, not_and]
      exact fun small => absurd small (Nat.not_lt.mpr large)
  · next small =>
      split
      · next inside =>
          simp only [Except.ok.injEq]
          exact ⟨fun same => ⟨Nat.not_le.mp small, inside, same.symm⟩,
            fun both => both.2.2.symm⟩
      · next outside =>
          simp only [reduceCtorEq, false_iff, not_and]
          exact fun _ inside => absurd inside outside

/-- What the transform makes of an order's timestamp. -/
theorem order_created_iff
    (timestamped : Timestamped .razorpayOrders host entries us)
    : (∃ record, RazorpayOrders.transform (inZone host zone) now (.dict entries) = .ok record
        ∧ record.lookup "created_at" = some (.datetime moment)
        ∧ record.lookup "_extracted_at" = some (.datetime (.aware now)))
      ↔ localDatetime (inZone host zone) us = .ok moment := by
  obtain ⟨⟨present, amounts⟩, value, hasCreated, timestamp⟩ := timestamped
  rw [← fromtimestamp_timestamp timestamp]
  constructor
  · intro ⟨record, transformed, created, _⟩
    obtain ⟨_, _, _, _, _, _, other, createdAt, _, _, _, _, _, _, again, isCreated, rfl⟩ :=
      RazorpayOrders.transform_ok_iff.mp transformed
    cases hasCreated.symm.trans again
    cases created
    exact isCreated
  · intro isCreated
    simp only [List.forall_mem_cons] at present amounts
    obtain ⟨⟨id, hasId⟩, ⟨currency, hasCurrency⟩, ⟨status, hasStatus⟩, _⟩ := present
    obtain ⟨⟨amount, isAmount⟩, ⟨amountPaid, isPaid⟩, ⟨amountDue, isDue⟩, _⟩ := amounts
    exact ⟨_, RazorpayOrders.transform_ok_iff.mpr ⟨id, amount, amountPaid, amountDue, currency,
      status, value, moment, hasId, isAmount, isPaid, isDue, hasCurrency, hasStatus, hasCreated,
      isCreated, rfl⟩, rfl, rfl⟩

/-- What the transform makes of a customer's timestamp. -/
theorem customer_created_iff
    (timestamped : Timestamped .razorpayCustomers host entries us)
    : (∃ record, RazorpayCustomers.transform (inZone host zone) now (.dict entries) = .ok record
        ∧ record.lookup "created_at" = some (.datetime moment)
        ∧ record.lookup "_extracted_at" = some (.datetime (.aware now)))
      ↔ localDatetime (inZone host zone) us = .ok moment := by
  obtain ⟨present, value, hasCreated, timestamp⟩ := timestamped
  rw [← fromtimestamp_timestamp timestamp]
  constructor
  · intro ⟨record, transformed, created, _⟩
    obtain ⟨_, _, other, createdAt, _, _, again, isCreated, rfl⟩ :=
      RazorpayCustomers.transform_ok_iff.mp transformed
    cases hasCreated.symm.trans again
    cases created
    exact isCreated
  · intro isCreated
    simp only [List.forall_mem_cons] at present
    obtain ⟨⟨id, hasId⟩, ⟨contact, hasContact⟩, _⟩ := present
    exact ⟨_, RazorpayCustomers.transform_ok_iff.mpr ⟨id, contact, value, moment, hasId,
      hasContact, hasCreated, isCreated, rfl⟩, rfl, rfl⟩

/-- What a transform makes of the timestamp, by cases of the class. -/
theorem transform_created_iff (timestamped : Timestamped cls host entries us)
    : (∃ record, cls.transform (inZone host zone) now (.dict entries) = .ok record
        ∧ record.lookup "created_at" = some (.datetime moment)
        ∧ record.lookup "_extracted_at" = some (.datetime (.aware now)))
      ↔ localDatetime (inZone host zone) us = .ok moment := by
  cases cls with
  | razorpayOrders => exact order_created_iff timestamped
  | razorpayCustomers => exact customer_created_iff timestamped
  | kaptureTickets => exact timestamped.1.elim

/-- Every record has its clock reading as `_extracted_at`, by cases of the class. -/
theorem transform_extracted (timestamped : Timestamped cls host entries us) {record : Record}
    (transformed : cls.transform (inZone host zone) now (.dict entries) = .ok record)
    : record.lookup "_extracted_at" = some (.datetime (.aware now)) := by
  cases cls with
  | razorpayOrders =>
      obtain ⟨_, _, _, _, _, _, _, _, _, _, _, _, _, _, _, _, rfl⟩ :=
        RazorpayOrders.transform_ok_iff.mp transformed
      rfl
  | razorpayCustomers =>
      obtain ⟨_, _, _, _, _, _, _, _, rfl⟩ := RazorpayCustomers.transform_ok_iff.mp transformed
      rfl
  | kaptureTickets => exact timestamped.1.elim

/-- A record that denotes its timestamp is what a zone makes of it, and shows it. -/
theorem denotes_iff (timestamped : Timestamped cls host entries us)
    : (∃ record, cls.transform (inZone host zone) now (.dict entries) = .ok record
        ∧ Denotes now us record moment)
      ↔ localDatetime (inZone host zone) us = .ok moment ∧ shown moment = us := by
  constructor
  · intro ⟨record, transformed, created, extracted, hasExtracted, base⟩
    have stamp := transform_extracted timestamped transformed
    refine ⟨(transform_created_iff timestamped).mp ⟨record, transformed, created, stamp⟩, ?_⟩
    rw [stamp] at hasExtracted
    cases hasExtracted
    simp only [shown] at base ⊢
    omega
  · intro ⟨isCreated, same⟩
    obtain ⟨record, transformed, created, stamp⟩ :=
      (@transform_created_iff _ _ now _ _ _ _ timestamped).mpr isCreated
    refine ⟨record, transformed, created, _, stamp, ?_⟩
    rw [same]
    rfl

/-- A representable time is no overflow of the platform's clock. -/
theorem Representable.small (representable : Representable us)
    : (us / second).natAbs < 2 ^ 63 := by
  obtain ⟨lower, upper⟩ := representable
  simp only [minDay, maxDay, day, second] at lower upper ⊢
  omega

/-- A zone shows a timestamp as its instant exactly where it is at UTC. -/
theorem zone_denotes_iff
    : localDatetime (inZone host zone) us = .ok moment ∧ shown moment = us
      ↔ Representable us ∧ zone (us / second) = 0 ∧ moment = .naive us := by
  rw [localDatetime_ok_iff]
  constructor
  · intro shows
    obtain ⟨⟨_, representable, wall⟩, same⟩ := shows
    rw [wall] at same
    have utc : zone (us / second) = 0 := by
      simp only [shown, second] at same ⊢
      omega
    rw [utc, Int.zero_mul, Int.add_zero] at representable wall
    exact ⟨representable, utc, wall⟩
  · intro atUtc
    obtain ⟨representable, utc, wall⟩ := atUtc
    rw [utc, Int.zero_mul, Int.add_zero]
    exact ⟨⟨representable.small, representable, wall⟩, wall ▸ rfl⟩

/-- On hosts in two zones a transform gives one `created_at`, which denotes the instant of the
timestamp in either record.
-/
def SameInstant (cls : ConnectorClass) (host : Host) (entries : Dict) (us : Int)
    (zone other : Int → Int) (now later : Datetime)
    : Prop :=
  ∃ moment,
    (∃ record, cls.transform (inZone host zone) now (.dict entries) = .ok record
      ∧ Denotes now us record moment)
    ∧ ∃ record, cls.transform (inZone host other) later (.dict entries) = .ok record
      ∧ Denotes later us record moment

/-- The `created_at` that a transform gives on a host in a zone. -/
def CreatedAt (cls : ConnectorClass) (host : Host) (entries : Dict) (zone : Int → Int)
    (now : Datetime) (moment : PyDatetime)
    : Prop :=
  ∃ record, cls.transform (inZone host zone) now (.dict entries) = .ok record
    ∧ record.lookup "created_at" = some (.datetime moment)

theorem createdAt_iff (timestamped : Timestamped cls host entries us)
    : CreatedAt cls host entries zone now moment
      ↔ localDatetime (inZone host zone) us = .ok moment := by
  rw [← @transform_created_iff _ _ now _ _ _ _ timestamped]
  constructor
  · intro ⟨record, transformed, created⟩
    exact ⟨record, transformed, created, transform_extracted timestamped transformed⟩
  · intro ⟨record, transformed, created, _⟩
    exact ⟨record, transformed, created⟩

/-- What a transform gives is what the clocks of the zone show. -/
theorem CreatedAt.wall (timestamped : Timestamped cls host entries us)
    (created : CreatedAt cls host entries zone now moment)
    : moment = .naive (us + zone (us / second) * second) :=
  (localDatetime_ok_iff.mp ((createdAt_iff timestamped).mp created)).2.2

/-- The `created_at` of an order or customer is the same in two zones, and the instant of its
timestamp, exactly when a datetime can denote that and both zones are at UTC then. Those of two
items in one zone are equal exactly when its clocks show the same at both.
-/
theorem created_at_zones_iff {otherEntries : Dict} {otherUs : Int} {other : Int → Int}
    {later : Datetime} (timestamped : Timestamped cls host entries us)
    (otherTimestamped : Timestamped cls host otherEntries otherUs)
    : (SameInstant cls host entries us zone other now later
        ↔ Representable us ∧ zone (us / second) = 0 ∧ other (us / second) = 0)
      ∧ ∀ left right,
          CreatedAt cls host entries zone now left
          → CreatedAt cls host otherEntries zone later right
          → (left = right
            ↔ us + zone (us / second) * second
              = otherUs + zone (otherUs / second) * second) := by
  constructor
  · unfold SameInstant
    simp only [denotes_iff timestamped, zone_denotes_iff]
    constructor
    · intro ⟨_, ⟨representable, utc, _⟩, _, otherUtc, _⟩
      exact ⟨representable, utc, otherUtc⟩
    · intro ⟨representable, utc, otherUtc⟩
      exact ⟨_, ⟨representable, utc, rfl⟩, representable, otherUtc, rfl⟩
  · intro left right first again
    rw [first.wall timestamped, again.wall otherTimestamped, PyDatetime.naive.injEq]

end

namespace Sample

/-- A customer with a timestamp. -/
def customer (seconds : Int) : Dict :=
  [("id", .str "cust_1"), ("contact", .str "+911234567890"), ("created_at", .int seconds)]

theorem timestamped (seconds : Int)
    : Timestamped .razorpayCustomers Host.utc (customer seconds) (seconds * second) := by
  refine ⟨?_, .int seconds, rfl, rfl⟩
  simp [customer, List.lookup_cons]

def utc : Int → Int := fun _ => 0

/-- Central Europe in 2023: summer time ends at 01:00 UTC on 29 October. -/
def centralEurope : Int → Int := fun seconds => if seconds < 1698541200 then 7200 else 3600

end Sample

/-- A customer of one instant has two values of `created_at` in two zones; and in one zone two
customers, of both sides of the end of summer time, have the same.
-/
theorem summer_time_ends
    : (¬ SameInstant .razorpayCustomers Host.utc (Sample.customer 1698539400)
          (1698539400 * second) Sample.utc Sample.centralEurope default default)
      ∧ CreatedAt .razorpayCustomers Host.utc (Sample.customer 1698539400)
          Sample.utc default (.naive (1698539400 * second))
      ∧ CreatedAt .razorpayCustomers Host.utc (Sample.customer 1698539400)
          Sample.centralEurope default (.naive (1698546600 * second))
      ∧ CreatedAt .razorpayCustomers Host.utc (Sample.customer 1698543000)
          Sample.centralEurope default (.naive (1698546600 * second)) := by
  have created (seconds : Int) (zone : Int → Int) (wall : Int)
      (small : (seconds * second / second).natAbs < 2 ^ 63)
      (shows : seconds * second + zone (seconds * second / second) * second = wall)
      (representable : Representable wall)
      : CreatedAt .razorpayCustomers Host.utc (Sample.customer seconds) zone default
          (.naive wall) := by
    subst shows
    exact (createdAt_iff (Sample.timestamped seconds)).mpr
      (localDatetime_ok_iff.mpr ⟨small, representable, rfl⟩)
  refine ⟨fun same => ?_, created _ _ _ (by decide) (by decide) (by decide),
    created _ _ _ (by decide) (by decide) (by decide),
    created _ _ _ (by decide) (by decide) (by decide)⟩
  obtain ⟨moment, ⟨record, transformed, inUtc⟩, again, retransformed, inEurope⟩ := same
  have utcWall := CreatedAt.wall (Sample.timestamped _) ⟨record, transformed, inUtc.created⟩
  have europeWall :=
    CreatedAt.wall (Sample.timestamped _) ⟨again, retransformed, inEurope.created⟩
  exact absurd (utcWall.symm.trans europeWall) (by decide)

/-- In UTC a customer has one `created_at`, and one a second later another. -/
theorem utc_created_at
    : SameInstant .razorpayCustomers Host.utc (Sample.customer 1698539400)
          (1698539400 * second) Sample.utc Sample.utc default default
      ∧ ∀ left right,
          CreatedAt .razorpayCustomers Host.utc (Sample.customer 1698539400) Sample.utc default
            left
          → CreatedAt .razorpayCustomers Host.utc (Sample.customer 1698539401) Sample.utc
            default right
          → left ≠ right := by
  have both := @created_at_zones_iff .razorpayCustomers Host.utc default Sample.utc
    (Sample.customer 1698539400) _ (Sample.customer 1698539401) _ Sample.utc default
    (Sample.timestamped 1698539400) (Sample.timestamped 1698539401)
  refine ⟨both.1.mpr ⟨by decide, rfl, rfl⟩, fun left right first later same => ?_⟩
  exact absurd ((both.2 left right first later).mp same) (by decide)

end Turbocat.Connectors.LocalTimestamps
