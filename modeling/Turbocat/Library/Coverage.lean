import Mathlib.Order.Defs.LinearOrder
import Mathlib.Data.Set.Basic

/-! Coverage of a linear order by spans that are worked through one after another, each
started at or below a point up to which everything had been covered.
-/

namespace Turbocat.Library

/-- A closed span; a missing bound leaves its side open. -/
structure Span (τ : Type*) where
  start : Option τ
  stop : Option τ

variable {τ : Type*} [LinearOrder τ]

def Span.Contains (span : Span τ) (point : τ) : Prop :=
  (∀ bound ∈ span.start, bound ≤ point) ∧ ∀ bound ∈ span.stop, point ≤ bound

/-- A point lies in one of the spans. -/
def Covered (spans : Set (Span τ)) (point : τ) : Prop :=
  ∃ span ∈ spans, span.Contains point

/-- Every point up to `bound` is covered. -/
def CoveredUpTo (spans : Set (Span τ)) (bound : τ) : Prop :=
  ∀ point ≤ bound, Covered spans point

/-- There is no gap below a span. -/
def Span.Follows (span : Span τ) (spans : Set (Span τ)) : Prop :=
  ∀ bound ∈ span.start, ∀ point < bound, Covered spans point

theorem Covered.mono {spans more : Set (Span τ)} {point : τ} (subset : spans ⊆ more)
    (covered : Covered spans point)
    : Covered more point := by
  obtain ⟨span, member, contains⟩ := covered
  exact ⟨span, subset member, contains⟩

theorem CoveredUpTo.mono {spans more : Set (Span τ)} {bound : τ} (subset : spans ⊆ more)
    (covered : CoveredUpTo spans bound)
    : CoveredUpTo more bound :=
  fun point below => (covered point below).mono subset

theorem Span.Follows.mono {span : Span τ} {spans more : Set (Span τ)} (subset : spans ⊆ more)
    (follows : span.Follows spans)
    : span.Follows more :=
  fun bound start point below => (follows bound start point below).mono subset

/-- A span that starts at or below a covered bound leaves no gap. -/
theorem CoveredUpTo.follows {spans : Set (Span τ)} {span : Span τ} {bound : τ}
    (covered : CoveredUpTo spans bound)
    (starts : ∀ start ∈ span.start, ∀ point < start, point ≤ bound)
    : span.Follows spans :=
  fun start among point below => covered point (starts start among point below)

/-- Once a span without a gap below it is done, everything up to its stop is covered. -/
theorem Span.Follows.covered {spans : Set (Span τ)} {span : Span τ} {bound : τ}
    (follows : span.Follows spans) (member : span ∈ spans)
    (stops : ∀ stop ∈ span.stop, bound ≤ stop)
    : CoveredUpTo spans bound := by
  intro point below
  by_cases inside : ∀ start ∈ span.start, start ≤ point
  · exact ⟨span, member, inside, fun stop among => le_trans below (stops stop among)⟩
  · simp only [not_forall, not_le] at inside
    obtain ⟨start, among, outside⟩ := inside
    exact follows start among point outside

end Turbocat.Library
