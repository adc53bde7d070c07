import Mathlib.Data.List.Perm.Basic

/-! Interleavings of streams: at each turn some stream gives its first element. -/

namespace Turbocat.Library

variable {α β : Type*}

/-- An order in which the elements of some streams can come. -/
inductive Interleaving : List (List α) → List α → Prop where
  | done {streams : List (List α)} (finished : ∀ stream ∈ streams, stream = [])
    : Interleaving streams []
  | step {before after : List (List α)} {first : α} {rest order : List α}
    (later : Interleaving (before ++ rest :: after) order)
    : Interleaving (before ++ (first :: rest) :: after) (first :: order)

namespace Interleaving

/-- The elements that come are those of the streams. -/
theorem mem_iff {streams : List (List α)} {order : List α} (interleaved : Interleaving streams order)
    {element : α}
    : element ∈ order ↔ element ∈ streams.flatten := by
  induction interleaved with
  | done finished =>
      constructor
      · intro member
        cases member
      · intro member
        obtain ⟨stream, among, inside⟩ := List.mem_flatten.mp member
        rw [finished stream among] at inside
        cases inside
  | step later ih =>
      simp only [List.flatten_append, List.flatten_cons, List.mem_append, List.mem_cons] at ih ⊢
      rw [ih]
      tauto

/-- The order of the streams among each other does not matter. -/
theorem of_perm {streams : List (List α)} {order : List α}
    (interleaved : Interleaving streams order) {others : List (List α)}
    (same : streams.Perm others)
    : Interleaving others order := by
  induction interleaved generalizing others with
  | done finished => exact done fun stream member => finished stream (same.mem_iff.mpr member)
  | @step before after first rest order later ih =>
      have among : (first :: rest) ∈ others :=
        same.mem_iff.mp (List.mem_append_right _ List.mem_cons_self)
      obtain ⟨front, back, rfl⟩ := List.append_of_mem among
      have others : (before ++ after).Perm (front ++ back) :=
        (List.perm_cons (first :: rest)).mp
          (List.perm_middle.symm.trans (same.trans List.perm_middle))
      apply step
      apply ih
      exact List.perm_middle.trans ((others.cons rest).trans List.perm_middle.symm)

/-- An empty stream takes no turn. -/
theorem cons_nil {streams : List (List α)} {order : List α}
    (interleaved : Interleaving streams order)
    : Interleaving ([] :: streams) order := by
  induction interleaved with
  | done finished =>
      apply done
      intro stream member
      rcases List.mem_cons.mp member with rfl | among
      · rfl
      · exact finished stream among
  | @step before after first rest order later ih =>
      exact @step _ ([] :: before) after first rest order ih

/-- The streams can come one after another. -/
theorem flatten (streams : List (List α)) : Interleaving streams streams.flatten := by
  induction streams with
  | nil => exact done fun _ member => absurd member List.not_mem_nil
  | cons stream rest ih =>
      induction stream with
      | nil => exact ih.cons_nil
      | cons first others later => exact @step _ [] rest first others _ later

/-- Any stream can come last. -/
theorem ends_with {streams : List (List α)} {stream : List α} (member : stream ∈ streams)
    : ∃ before, Interleaving streams (before ++ stream) := by
  obtain ⟨front, back, rfl⟩ := List.append_of_mem member
  have last := flatten ((front ++ back) ++ [stream])
  rw [List.flatten_append, List.flatten_singleton] at last
  refine ⟨(front ++ back).flatten, last.of_perm ?_⟩
  exact (List.perm_append_singleton stream (front ++ back)).trans List.perm_middle.symm

end Interleaving

/-- The last element that passes a test. -/
def lastOf (p : α → Bool) (elements : List α) : Option α := (elements.filter p).getLast?

theorem lastOf_append (p : α → Bool) (front back : List α)
    : lastOf p (front ++ back) = (lastOf p back).or (lastOf p front) := by
  rw [lastOf, List.filter_append, List.getLast?_append]
  rfl

theorem mem_of_lastOf {p : α → Bool} {elements : List α} {element : α}
    (last : lastOf p elements = some element)
    : element ∈ elements ∧ p element = true :=
  List.mem_filter.mp (List.mem_of_getLast? last)

/-- A list with an element that passes has a last one. -/
theorem lastOf_of_mem {p : α → Bool} {elements : List α} {element : α}
    (member : element ∈ elements) (passes : p element = true)
    : ∃ last, lastOf p elements = some last :=
  Option.isSome_iff_exists.mp
    (List.getLast?_isSome.mpr (List.ne_nil_of_mem (List.mem_filter.mpr ⟨member, passes⟩)))

theorem lastOf_eq_none_iff {p : α → Bool} {elements : List α}
    : lastOf p elements = none ↔ ∀ element ∈ elements, p element = false := by
  simp only [lastOf, List.getLast?_eq_none_iff, List.filter_eq_nil_iff, Bool.not_eq_true]

/-- The last passing element of batches that come interleaved is the last of one of the
streams, by induction over the turns.
-/
theorem Interleaving.lastOf_flatten {p : β → Bool} {streams : List (List (List β))}
    {order : List (List β)} (interleaved : Interleaving streams order) {element : β}
    (last : lastOf p order.flatten = some element)
    : ∃ stream ∈ streams, lastOf p stream.flatten = some element := by
  induction interleaved with
  | done finished => cases last
  | @step before after first rest order later ih =>
      rw [List.flatten_cons, lastOf_append] at last
      cases behind : lastOf p order.flatten with
      | some other =>
          rw [behind] at last
          cases last
          obtain ⟨stream, member, found⟩ := ih behind
          rcases List.mem_append.mp member with earlier | inside
          · exact ⟨stream, List.mem_append_left _ earlier, found⟩
          · rcases List.mem_cons.mp inside with rfl | later
            · refine ⟨first :: stream, List.mem_append_right _ List.mem_cons_self, ?_⟩
              rw [List.flatten_cons, lastOf_append, found]
              rfl
            · exact ⟨stream, List.mem_append_right _ (List.mem_cons_of_mem _ later), found⟩
      | none =>
          rw [behind] at last
          refine ⟨first :: rest, List.mem_append_right _ List.mem_cons_self, ?_⟩
          have nothing : lastOf p rest.flatten = none := by
            refine lastOf_eq_none_iff.mpr fun element among => ?_
            obtain ⟨batch, inside, member⟩ := List.mem_flatten.mp among
            have comes : batch ∈ order := later.mem_iff.mpr (List.mem_flatten.mpr
              ⟨rest, List.mem_append_right _ List.mem_cons_self, inside⟩)
            exact lastOf_eq_none_iff.mp behind element
              (List.mem_flatten.mpr ⟨batch, comes, member⟩)
          rw [List.flatten_cons, lastOf_append, nothing]
          exact last

end Turbocat.Library
