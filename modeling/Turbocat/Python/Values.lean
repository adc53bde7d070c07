import Mathlib.Data.Rat.Floor
import Mathlib.Algebra.Order.Round

/-! Python values as the `json` module decodes them, floats as the doubles they are, and
the exceptions the modelled code raises or catches.
-/

namespace Turbocat.Python

/-- `a / b` to the nearest integer, ties to the even one. -/
def roundHalfEven (a : Int) (b : Nat) : Int :=
  let below := a / b
  let rest := 2 * (a % b)
  if rest < b then below
  else if (b : Int) < rest then below + 1
  else if below % 2 = 0 then below
  else below + 1

/-- Rounding stays between the neighbouring integers: it is the floor or one above it. -/
theorem roundHalfEven_cases (a : Int) (b : Nat)
    : roundHalfEven a b = a / b
      ∨ (roundHalfEven a b = a / b + 1 ∧ 0 < a % b) := by
  unfold roundHalfEven
  simp only
  split_ifs with small large
  · exact Or.inl rfl
  · exact Or.inr ⟨rfl, by omega⟩
  · exact Or.inl rfl
  · by_cases positive : 0 < b
    · exact Or.inr ⟨rfl, by omega⟩
    · obtain rfl : b = 0 := by omega
      simp_all

/-- An integer at most `a / b` is at most the rounded quotient. -/
theorem le_roundHalfEven {n a : Int} {b : Nat} (positive : 0 < b) (below : n * b ≤ a)
    : n ≤ roundHalfEven a b := by
  have floor : n ≤ a / b := (Int.le_ediv_iff_mul_le (by omega)).mpr below
  rcases roundHalfEven_cases a b with same | ⟨same, _⟩ <;> omega

/-- An integer at least `a / b` is at least the rounded quotient. -/
theorem roundHalfEven_le {n a : Int} {b : Nat} (positive : 0 < b) (above : a ≤ n * b)
    : roundHalfEven a b ≤ n := by
  have floor : a / b ≤ n := by
    have step := Int.ediv_le_ediv (by omega : (0 : Int) < b) above
    rwa [Int.mul_ediv_cancel _ (by omega)] at step
  rcases roundHalfEven_cases a b with same | ⟨same, rest⟩
  · omega
  · have strict : a / b < n := by
      by_contra least
      have equal : a / b = n := by omega
      have parts := Int.mul_ediv_add_emod a b
      rw [equal, Int.mul_comm] at parts
      omega
    omega

/-- Rounding keeps the order of its numerators. -/
theorem roundHalfEven_mono {a a' : Int} {b : Nat} (positive : 0 < b) (le : a ≤ a')
    : roundHalfEven a b ≤ roundHalfEven a' b := by
  have parts := Int.mul_ediv_add_emod a b
  have parts' := Int.mul_ediv_add_emod a' b
  rcases Int.lt_or_eq_of_le (Int.ediv_le_ediv (by omega : (0 : Int) < b) le) with below | same
  · have floor : a' / b ≤ roundHalfEven a' b :=
      le_roundHalfEven positive (Int.ediv_mul_le _ (by omega))
    rcases roundHalfEven_cases a b with down | ⟨up, _⟩ <;> omega
  · have rest : a % b ≤ a' % b := by
      rw [same] at parts
      omega
    unfold roundHalfEven
    rw [same]
    simp only
    split_ifs <;> omega

/-- A Python float: a double is a rational, an infinity or a NaN. -/
inductive PyFloat where
  | finite (value : Rat)
  | infinity (negative : Bool)
  | nan
  deriving DecidableEq, Repr

/-- The exponent of the leading bit of `|q|`. -/
def leadingExponent (q : Rat) : Int :=
  let guess : Int := (Nat.log2 q.num.natAbs : Int) - Nat.log2 q.den
  if (2 : Rat) ^ guess ≤ |q| then guess else guess - 1

/-- The double nearest to a rational, ties to the even mantissa, overflowing to infinity
as IEEE arithmetic does.
-/
def toDouble (q : Rat) : PyFloat :=
  if q = 0 then .finite 0
  else
    let ulp : Rat := (2 : Rat) ^ (max (leadingExponent q) (-1022) - 52)
    let scaled := q / ulp
    let rounded : Rat := roundHalfEven scaled.num scaled.den * ulp
    if (2 : Rat) ^ (1024 : Nat) ≤ |rounded| then .infinity (decide (q < 0))
    else .finite rounded

-----------------------------------------------------------------------------------------
-- JSON values and dicts
-----------------------------------------------------------------------------------------

/-- A value `json.loads` returns; an object keeps its keys in order. -/
inductive Json where
  | null
  | bool (value : Bool)
  | int (value : Int)
  | float (value : PyFloat)
  | str (value : String)
  | list (items : List Json)
  | dict (entries : List (String × Json))
  deriving Repr

/-- A `dict[str, Any]` whose values came from JSON. -/
abbrev Dict := List (String × Json)

namespace Json

/-- `type(value).__name__`, as it appears in the interpreter's error messages. -/
def typeName : Json → String
  | null => "NoneType"
  | bool _ => "bool"
  | int _ => "int"
  | float _ => "float"
  | str _ => "str"
  | list _ => "list"
  | dict _ => "dict"

/-- `bool(value)`. -/
def truthy : Json → Bool
  | null => false
  | bool value => value
  | int value => value ≠ 0
  | float (.finite value) => value ≠ 0
  | float _ => true
  | str value => value ≠ ""
  | list items => !items.isEmpty
  | dict entries => !entries.isEmpty

/-- `value or other`. -/
def orElse (value other : Json) : Json := if value.truthy then value else other

/-- `dict.get(key)` of a decoded object, with `None` for an absent key. -/
def getOrNone (entries : Dict) (key : String) : Json := (entries.lookup key).getD null

end Json

/-- `{**left, **right}`: the keys of `left` in place, overridden, then the new ones. -/
def mergeDicts (left right : Dict) : Dict :=
  left.map (fun entry => (entry.1, (right.lookup entry.1).getD entry.2))
  ++ right.filter (fun entry => (left.lookup entry.1).isNone)

/-- The exception classes the code tells apart or raises by name. -/
inductive ExceptionType where
  | attributeError
  | keyError
  | typeError
  | valueError
  | overflowError
  | runtimeError
  | validationError
  | integrityError
  | dataError
  | other (name : String)
  deriving DecidableEq, Repr

/-- An exception with the text `str(exc)` gives. -/
structure PyException where
  type : ExceptionType
  message : String
  deriving DecidableEq, Repr

namespace PyException

/-- Reading an attribute the value's type lacks. -/
def noAttribute (value : Json) (name : String) : PyException :=
  ⟨.attributeError, "'" ++ value.typeName ++ "' object has no attribute '" ++ name ++ "'"⟩

/-- `len` of a value without a length. -/
def noLength (value : Json) : PyException :=
  ⟨.typeError, "object of type '" ++ value.typeName ++ "' has no len()"⟩

/-- Subscripting a dict by a key it lacks. -/
def missingKey (key : String) : PyException := ⟨.keyError, "'" ++ key ++ "'"⟩

end PyException

/-- A computation that returned ran both of its parts. -/
theorem bind_eq_ok_iff {ε α β : Type} {first : Except ε α} {next : α → Except ε β} {result : β}
    : first >>= next = .ok result ↔ ∃ value, first = .ok value ∧ next value = .ok result := by
  cases first with
  | error _ => exact ⟨fun failed => (nomatch failed), fun ⟨_, absent, _⟩ => (nomatch absent)⟩
  | ok value =>
      constructor
      · exact fun ran => ⟨value, rfl, ran⟩
      · intro both
        obtain ⟨_, same, ran⟩ := both
        cases same
        exact ran

/-- A loop that returned has a result for each element, in order, by induction over the
list.
-/
theorem mapM_eq_ok_iff {ε α β : Type} {f : α → Except ε β} {elements : List α}
    {results : List β}
    : elements.mapM f = .ok results
      ↔ List.Forall₂ (fun element result => f element = .ok result) elements results := by
  induction elements generalizing results with
  | nil =>
      rw [List.mapM_nil, List.forall₂_nil_left_iff]
      constructor
      · intro same
        cases same
        rfl
      · intro same
        rw [same]
        rfl
  | cons first rest ih =>
      rw [List.mapM_cons, bind_eq_ok_iff]
      constructor
      · intro ran
        obtain ⟨result, done, later⟩ := ran
        obtain ⟨results, all, same⟩ := bind_eq_ok_iff.mp later
        cases same
        exact List.Forall₂.cons done (ih.mp all)
      · intro each
        cases each with
        | cons done later => exact ⟨_, done, bind_eq_ok_iff.mpr ⟨_, ih.mpr later, rfl⟩⟩

/-- Every result of a loop is that of an element. -/
theorem mem_of_mapM {ε α β : Type} {f : α → Except ε β} {elements : List α}
    {results : List β} (ran : elements.mapM f = .ok results) {result : β}
    (member : result ∈ results)
    : ∃ element ∈ elements, f element = .ok result := by
  induction mapM_eq_ok_iff.mp ran with
  | nil => cases member
  | @cons element first elements results done later ih =>
      rcases List.mem_cons.mp member with rfl | among
      · exact ⟨element, List.mem_cons_self, done⟩
      · obtain ⟨other, from_, made⟩ := ih (mapM_eq_ok_iff.mpr later) among
        exact ⟨other, List.mem_cons_of_mem _ from_, made⟩

/-- Every element of a loop that returned has a result. -/
theorem mapM_of_mem {ε α β : Type} {f : α → Except ε β} {elements : List α}
    {results : List β} (ran : elements.mapM f = .ok results) {element : α}
    (member : element ∈ elements)
    : ∃ result ∈ results, f element = .ok result := by
  induction mapM_eq_ok_iff.mp ran with
  | nil => cases member
  | @cons first result elements results done later ih =>
      rcases List.mem_cons.mp member with rfl | among
      · exact ⟨result, List.mem_cons_self, done⟩
      · obtain ⟨other, from_, made⟩ := ih (mapM_eq_ok_iff.mpr later) among
        exact ⟨other, List.mem_cons_of_mem _ from_, made⟩

/-- A loop raises what it raised at an element, by induction over the list. -/
theorem mem_of_mapM_error {ε α β : Type} {f : α → Except ε β} {elements : List α} {raised : ε}
    (ran : elements.mapM f = .error raised)
    : ∃ element ∈ elements, f element = .error raised := by
  induction elements with
  | nil => cases ran
  | cons first rest ih =>
      rw [List.mapM_cons] at ran
      cases done : f first with
      | error exception =>
          rw [done] at ran
          cases ran
          exact ⟨first, List.mem_cons_self, done⟩
      | ok result =>
          rw [done] at ran
          cases later : rest.mapM f with
          | error exception =>
              rw [later] at ran
              cases ran
              obtain ⟨element, member, failed⟩ := ih later
              exact ⟨element, List.mem_cons_of_mem _ member, failed⟩
          | ok results =>
              rw [later] at ran
              cases ran

/-- A loop in two parts returns exactly when a loop over each part does. -/
theorem mapM_bind_iff {ε α β γ : Type} {f : α → Except ε β} {g : β → Except ε γ}
    {elements : List α} {results : List γ}
    : elements.mapM (fun element => f element >>= g) = .ok results
      ↔ ∃ middle, elements.mapM f = .ok middle ∧ middle.mapM g = .ok results := by
  simp only [mapM_eq_ok_iff]
  constructor
  · intro each
    induction each with
    | nil => exact ⟨[], List.Forall₂.nil, List.Forall₂.nil⟩
    | cons done later ih =>
        obtain ⟨value, first, second⟩ := bind_eq_ok_iff.mp done
        obtain ⟨values, firsts, seconds⟩ := ih
        exact ⟨value :: values, List.Forall₂.cons first firsts, List.Forall₂.cons second seconds⟩
  · intro both
    obtain ⟨middle, firsts, seconds⟩ := both
    induction firsts generalizing results with
    | nil =>
        cases seconds
        exact List.Forall₂.nil
    | cons done later ih =>
        cases seconds with
        | cons made rest =>
            exact List.Forall₂.cons (bind_eq_ok_iff.mpr ⟨_, done, made⟩) (ih rest)

namespace Json

/-- `value.get(key)` on a value of unknown type. -/
def get (value : Json) (key : String) : Except PyException Json :=
  match value with
  | dict entries => .ok (getOrNone entries key)
  | other => .error (.noAttribute other "get")

/-- `value[key]` for a string key. -/
def getItem (value : Json) (key : String) : Except PyException Json :=
  match value with
  | dict entries =>
      match entries.lookup key with
      | some found => .ok found
      | none => .error (.missingKey key)
  | str _ =>
      .error ⟨.typeError, "string indices must be integers, not 'str'"⟩
  | list _ =>
      .error ⟨.typeError, "list indices must be integers or slices, not str"⟩
  | other => .error ⟨.typeError, "'" ++ other.typeName ++ "' object is not subscriptable"⟩

/-- The value of a number, as `==` compares it; `True` is 1. -/
def number? : Json → Option PyFloat
  | bool value => some (.finite (if value then 1 else 0))
  | int value => some (.finite value)
  | float value => some value
  | _ => none

/-- `left == right` of numbers; no value equals NaN. -/
def equalsNumber (left right : Json) : Bool :=
  match left.number?, right.number? with
  | some value, some other => decide (value = other ∧ value ≠ .nan)
  | _, _ => false

mutual

/-- `left == right`. -/
def equals : Json → Json → Bool
  | null, null => true
  | str left, str right => decide (left = right)
  | list left, list right => equalsEach left right
  | dict left, dict right => decide (left.length = right.length) && equalsWithin left right
  | left, right => equalsNumber left right

def equalsEach : List Json → List Json → Bool
  | [], [] => true
  | left :: lefts, right :: rights => equals left right && equalsEach lefts rights
  | _, _ => false

/-- Whether each entry of the first dict is in the second. -/
def equalsWithin : List (String × Json) → List (String × Json) → Bool
  | [], _ => true
  | (key, value) :: rest, entries =>
      (match entries.lookup key with
        | some other => equals value other
        | none => false)
      && equalsWithin rest entries

end

/-- What `len(value)` counts and `for item in value` visits: the items of a list, the keys
of an object, the characters of a string. Other values have no length.
-/
def elements : Json → Except PyException (List Json)
  | list items => .ok items
  | dict entries => .ok (entries.map (fun entry => str entry.1))
  | str text => .ok (text.toList.map (fun character => str (String.singleton character)))
  | other => .error (.noLength other)

end Json

end Turbocat.Python
