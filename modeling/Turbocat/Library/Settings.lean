import Mathlib.Data.List.Nodup

/-! Records whose fields are given by layers, each before the next, and validated one by one:
a load gives all values, or all errors. When its outcome does not depend on the lower layers.
-/

namespace Turbocat.Library

/-- A field: how a value given for it is validated, and what it is when none is given. -/
structure SettingsField (κ τ ν ε : Type*) where
  name : κ
  validate : τ → Except ε ν
  absent : Except ε ν

variable {ι κ τ ν ε : Type*}

/-- What a field comes to. -/
def SettingsField.take (field : SettingsField κ τ ν ε) (given : κ → Option τ) : Except ε ν :=
  match given field.name with
  | some value => field.validate value
  | none => field.absent

/-- The errors of the fields, in their order. -/
def settingsErrors (given : κ → Option τ) (fields : List (SettingsField κ τ ν ε))
    : List (κ × ε) :=
  fields.filterMap (fun field =>
    match field.take given with
    | .error error => some (field.name, error)
    | .ok _ => none)

/-- The values of the fields that have no error, in their order. -/
def settingsValues (given : κ → Option τ) (fields : List (SettingsField κ τ ν ε))
    : List (κ × ν) :=
  fields.filterMap (fun field =>
    match field.take given with
    | .error _ => none
    | .ok value => some (field.name, value))

/-- All values, or all errors. -/
def loadSettings (given : κ → Option τ) (fields : List (SettingsField κ τ ν ε))
    : Except (List (κ × ε)) (List (κ × ν)) :=
  match settingsErrors given fields with
  | [] => .ok (settingsValues given fields)
  | error :: errors => .error (error :: errors)

/-- What is given by one layer, and by the next where that has nothing. -/
def layered (first second : κ → Option τ) (name : κ) : Option τ :=
  (first name).or (second name)

section

variable {given other : κ → Option τ} {fields : List (SettingsField κ τ ν ε)}

theorem mem_settingsErrors {name : κ} {error : ε}
    : (name, error) ∈ settingsErrors given fields
      ↔ ∃ field ∈ fields, field.name = name ∧ field.take given = .error error := by
  unfold settingsErrors
  rw [List.mem_filterMap]
  refine exists_congr (fun field => and_congr_right (fun _ => ?_))
  cases field.take given with
  | error raised => simp
  | ok value => simp

theorem mem_settingsValues {name : κ} {value : ν}
    : (name, value) ∈ settingsValues given fields
      ↔ ∃ field ∈ fields, field.name = name ∧ field.take given = .ok value := by
  unfold settingsValues
  rw [List.mem_filterMap]
  refine exists_congr (fun field => and_congr_right (fun _ => ?_))
  cases field.take given with
  | error raised => simp
  | ok taken => simp

/-- Fields with different names can be told apart by their names. -/
theorem eq_of_settings_name {left right : SettingsField κ τ ν ε}
    (distinct : (fields.map SettingsField.name).Nodup) (first : left ∈ fields)
    (second : right ∈ fields) (same : left.name = right.name)
    : left = right :=
  List.inj_on_of_nodup_map distinct first second same

/-- A field has an error exactly when it is among the errors. -/
theorem take_error_iff {field : SettingsField κ τ ν ε} {error : ε}
    (distinct : (fields.map SettingsField.name).Nodup) (member : field ∈ fields)
    : field.take given = .error error ↔ (field.name, error) ∈ settingsErrors given fields := by
  rw [mem_settingsErrors]
  constructor
  · intro raised
    exact ⟨field, member, rfl, raised⟩
  · intro ⟨named, inside, same, raised⟩
    rw [eq_of_settings_name distinct inside member same] at raised
    exact raised

/-- A field has a value exactly when it is among the values. -/
theorem take_ok_iff {field : SettingsField κ τ ν ε} {value : ν}
    (distinct : (fields.map SettingsField.name).Nodup) (member : field ∈ fields)
    : field.take given = .ok value ↔ (field.name, value) ∈ settingsValues given fields := by
  rw [mem_settingsValues]
  constructor
  · intro taken
    exact ⟨field, member, rfl, taken⟩
  · intro ⟨named, inside, same, taken⟩
    rw [eq_of_settings_name distinct inside member same] at taken
    exact taken

/-- Two loads end alike exactly when they have the same errors and, having none, the same
values.
-/
theorem loadSettings_eq_iff
    : loadSettings given fields = loadSettings other fields
      ↔ settingsErrors given fields = settingsErrors other fields
        ∧ (settingsErrors given fields = []
          → settingsValues given fields = settingsValues other fields) := by
  unfold loadSettings
  cases settingsErrors given fields with
  | nil =>
      cases settingsErrors other fields with
      | nil => simp
      | cons error errors => simp
  | cons error errors =>
      cases settingsErrors other fields with
      | nil => simp
      | cons error errors => simp

/-- What every field comes to decides the errors. -/
theorem settingsErrors_congr
    (same
      : ∀ field ∈ fields, ∀ error,
          field.take given = .error error ↔ field.take other = .error error)
    : settingsErrors given fields = settingsErrors other fields := by
  apply List.filterMap_congr
  intro field member
  have alike := same field member
  cases taken : field.take given with
  | error error => rw [(alike error).mp taken]
  | ok value =>
      cases again : field.take other with
      | error error => exact absurd ((alike error).mpr again) (by simp [taken])
      | ok value => rfl

theorem settingsValues_congr
    (same : ∀ field ∈ fields, field.take given = field.take other)
    : settingsValues given fields = settingsValues other fields := by
  apply List.filterMap_congr
  intro field member
  rw [same field member]

end

/-- A load ends alike whatever the lower layer gives exactly when no field depends on it; or
when no field's error does, and there is an error in any case.
-/
theorem loadSettings_independent_iff {given : κ → Option τ} {lower : ι → κ → Option τ}
    {fields : List (SettingsField κ τ ν ε)}
    (distinct : (fields.map SettingsField.name).Nodup)
    : (∀ first second,
        loadSettings (layered given (lower first)) fields
          = loadSettings (layered given (lower second)) fields)
      ↔ (∀ field ∈ fields, ∀ first second,
          field.take (layered given (lower first)) = field.take (layered given (lower second)))
        ∨ (∀ field ∈ fields, ∀ first second error,
            field.take (layered given (lower first)) = .error error
              → field.take (layered given (lower second)) = .error error)
          ∧ ∃ field ∈ fields, ∃ error, ∀ index,
              field.take (layered given (lower index)) = .error error := by
  simp only [loadSettings_eq_iff]
  constructor
  · intro alike
    have errors (field : SettingsField κ τ ν ε) (member : field ∈ fields) (first second : ι)
        (error : ε) (raised : field.take (layered given (lower first)) = .error error)
        : field.take (layered given (lower second)) = .error error := by
      rw [take_error_iff distinct member] at raised ⊢
      rw [← (alike first second).1]
      exact raised
    by_cases raises : ∃ field ∈ fields, ∃ error index,
        field.take (layered given (lower index)) = .error error
    · obtain ⟨field, member, error, index, raised⟩ := raises
      exact .inr ⟨errors, field, member, error,
        fun other => errors field member index other error raised⟩
    · refine .inl (fun field member first second => ?_)
      cases taken : field.take (layered given (lower first)) with
      | error error => exact absurd ⟨field, member, error, first, taken⟩ raises
      | ok value =>
          have none_raised : settingsErrors (layered given (lower first)) fields = [] := by
            rw [List.eq_nil_iff_forall_not_mem]
            intro ⟨name, error⟩ raised
            obtain ⟨other, inside, _, raised⟩ := mem_settingsErrors.mp raised
            exact raises ⟨other, inside, error, first, raised⟩
          rw [take_ok_iff distinct member, (alike first second).2 none_raised,
            ← take_ok_iff distinct member] at taken
          exact taken.symm
  · intro independent first second
    rcases independent with fixed | ⟨errors, field, member, error, raised⟩
    · refine ⟨settingsErrors_congr (fun field member error => ?_), fun _ => ?_⟩
      · rw [fixed field member first second]
      · exact settingsValues_congr (fun field member => fixed field member first second)
    · refine ⟨settingsErrors_congr (fun field member error =>
        ⟨errors field member first second error, errors field member second first error⟩), ?_⟩
      intro none_raised
      have present := (take_error_iff distinct member).mp (raised first)
      rw [none_raised] at present
      cases present

end Turbocat.Library
