import Turbocat.Library.Settings
import Turbocat.Connectors.Registry

/-! The configuration classes of the sources, and what `build_from_credentials` makes of a
dict of credentials in the environment of its process.
-/

namespace Turbocat.Connectors.SourceConfigs

open Turbocat.Library Turbocat.Python

inductive FieldType where
  | str
  | secretStr
  | int
  -- `int | None`.
  | optionalInt
  deriving DecidableEq, Repr

inductive ConfigValue where
  | str (text : String)
  | secretStr (text : String)
  | int (value : Int)
  | none
  deriving DecidableEq, Repr

/-- A field of a configuration class. -/
structure ConfigField where
  name : String
  type : FieldType
  default : Option ConfigValue := none
  deriving DecidableEq, Repr

/-- A `BaseSettings` class: its `model_config`, as far as it decides where values come from, and
its fields.
-/
structure SettingsClass where
  envPrefix : String
  envIgnoreEmpty : Bool := false
  fields : List ConfigField

def razorpaySourceConfig : SettingsClass :=
  {
    envPrefix := "RAZORPAY_"
    fields :=
      [
        ⟨"api_key", .str, none⟩,
        ⟨"api_secret", .secretStr, none⟩,
        ⟨"base_url", .str, some (.str "https://api.razorpay.com/v1")⟩,
        ⟨"timeout", .int, some (.int 10)⟩,
        ⟨"max_retries", .int, some (.int 3)⟩
      ]
  }

def kaptureSourceConfig : SettingsClass :=
  {
    envPrefix := "KAPTURE_"
    envIgnoreEmpty := true
    fields :=
      [
        ⟨"subdomain", .str, none⟩,
        ⟨"token", .secretStr, none⟩,
        ⟨"cm_id", .optionalInt, some .none⟩,
        ⟨"tickets_template_id", .int, some (.int 117)⟩,
        ⟨"timeout", .int, some (.int 30)⟩,
        ⟨"max_retries", .int, some (.int 3)⟩
      ]
  }

/-- The configuration class registered beside a connector. -/
def configOf : ConnectorClass → SettingsClass
  | .razorpayOrders => razorpaySourceConfig
  | .razorpayCustomers => razorpaySourceConfig
  | .kaptureTickets => kaptureSourceConfig

/-- The environment of a process: its variables and the entries of its `.env` file, by their
names in lower case.
-/
structure Environment where
  environ : String → Option String
  dotenv : String → Option String

/-- A text that counts: not an empty one where these are ignored. -/
def SettingsClass.counts (settings : SettingsClass) (text : String) : Bool :=
  !(settings.envIgnoreEmpty && text = "")

/-- What an environment has for a field: its variable, else its entry in the `.env` file. -/
def SettingsClass.fromEnvironment (settings : SettingsClass) (environment : Environment)
    (name : String)
    : Option String :=
  let entry := (settings.envPrefix ++ name).toLower
  ((environment.environ entry).filter settings.counts).or
    ((environment.dotenv entry).filter settings.counts)

/-- How a text becomes a value of a field's type, or what pydantic reports about it. -/
abbrev Validate := FieldType → String → Except String ConfigValue

/-- What a field is when nothing gives it: one without a default is required. -/
def ConfigField.absent (field : ConfigField) : Except String ConfigValue :=
  match field.default with
  | some value => .ok value
  | none => .error "Field required"

/-- A field with its validation. -/
def ConfigField.settingsField (validate : Validate) (field : ConfigField)
    : SettingsField String String ConfigValue String :=
  {
    name := field.name
    validate := validate field.type
    absent := field.absent
  }

/-- Why a connector is not built. -/
inductive BuildFailure where
  | unknownSource (exception : PyException)
  -- A `ValidationError` with the errors of its fields.
  | invalid (errors : List (String × String))
  deriving DecidableEq, Repr

/-- A connector with the values of its configuration. -/
structure BuiltConnector where
  cls : ConnectorClass
  config : List (String × ConfigValue)
  deriving DecidableEq, Repr

/-- `config_cls(**credentials)`: each field from the credentials, else from the environment. -/
def SettingsClass.construct (settings : SettingsClass) (validate : Validate)
    (environment : Environment) (credentials : List (String × String))
    : Except (List (String × String)) (List (String × ConfigValue)) :=
  loadSettings
    (layered (fun name => credentials.lookup name) (settings.fromEnvironment environment))
    (settings.fields.map (ConfigField.settingsField validate))

/-- `build_from_credentials(source, credentials)` in an environment. -/
def buildFromCredentials (repr : String → String) (validate : Validate)
    (environment : Environment) (source : String) (credentials : List (String × String))
    : Except BuildFailure BuiltConnector :=
  match sourceRegistry.lookup source with
  | none =>
      .error (.unknownSource
        (unknownName repr "source" source (sourceRegistry.map (fun entry => entry.1))))
  | some cls =>
      match (configOf cls).construct validate environment credentials with
      | .error errors => .error (.invalid errors)
      | .ok config => .ok ⟨cls, config⟩

-----------------------------------------------------------------------------------------
-- Fields
-----------------------------------------------------------------------------------------

/-- A type that takes every text. -/
def FieldType.isText : FieldType → Bool
  | str => true
  | secretStr => true
  | int => false
  | optionalInt => false

/-- What pydantic documents of the four types: a text is a `str` and a `SecretStr` as it is; an
integer is read from its digits, and not from a letter.
-/
structure Documented (validate : Validate) : Prop where
  str : ∀ text, validate .str text = .ok (.str text)
  secretStr : ∀ text, validate .secretStr text = .ok (.secretStr text)
  int : validate .int "0" = .ok (.int 0)
  notInt : ∃ error, validate .int "x" = .error error
  optionalInt : validate .optionalInt "0" = .ok (.int 0)
  notOptionalInt : ∃ error, validate .optionalInt "x" = .error error

/-- The value of the text `0`. -/
def FieldType.zero : FieldType → ConfigValue
  | str => .str "0"
  | secretStr => .secretStr "0"
  | int => .int 0
  | optionalInt => .int 0

theorem Documented.zero {validate : Validate} (documented : Documented validate)
    (type : FieldType)
    : validate type "0" = .ok type.zero := by
  cases type with
  | str => exact documented.str "0"
  | secretStr => exact documented.secretStr "0"
  | int => exact documented.int
  | optionalInt => exact documented.optionalInt

theorem Documented.text {validate : Validate} (documented : Documented validate)
    {type : FieldType} (isText : type.isText = true) (text : String)
    : ∃ value, validate type text = .ok value := by
  cases type with
  | str => exact ⟨_, documented.str text⟩
  | secretStr => exact ⟨_, documented.secretStr text⟩
  | int => cases isText
  | optionalInt => cases isText

theorem Documented.letter {validate : Validate} (documented : Documented validate)
    {type : FieldType} (number : type.isText = false)
    : ∃ error, validate type "x" = .error error := by
  cases type with
  | str => cases number
  | secretStr => cases number
  | int => exact documented.notInt
  | optionalInt => exact documented.notOptionalInt

/-- No default is the value of the text `0`. -/
theorem default_ne_zero (cls : ConnectorClass)
    : ∀ field ∈ (configOf cls).fields, field.default ≠ some field.type.zero := by
  cases cls <;> decide

theorem configOf_distinct (cls : ConnectorClass)
    : ((configOf cls).fields.map ConfigField.name).Nodup := by
  cases cls <;> decide

/-- An environment without any of the entries. -/
def Environment.empty : Environment := ⟨fun _ => none, fun _ => none⟩

/-- An environment in which every variable is set to one text. -/
def Environment.filled (text : String) : Environment := ⟨fun _ => some text, fun _ => none⟩

theorem fromEnvironment_empty (settings : SettingsClass) (name : String)
    : settings.fromEnvironment .empty name = none :=
  rfl

theorem fromEnvironment_filled (settings : SettingsClass) {text : String} (some_ : text ≠ "")
    (name : String)
    : settings.fromEnvironment (.filled text) name = some text := by
  simp [SettingsClass.fromEnvironment, Environment.filled, SettingsClass.counts, some_]

section

variable {validate : Validate} {settings : SettingsClass} {environment : Environment}
  {credentials : List (String × String)} {field : ConfigField}

/-- What a field comes to in an environment. -/
def taken (validate : Validate) (settings : SettingsClass) (environment : Environment)
    (credentials : List (String × String)) (field : ConfigField)
    : Except String ConfigValue :=
  (field.settingsField validate).take
    (layered (fun name => credentials.lookup name) (settings.fromEnvironment environment))

/-- A field that is named is taken from the credentials. -/
theorem taken_named {text : String} (named : credentials.lookup field.name = some text)
    : taken validate settings environment credentials field = validate field.type text := by
  simp [taken, SettingsField.take, layered, ConfigField.settingsField, named]

/-- A field that is not named is taken from the environment. -/
theorem taken_found {text : String} (missing : credentials.lookup field.name = none)
    (found : settings.fromEnvironment environment field.name = some text)
    : taken validate settings environment credentials field = validate field.type text := by
  simp [taken, SettingsField.take, layered, ConfigField.settingsField, missing, found]

/-- A field that is neither named nor in the environment has its default, if any. -/
theorem taken_absent (missing : credentials.lookup field.name = none)
    (absent : settings.fromEnvironment environment field.name = none)
    : taken validate settings environment credentials field
      = field.absent := by
  simp [taken, SettingsField.take, layered, ConfigField.settingsField, missing, absent]

-----------------------------------------------------------------------------------------
-- Outcomes in two environments
-----------------------------------------------------------------------------------------

/-- A field that the credentials name. -/
def Named (credentials : List (String × String)) (field : ConfigField) : Prop :=
  ∃ text, credentials.lookup field.name = some text

/-- A field whose text in the credentials is rejected. -/
def Rejected (validate : Validate) (credentials : List (String × String)) (field : ConfigField)
    : Prop :=
  ∃ text error,
    credentials.lookup field.name = some text ∧ validate field.type text = .error error

/-- Credentials that leave nothing to the environment: they name every field; or a text of
theirs is rejected, and each field they do not name has a default and a type that takes every
text.
-/
def SelfSufficient (validate : Validate) (settings : SettingsClass)
    (credentials : List (String × String))
    : Prop :=
  (∀ field ∈ settings.fields, Named credentials field)
  ∨ (∀ field ∈ settings.fields,
      Named credentials field ∨ field.type.isText = true ∧ field.default ≠ none)
    ∧ ∃ field ∈ settings.fields, Rejected validate credentials field

theorem not_named_iff
    : ¬ Named credentials field ↔ credentials.lookup field.name = none := by
  unfold Named
  cases credentials.lookup field.name <;> simp

/-- A field that is not named comes to a value in some environment. -/
theorem taken_zero (documented : Documented validate) (missing : ¬ Named credentials field)
    : taken validate settings (.filled "0") credentials field = .ok field.type.zero := by
  rw [taken_found (not_named_iff.mp missing)
    (fromEnvironment_filled settings (by decide) field.name)]
  exact documented.zero field.type

/-- A field whose value no environment changes is named. -/
theorem named_of_fixed (documented : Documented validate)
    (differs : field.default ≠ some field.type.zero)
    (fixed
      : taken validate settings .empty credentials field
        = taken validate settings (.filled "0") credentials field)
    : Named credentials field := by
  by_contra missing
  rw [taken_zero documented missing,
    taken_absent (not_named_iff.mp missing) (fromEnvironment_empty settings field.name)]
    at fixed
  unfold ConfigField.absent at fixed
  cases default : field.default with
  | none => simp [default] at fixed
  | some value =>
      simp only [default, Except.ok.injEq] at fixed
      exact differs (default.trans (congrArg some fixed))

/-- A field whose errors no environment changes is named, or is a text with a default. -/
theorem harmless_of_errors_fixed (documented : Documented validate)
    (fixed
      : ∀ (first second : Environment) (error : String),
          taken validate settings first credentials field = .error error
            → taken validate settings second credentials field = .error error)
    : Named credentials field ∨ field.type.isText = true ∧ field.default ≠ none := by
  by_contra harmful
  rw [not_or, not_and_or, Bool.not_eq_true, not_ne_iff] at harmful
  obtain ⟨missing, number | required⟩ := harmful
  · -- A number is rejected in one environment and read in another.
    obtain ⟨error, rejected⟩ := documented.letter number
    have raised : taken validate settings (.filled "x") credentials field = .error error := by
      rw [taken_found (not_named_iff.mp missing)
        (fromEnvironment_filled settings (by decide) field.name)]
      exact rejected
    cases (taken_zero documented missing).symm.trans (fixed _ (.filled "0") error raised)
  · -- A required field is missing in one environment and there in another.
    have raised : taken validate settings .empty credentials field
        = .error "Field required" := by
      rw [taken_absent (not_named_iff.mp missing)
        (fromEnvironment_empty settings field.name), ConfigField.absent, required]
    cases (taken_zero documented missing).symm.trans (fixed _ (.filled "0") _ raised)

/-- A text with a default never has an error. -/
theorem taken_text_ok (documented : Documented validate) (missing : ¬ Named credentials field)
    (isText : field.type.isText = true) (default : field.default ≠ none)
    : ∃ value, taken validate settings environment credentials field = .ok value := by
  cases found : settings.fromEnvironment environment field.name with
  | some text =>
      rw [taken_found (not_named_iff.mp missing) found]
      exact documented.text isText text
  | none =>
      obtain ⟨value, given⟩ := Option.ne_none_iff_exists'.mp default
      rw [taken_absent (not_named_iff.mp missing) found, ConfigField.absent, given]
      exact ⟨value, rfl⟩

/-- The fields with their validation keep their names apart. -/
theorem settingsFields_distinct (validate : Validate) {fields : List ConfigField}
    (distinct : (fields.map ConfigField.name).Nodup)
    : ((fields.map (ConfigField.settingsField validate)).map SettingsField.name).Nodup := by
  rw [List.map_map]
  exact distinct

/-- A configuration is built alike in every environment exactly when the credentials leave
nothing to it.
-/
theorem construct_independent_iff (documented : Documented validate)
    (distinct : (settings.fields.map ConfigField.name).Nodup)
    (differs : ∀ field ∈ settings.fields, field.default ≠ some field.type.zero)
    : (∀ first second,
        settings.construct validate first credentials
          = settings.construct validate second credentials)
      ↔ SelfSufficient validate settings credentials := by
  have independent := @loadSettings_independent_iff Environment _ _ _ _
    (fun name => credentials.lookup name) settings.fromEnvironment
    (settings.fields.map (ConfigField.settingsField validate))
    (settingsFields_distinct validate distinct)
  simp only [List.forall_mem_map] at independent
  refine independent.trans ?_
  constructor
  · intro fixed
    rcases fixed with values | ⟨errors, validated, mapped, error, raised⟩
    · exact .inl (fun field member => named_of_fixed documented (differs field member)
        (values field member .empty (.filled "0")))
    · obtain ⟨field, member, rfl⟩ := List.mem_map.mp mapped
      refine .inr ⟨fun field member =>
        harmless_of_errors_fixed documented (errors field member), field, member, ?_⟩
      by_cases named : Named credentials field
      · obtain ⟨text, given⟩ := named
        exact ⟨text, error, given, (taken_named given).symm.trans (raised .empty)⟩
      · cases (taken_zero documented named).symm.trans (raised (.filled "0"))
  · intro sufficient
    rcases sufficient with complete | ⟨harmless, field, member, text, error, given, rejected⟩
    · refine .inl (fun field member first second => ?_)
      obtain ⟨text, given⟩ := complete field member
      exact (taken_named given).trans (taken_named given).symm
    · refine .inr ⟨fun field member first second error raised => ?_, _,
        List.mem_map_of_mem member, error,
        fun environment => (taken_named given).trans rejected⟩
      by_cases named : Named credentials field
      · obtain ⟨text, given⟩ := named
        exact ((taken_named given).trans (taken_named given).symm).trans raised
      · rcases harmless field member with present | ⟨isText, default⟩
        · exact absurd present named
        · obtain ⟨value, ok⟩ := taken_text_ok documented named isText default
          cases ok.symm.trans raised

/-- What a failure raises. `message` is the text of a `ValidationError`. -/
def BuildFailure.exception (message : List (String × String) → String)
    : BuildFailure → PyException
  | unknownSource exception => exception
  | invalid errors => ⟨.validationError, message errors⟩

/-- The registry's `build_from_credentials`, which leaves open how a configuration is
constructed, is this one where it is constructed in an environment.
-/
theorem buildFromCredentials_eq_registry {repr : String → String} {configure : Configure}
    {message : List (String × String) → String} {source : String} {submitted : Json}
    (constructs
      : ∀ cls, configure cls submitted
          = (((configOf cls).construct validate environment credentials).map
              (fun _ => ())).mapError (fun errors => ⟨.validationError, message errors⟩))
    : Connectors.buildFromCredentials repr configure source submitted
      = ((buildFromCredentials repr validate environment source credentials).map
          BuiltConnector.cls).mapError (BuildFailure.exception message) := by
  unfold Connectors.buildFromCredentials buildFromCredentials
  cases sourceRegistry.lookup source with
  | none => rfl
  | some cls =>
      dsimp only
      rw [constructs]
      cases (configOf cls).construct validate environment credentials <;> rfl

/-- A connector is built alike in every environment exactly when its source is unknown, or the
credentials leave nothing of the source's configuration to the environment.
-/
theorem buildFromCredentials_environment_iff {repr : String → String} {source : String}
    (documented : Documented validate)
    : (∀ first second,
        buildFromCredentials repr validate first source credentials
          = buildFromCredentials repr validate second source credentials)
      ↔ ∀ cls, sourceRegistry.lookup source = some cls
          → SelfSufficient validate (configOf cls) credentials := by
  unfold buildFromCredentials
  cases known : sourceRegistry.lookup source with
  | none => exact iff_of_true (fun _ _ => rfl) (fun _ absent => nomatch absent)
  | some cls =>
      simp only [Option.some.injEq, forall_eq']
      rw [← construct_independent_iff documented (configOf_distinct cls) (default_ne_zero cls)]
      refine forall₂_congr (fun first second => ?_)
      cases (configOf cls).construct validate first credentials with
      | error errors =>
          cases (configOf cls).construct validate second credentials with
          | error others => simp
          | ok config => simp
      | ok config =>
          cases (configOf cls).construct validate second credentials with
          | error errors => simp
          | ok other => simp

end

namespace Sample

/-- Integers without a sign, read digit by digit. -/
def digits (text : String) : Option Int :=
  if text.toList ≠ [] ∧ text.toList.all Char.isDigit then
    some (text.toList.foldl (fun value digit => 10 * value + (digit.toNat - '0'.toNat : Nat)) 0)
  else none

def parseInt (text : String) : Except String ConfigValue :=
  match digits text with
  | some value => .ok (.int value)
  | none => .error "Input should be a valid integer, unable to parse string as an integer"

def validate : Validate
  | .str, text => .ok (.str text)
  | .secretStr, text => .ok (.secretStr text)
  | .int, text => parseInt text
  | .optionalInt, text => parseInt text

theorem documented : Documented validate :=
  {
    str := fun _ => rfl
    secretStr := fun _ => rfl
    int := by decide
    notInt := ⟨_, rfl⟩
    optionalInt := by decide
    notOptionalInt := ⟨_, rfl⟩
  }

/-- An orchestrator with credentials of its own. -/
def host : Environment :=
  ⟨fun name =>
      if name = "razorpay_api_key" then some "rzp_live_host"
      else if name = "razorpay_api_secret" then some "host_secret"
      else none,
    fun _ => none⟩

/-- Credentials that name every field. -/
def complete : List (String × String) :=
  [("api_key", "rzp_test_key"), ("api_secret", "secret"),
    ("base_url", "https://api.razorpay.com/v1"), ("timeout", "10"), ("max_retries", "3")]

end Sample

/-- Empty credentials are rejected by one orchestrator, and completed by another with its own. -/
theorem empty_credentials_completed
    : buildFromCredentials id Sample.validate .empty "razorpay" []
        = .error (.invalid [("api_key", "Field required"), ("api_secret", "Field required")])
      ∧ buildFromCredentials id Sample.validate Sample.host "razorpay" []
        = .ok ⟨.razorpayOrders,
          [("api_key", .str "rzp_live_host"), ("api_secret", .secretStr "host_secret"),
            ("base_url", .str "https://api.razorpay.com/v1"), ("timeout", .int 10),
            ("max_retries", .int 3)]⟩
      ∧ ¬ ∀ first second,
          buildFromCredentials id Sample.validate first "razorpay" []
            = buildFromCredentials id Sample.validate second "razorpay" [] := by
  have rejected
      : buildFromCredentials id Sample.validate .empty "razorpay" []
        = .error (.invalid [("api_key", "Field required"), ("api_secret", "Field required")]) :=
    rfl
  have completed
      : buildFromCredentials id Sample.validate Sample.host "razorpay" []
        = .ok ⟨.razorpayOrders,
          [("api_key", .str "rzp_live_host"), ("api_secret", .secretStr "host_secret"),
            ("base_url", .str "https://api.razorpay.com/v1"), ("timeout", .int 10),
            ("max_retries", .int 3)]⟩ := by
    decide +kernel
  refine ⟨rejected, completed, fun alike => ?_⟩
  cases (rejected.symm.trans (alike .empty Sample.host)).trans completed

/-- Complete credentials make the same connector in every environment. -/
theorem complete_credentials_alike
    : SelfSufficient Sample.validate razorpaySourceConfig Sample.complete
      ∧ ∀ first second,
          buildFromCredentials id Sample.validate first "razorpay" Sample.complete
            = buildFromCredentials id Sample.validate second "razorpay" Sample.complete := by
  have sufficient : SelfSufficient Sample.validate razorpaySourceConfig Sample.complete := by
    refine .inl (fun field member => ?_)
    simp only [razorpaySourceConfig, List.mem_cons, List.not_mem_nil, or_false] at member
    rcases member with rfl | rfl | rfl | rfl | rfl
    · exact ⟨_, rfl⟩
    · exact ⟨_, rfl⟩
    · exact ⟨_, rfl⟩
    · exact ⟨_, rfl⟩
    · exact ⟨_, rfl⟩
  refine ⟨sufficient, (buildFromCredentials_environment_iff Sample.documented).mpr ?_⟩
  intro cls known
  cases known
  exact sufficient

end Turbocat.Connectors.SourceConfigs
