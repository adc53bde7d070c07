import Mathlib.Algebra.Order.BigOperators.Group.Finset
import Turbocat.Library.Runs
import Turbocat.Orchestrator.Secrets

/-! Concurrent `put_secret` calls, one remote call at a time: what they leave in the store,
and when each of them succeeds.
-/

namespace Turbocat.Orchestrator.SecretUpserts

open Turbocat.Library Turbocat.Python

/-- The `ClientError` that a remote call raises. -/
inductive ClientError where
  | resourceNotFound
  | resourceExists
  | other (text : String)
  deriving DecidableEq, Repr

def ClientError.text : ClientError → String
  | resourceNotFound =>
      "An error occurred (ResourceNotFoundException) when calling the PutSecretValue operation: "
      ++ "Secrets Manager can't find the specified secret."
  | resourceExists =>
      "An error occurred (ResourceExistsException) when calling the CreateSecret operation: "
      ++ "The operation failed because the secret already exists."
  | other text => text

/-- `client.put_secret_value`. `fault` is the text of another error of the service. -/
def putSecretValue (store : SecretStore) (fault : Option String) (secretId : String)
    (secretString : Json)
    : Except ClientError SecretStore :=
  match fault with
  | some text => .error (.other text)
  | none =>
      match store secretId with
      | none => .error .resourceNotFound
      | some _ => .ok (Function.update store secretId (some (.decoded secretString)))

/-- `client.create_secret`. -/
def createSecret (store : SecretStore) (fault : Option String) (name : String)
    (secretString : Json)
    : Except ClientError SecretStore :=
  match fault with
  | some text => .error (.other text)
  | none =>
      match store name with
      | some _ => .error .resourceExists
      | none => .ok (Function.update store name (some (.decoded secretString)))

/-- The arguments of a `put_secret` call. -/
structure Request where
  secretRef : String
  credentials : List (String × String)
  deriving DecidableEq, Repr

/-- How far a call has come. -/
inductive Phase where
  | updating
  -- `put_secret_value` has raised `ResourceNotFoundException`.
  | creating
  | returned
  | raised (exception : PyException)
  deriving DecidableEq, Repr

/-- The `RuntimeError` of `put_secret`. -/
def saveFailed (secretRef : String) (error : ClientError) : PyException :=
  ⟨.runtimeError, "Failed to save secret '" ++ secretRef ++ "': " ++ error.text⟩

/-- The next remote call of a call, with the store and the phase it leaves. -/
def Request.next (request : Request) (fault : Option String) (store : SecretStore)
    : Phase → Option (SecretStore × Phase)
  | .updating =>
      match putSecretValue store fault request.secretRef
          (credentialsJson request.credentials) with
      | .ok written => some (written, .returned)
      | .error .resourceNotFound => some (store, .creating)
      | .error error => some (store, .raised (saveFailed request.secretRef error))
  | .creating =>
      match createSecret store fault request.secretRef
          (credentialsJson request.credentials) with
      | .ok written => some (written, .returned)
      | .error error => some (store, .raised (saveFailed request.secretRef error))
  | .returned => none
  | .raised _ => none

/-- The store, and the phase of each call by its number. -/
structure State where
  store : SecretStore
  phases : Nat → Phase

/-- No call has started yet. -/
def State.initial (store : SecretStore) : State :=
  ⟨store, fun _ => .updating⟩

/-- A remote call of one of the calls, and the other error the service may answer with. -/
structure Event where
  number : Nat
  fault : Option String := none
  deriving DecidableEq, Repr

/-- The state after a call has come to another phase. -/
def State.moved (state : State) (number : Nat) (result : SecretStore × Phase) : State :=
  ⟨result.1, Function.update state.phases number result.2⟩

@[simp]
theorem State.moved_store (state : State) (number : Nat) (result : SecretStore × Phase)
    : (state.moved number result).store = result.1 :=
  rfl

@[simp]
theorem State.moved_phases_self (state : State) (number : Nat) (result : SecretStore × Phase)
    : (state.moved number result).phases number = result.2 :=
  Function.update_self ..

@[simp]
theorem State.moved_phases_of_ne (state : State) {number other : Nat} (differ : other ≠ number)
    (result : SecretStore × Phase)
    : (state.moved number result).phases other = state.phases other :=
  Function.update_of_ne differ ..

/-- One remote call, or nothing where the call has ended. -/
def step (requests : List Request) (state : State) (event : Event) : Option State :=
  match requests[event.number]? with
  | none => none
  | some request =>
      (request.next event.fault state.store (state.phases event.number)).map
        (state.moved event.number)

-----------------------------------------------------------------------------------------
-- Steps
-----------------------------------------------------------------------------------------

/-- The store with the credentials of a call. -/
def Request.written (request : Request) (store : SecretStore) : SecretStore :=
  Function.update store request.secretRef
    (some (.decoded (credentialsJson request.credentials)))

theorem Request.written_self (request : Request) (store : SecretStore)
    : request.written store request.secretRef
      = some (.decoded (credentialsJson request.credentials)) :=
  Function.update_self ..

theorem Request.written_of_ne (request : Request) (store : SecretStore) {secretRef : String}
    (other : secretRef ≠ request.secretRef)
    : request.written store secretRef = store secretRef :=
  Function.update_of_ne other ..

/-- What `put_secret_value` comes to. -/
theorem Request.next_updating {request : Request} {fault : Option String}
    {store : SecretStore} {result : SecretStore × Phase}
    (moved : request.next fault store .updating = some result)
    : fault = none ∧ store request.secretRef ≠ none
        ∧ result = (request.written store, .returned)
      ∨ fault = none ∧ store request.secretRef = none ∧ result = (store, .creating)
      ∨ fault ≠ none ∧ ∃ exception, result = (store, .raised exception) := by
  simp only [Request.next, putSecretValue] at moved
  cases fault with
  | some text =>
      cases moved
      exact .inr (.inr ⟨by simp, _, rfl⟩)
  | none =>
      cases stored : store request.secretRef with
      | none =>
          simp only [stored, Option.some.injEq] at moved
          exact .inr (.inl ⟨rfl, rfl, moved.symm⟩)
      | some secret =>
          simp only [stored, Option.some.injEq] at moved
          exact .inl ⟨rfl, by simp, moved.symm⟩

/-- What `create_secret` comes to. -/
theorem Request.next_creating {request : Request} {fault : Option String}
    {store : SecretStore} {result : SecretStore × Phase}
    (moved : request.next fault store .creating = some result)
    : fault = none ∧ store request.secretRef = none
        ∧ result = (request.written store, .returned)
      ∨ (fault ≠ none ∨ store request.secretRef ≠ none)
        ∧ ∃ exception, result = (store, .raised exception) := by
  simp only [Request.next, createSecret] at moved
  cases fault with
  | some text =>
      cases moved
      exact .inr ⟨.inl (by simp), _, rfl⟩
  | none =>
      cases stored : store request.secretRef with
      | none =>
          simp only [stored, Option.some.injEq] at moved
          exact .inl ⟨rfl, rfl, moved.symm⟩
      | some secret =>
          simp only [stored, Option.some.injEq] at moved
          exact .inr ⟨.inr (by simp), _, moved.symm⟩

/-- A call makes a remote call exactly while it has not ended. -/
theorem Request.next_isSome_iff (request : Request) (fault : Option String)
    (store : SecretStore) (phase : Phase)
    : (request.next fault store phase).isSome ↔ phase = .updating ∨ phase = .creating := by
  cases phase with
  | updating =>
      simp only [Request.next, true_or, iff_true]
      split <;> rfl
  | creating =>
      simp only [Request.next, or_true, iff_true]
      split <;> rfl
  | returned => simp [Request.next]
  | raised exception => simp [Request.next]

/-- What each remote call does. -/
inductive Takes (requests : List Request) (state : State) : Event → State → Prop
  | wrote {event request} (known : requests[event.number]? = some request)
    (faultless : event.fault = none)
    (ready
      : state.phases event.number = .updating ∧ state.store request.secretRef ≠ none
        ∨ state.phases event.number = .creating ∧ state.store request.secretRef = none)
    : Takes requests state event
        (state.moved event.number (request.written state.store, .returned))
  | missed {event request} (known : requests[event.number]? = some request)
    (faultless : event.fault = none) (updating : state.phases event.number = .updating)
    (absent : state.store request.secretRef = none)
    : Takes requests state event (state.moved event.number (state.store, .creating))
  | failed {event request exception} (known : requests[event.number]? = some request)
    (cause
      : state.phases event.number = .updating ∧ event.fault ≠ none
        ∨ state.phases event.number = .creating
          ∧ (event.fault ≠ none ∨ state.store request.secretRef ≠ none))
    : Takes requests state event (state.moved event.number (state.store, .raised exception))

section

variable {requests : List Request} {store : SecretStore} {state next last : State}
  {event : Event} {events : List Event}

/-- An accepted event is one of these, by cases of the phase its call is in. -/
theorem step_takes (stepped : step requests state event = some next)
    : Takes requests state event next := by
  unfold step at stepped
  cases known : requests[event.number]? with
  | none =>
      rw [known] at stepped
      cases stepped
  | some request =>
      simp only [known] at stepped
      obtain ⟨result, moved, rfl⟩ := Option.map_eq_some_iff.mp stepped
      cases phase : state.phases event.number with
      | updating =>
          rw [phase] at moved
          rcases Request.next_updating moved with
            ⟨faultless, present, rfl⟩ | ⟨faultless, absent, rfl⟩ | ⟨fault, exception, rfl⟩
          · exact .wrote known faultless (.inl ⟨phase, present⟩)
          · exact .missed known faultless phase absent
          · exact .failed known (.inl ⟨phase, fault⟩)
      | creating =>
          rw [phase] at moved
          rcases Request.next_creating moved with
            ⟨faultless, absent, rfl⟩ | ⟨cause, exception, rfl⟩
          · exact .wrote known faultless (.inr ⟨phase, absent⟩)
          · exact .failed known (.inr ⟨phase, cause⟩)
      | returned =>
          rw [phase] at moved
          cases moved
      | raised exception =>
          rw [phase] at moved
          cases moved

/-- A call can go on exactly while it has not ended. -/
theorem step_isSome_iff {request : Request} (known : requests[event.number]? = some request)
    : (step requests state event).isSome
      ↔ state.phases event.number = .updating ∨ state.phases event.number = .creating := by
  unfold step
  rw [known]
  dsimp only
  rw [Option.isSome_map, Request.next_isSome_iff]

-----------------------------------------------------------------------------------------
-- The store
-----------------------------------------------------------------------------------------

/-- A call that has written its credentials under a reference. -/
structure Wrote (requests : List Request) (state : State) (number : Nat) (request : Request)
    (secretRef : String)
    : Prop where
  known : requests[number]? = some request
  returned : state.phases number = .returned
  under : request.secretRef = secretRef

/-- A reference holds what one of the calls that wrote it was given, or what it held when
none has.
-/
def Accounted (requests : List Request) (store : SecretStore) (state : State) : Prop :=
  ∀ secretRef,
    (∃ number request, Wrote requests state number request secretRef
      ∧ state.store secretRef = some (.decoded (credentialsJson request.credentials)))
    ∨ (∀ number request, ¬ Wrote requests state number request secretRef)
      ∧ state.store secretRef = store secretRef

theorem accounted_initial : Accounted requests store (.initial store) := by
  intro secretRef
  refine .inr ⟨fun number request wrote => ?_, rfl⟩
  cases wrote.returned

/-- A move changes what has been written under a reference only where it makes a call return
that writes it.
-/
theorem wrote_moved_iff {moving : Nat} {result : SecretStore × Phase} {secretRef : String}
    (apart
      : ∀ request, requests[moving]? = some request → request.secretRef = secretRef
          → (result.2 = .returned ↔ state.phases moving = .returned))
    (number : Nat) (request : Request)
    : Wrote requests (state.moved moving result) number request secretRef
      ↔ Wrote requests state number request secretRef := by
  rcases eq_or_ne number moving with rfl | other
  · constructor
    · intro ⟨known, returned, under⟩
      rw [State.moved_phases_self] at returned
      exact ⟨known, (apart request known under).mp returned, under⟩
    · intro ⟨known, returned, under⟩
      refine ⟨known, ?_, under⟩
      rw [State.moved_phases_self]
      exact (apart request known under).mpr returned
  · constructor
    · intro ⟨known, returned, under⟩
      rw [State.moved_phases_of_ne state other] at returned
      exact ⟨known, returned, under⟩
    · intro ⟨known, returned, under⟩
      refine ⟨known, ?_, under⟩
      rw [State.moved_phases_of_ne state other]
      exact returned

/-- A call that does not return changes neither the store nor what has been written. -/
theorem Accounted.moved {moving : Nat} {phase : Phase}
    (accounted : Accounted requests store state)
    (live : state.phases moving ≠ .returned) (pending : phase ≠ .returned)
    : Accounted requests store (state.moved moving (state.store, phase)) := by
  intro secretRef
  have same := @wrote_moved_iff requests state moving (state.store, phase) secretRef
    (fun _ _ _ => iff_of_false pending live)
  simp only [same]
  exact accounted secretRef

/-- A call that returns has its credentials in the store, and changes no other reference. -/
theorem Accounted.wrote {number : Nat} {request : Request}
    (accounted : Accounted requests store state) (known : requests[number]? = some request)
    : Accounted requests store
        (state.moved number (request.written state.store, .returned)) := by
  intro secretRef
  rcases eq_or_ne secretRef request.secretRef with rfl | other
  · exact .inl ⟨number, request, ⟨known, State.moved_phases_self .., rfl⟩,
      request.written_self state.store⟩
  · have same := @wrote_moved_iff requests state number
      (request.written state.store, .returned) secretRef (by
        intro writer again under
        cases known.symm.trans again
        exact absurd under.symm other)
    simp only [same, State.moved_store, request.written_of_ne state.store other]
    exact accounted secretRef

/-- Every remote call keeps the store accounted for, by cases of what it does. -/
theorem Accounted.step (accounted : Accounted requests store state)
    (stepped : step requests state event = some next)
    : Accounted requests store next := by
  cases step_takes stepped with
  | wrote known faultless ready => exact accounted.wrote known
  | missed known faultless updating absent =>
      exact accounted.moved (by simp [updating]) (by simp)
  | failed known cause =>
      refine accounted.moved ?_ (by simp)
      rcases cause with ⟨updating, _⟩ | ⟨creating, _⟩
      · simp [updating]
      · simp [creating]

-----------------------------------------------------------------------------------------
-- The calls
-----------------------------------------------------------------------------------------

/-- No call has raised an exception. -/
def NoneRaised (requests : List Request) (state : State) : Prop :=
  ∀ number < requests.length, ∀ exception, state.phases number ≠ .raised exception

/-- A call that is about to create its secret still finds none. -/
def CreatesAbsent (requests : List Request) (state : State) (event : Event) : Prop :=
  ∀ request, requests[event.number]? = some request
    → state.phases event.number = .creating → state.store request.secretRef = none

theorem noneRaised_moved_iff {moving : Nat} {request : Request}
    {result : SecretStore × Phase} (noneRaised : NoneRaised requests state)
    (known : requests[moving]? = some request)
    : NoneRaised requests (state.moved moving result)
      ↔ ∀ exception, result.2 ≠ .raised exception := by
  constructor
  · intro kept exception
    have inside := (List.getElem?_eq_some_iff.mp known).1
    have phase := kept moving inside exception
    rwa [State.moved_phases_self] at phase
  · intro pending number inside exception
    rcases eq_or_ne number moving with rfl | other
    · rw [State.moved_phases_self]
      exact pending exception
    · rw [State.moved_phases_of_ne state other]
      exact noneRaised number inside exception

/-- A remote call makes no call raise exactly when the service reports no other error and no
secret has been created in between.
-/
theorem step_raises_none_iff (noneRaised : NoneRaised requests state)
    (stepped : step requests state event = some next)
    : NoneRaised requests next
      ↔ event.fault = none ∧ CreatesAbsent requests state event := by
  cases step_takes stepped with
  | @wrote request known faultless ready =>
      rw [noneRaised_moved_iff noneRaised known]
      refine iff_of_true (by simp) ⟨faultless, ?_⟩
      intro writer again creating
      cases known.symm.trans again
      rcases ready with ⟨updating, _⟩ | ⟨_, absent⟩
      · cases updating.symm.trans creating
      · exact absent
  | missed known faultless updating absent =>
      rw [noneRaised_moved_iff noneRaised known]
      refine iff_of_true (by simp) ⟨faultless, ?_⟩
      intro writer again creating
      cases updating.symm.trans creating
  | @failed request exception known cause =>
      rw [noneRaised_moved_iff noneRaised known]
      refine iff_of_false (fun pending => pending exception rfl) ?_
      intro ⟨faultless, createsAbsent⟩
      rcases cause with ⟨_, fault⟩ | ⟨creating, fault | present⟩
      · exact fault faultless
      · exact fault faultless
      · exact present (createsAbsent request known creating)

/-- The remote calls that a call can still make. -/
def Phase.remaining : Phase → Nat
  | updating => 2
  | creating => 1
  | returned => 0
  | raised _ => 0

/-- The remote calls that all calls together can still make. -/
def State.remaining (requests : List Request) (state : State) : Nat :=
  ∑ number ∈ Finset.range requests.length, (state.phases number).remaining

/-- A move uses up a remote call of its call, and none of the others. -/
theorem moved_remaining {moving : Nat} {request : Request} {result : SecretStore × Phase}
    (known : requests[moving]? = some request)
    (fewer : result.2.remaining < (state.phases moving).remaining)
    : (state.moved moving result).remaining requests < state.remaining requests := by
  have inside := (List.getElem?_eq_some_iff.mp known).1
  apply Finset.sum_lt_sum
  · intro number _
    rcases eq_or_ne number moving with rfl | other
    · rw [State.moved_phases_self]
      exact fewer.le
    · rw [State.moved_phases_of_ne state other]
  · refine ⟨moving, Finset.mem_range.mpr inside, ?_⟩
    rw [State.moved_phases_self]
    exact fewer

theorem step_remaining (stepped : step requests state event = some next)
    : next.remaining requests < state.remaining requests := by
  cases step_takes stepped with
  | wrote known faultless ready =>
      apply moved_remaining known
      rcases ready with ⟨updating, _⟩ | ⟨creating, _⟩
      · rw [updating]
        exact Nat.two_pos
      · rw [creating]
        exact Nat.one_pos
  | missed known faultless updating absent =>
      apply moved_remaining known
      rw [updating]
      exact Nat.one_lt_two
  | failed known cause =>
      apply moved_remaining known
      rcases cause with ⟨updating, _⟩ | ⟨creating, _⟩
      · rw [updating]
        exact Nat.two_pos
      · rw [creating]
        exact Nat.one_pos

/-- The calls together make at most two remote calls each. -/
theorem run_at_most_two (ran : run (step requests) (.initial store) events = some last)
    : events.length ≤ 2 * requests.length := by
  have bound := run_length_le step_remaining ran
  have full : (State.initial store).remaining requests = 2 * requests.length := by
    simp [State.remaining, State.initial, Phase.remaining, Nat.mul_comm]
  omega

/-- Each reference written holds in full, and `get_secret` returns, what one of the calls that
wrote it was given; every other reference is as it was.
-/
structure Stored (requests : List Request) (store : SecretStore) (state : State) : Prop where
  written
    : ∀ number request secretRef, Wrote requests state number request secretRef →
        ∃ other writer,
          Wrote requests state other writer secretRef
          ∧ state.store secretRef = some (.decoded (credentialsJson writer.credentials))
          ∧ getSecret state.store none secretRef = .ok (credentialsJson writer.credentials)
  others
    : ∀ secretRef, (∀ number request, ¬ Wrote requests state number request secretRef) →
        state.store secretRef = store secretRef

/-- What concurrent upserts promise of a state they reach: each call has returned or can go on,
and what they have written is stored.
-/
structure Upserted (requests : List Request) (store : SecretStore) (state : State) : Prop where
  succeed
    : ∀ number < requests.length,
        state.phases number = .returned ∨ (step requests state ⟨number, none⟩).isSome
  stored : Stored requests store state

theorem Accounted.stored (accounted : Accounted requests store state)
    : Stored requests store state := by
  refine ⟨fun number request secretRef wrote => ?_, fun secretRef unwritten => ?_⟩
  · rcases accounted secretRef with ⟨other, writer, writes, stored⟩ | ⟨unwritten, _⟩
    · exact ⟨other, writer, writes, stored, getSecret_ok_iff.mpr ⟨rfl, stored⟩⟩
    · exact absurd wrote (unwritten number request)
  · rcases accounted secretRef with ⟨other, writer, writes, _⟩ | ⟨_, same⟩
    · exact absurd writes (unwritten other writer)
    · exact same

theorem run_accounted (ran : run (step requests) (.initial store) events = some last)
    : Accounted requests store last :=
  run_invariant (fun accounted stepped => accounted.step stepped) accounted_initial ran

/-- A call goes on or has returned exactly when it has not raised. -/
theorem none_raised_iff
    : NoneRaised requests state
      ↔ ∀ number < requests.length,
          state.phases number = .returned ∨ (step requests state ⟨number, none⟩).isSome := by
  refine forall₂_congr (fun number inside => ?_)
  have known := List.getElem?_eq_getElem inside
  have goesOn := @step_isSome_iff requests state ⟨number, none⟩ _ known
  rw [goesOn]
  cases state.phases number <;> simp

/-- Where the store is accounted for, only a call that raises breaks the promise. -/
theorem Accounted.upserted_iff (accounted : Accounted requests store state)
    : Upserted requests store state ↔ NoneRaised requests state := by
  rw [none_raised_iff]
  exact ⟨fun upserted => upserted.succeed, fun succeed => ⟨succeed, accounted.stored⟩⟩

/-- A run keeps the promise throughout exactly when in each of its steps the service reports no
other error and a secret to be created is still absent.
-/
theorem upserted_throughout_iff
    (ran : run (step requests) (.initial store) events = some last)
    : (∀ before after middle, events = before ++ after
          → run (step requests) (.initial store) before = some middle
          → Upserted requests store middle)
      ↔ Along (step requests)
          (fun state event => event.fault = none ∧ CreatesAbsent requests state event)
          (.initial store) events := by
  rw [← @along_iff_throughout _ _ (step requests) _ (Accounted requests store)
    (NoneRaised requests) (fun accounted stepped => accounted.step stepped)
    (fun _ noneRaised stepped => step_raises_none_iff noneRaised stepped) _ _ _
    accounted_initial (fun _ _ _ raised => nomatch raised) ran]
  refine forall₃_congr (fun before after middle => ?_)
  refine imp_congr_right (fun _ => imp_congr_right (fun reached => ?_))
  exact (run_accounted reached).upserted_iff

/-- The calls make at most two remote calls each, and what they write is stored. Where the
service reports no other error, the promise is kept throughout a run exactly when no step
creates a secret that another call has created since the first call missed it.
-/
theorem concurrent_upserts_iff
    (ran : run (step requests) (.initial store) events = some last)
    : events.length ≤ 2 * requests.length
      ∧ Stored requests store last
      ∧ ((∀ event ∈ events, event.fault = none)
        → ((∀ before after middle, events = before ++ after
              → run (step requests) (.initial store) before = some middle
              → Upserted requests store middle)
          ↔ Along (step requests) (CreatesAbsent requests) (.initial store) events)) := by
  refine ⟨run_at_most_two ran, (run_accounted ran).stored, fun faultless => ?_⟩
  rw [upserted_throughout_iff ran]
  constructor
  · exact Along.imp (fun _ _ both => both.2)
  · intro absent
    exact (absent.and_of_forall faultless).imp (fun _ _ both => ⟨both.2, both.1⟩)

-----------------------------------------------------------------------------------------
-- Calls that cannot meet
-----------------------------------------------------------------------------------------

/-- No two calls share a reference that the store does not have yet. -/
def Unshared (requests : List Request) (store : SecretStore) : Prop :=
  ∀ (number other : Nat) (left right : Request),
    requests[number]? = some left → requests[other]? = some right
    → left.secretRef = right.secretRef → store left.secretRef = none → number = other

/-- The store is accounted for, and the secret of a call about to create it is absent. -/
structure Apart (requests : List Request) (store : SecretStore) (state : State) : Prop where
  accounted : Accounted requests store state
  absent
    : ∀ number request, requests[number]? = some request
        → state.phases number = .creating → state.store request.secretRef = none

/-- A secret is never removed. -/
theorem Accounted.absent_before {secretRef : String}
    (accounted : Accounted requests store state) (absent : state.store secretRef = none)
    : store secretRef = none := by
  rcases accounted secretRef with ⟨_, _, _, stored⟩ | ⟨_, same⟩
  · cases absent.symm.trans stored
  · exact same.symm.trans absent

/-- Calls that share no missing reference leave each other's absent, by cases of the step. -/
theorem Apart.step (unshared : Unshared requests store) (apart : Apart requests store state)
    (stepped : step requests state event = some next)
    : Apart requests store next := by
  refine ⟨apart.accounted.step stepped, ?_⟩
  intro number request known creating
  cases step_takes stepped with
  | @wrote writer wrote faultless ready =>
      rcases eq_or_ne number event.number with rfl | other
      · rw [State.moved_phases_self] at creating
        cases creating
      · rw [State.moved_phases_of_ne state other] at creating
        have absent := apart.absent number request known creating
        have differ : request.secretRef ≠ writer.secretRef := by
          intro same
          exact other (unshared number event.number request writer known wrote same
            (apart.accounted.absent_before absent))
        exact (writer.written_of_ne state.store differ).trans absent
  | @missed writer missed faultless updating absent =>
      rcases eq_or_ne number event.number with rfl | other
      · cases known.symm.trans missed
        exact absent
      · rw [State.moved_phases_of_ne state other] at creating
        exact apart.absent number request known creating
  | failed failed cause =>
      rcases eq_or_ne number event.number with rfl | other
      · rw [State.moved_phases_self] at creating
        cases creating
      · rw [State.moved_phases_of_ne state other] at creating
        exact apart.absent number request known creating

theorem step_missed {number : Nat} {request : Request}
    (known : requests[number]? = some request) (updating : state.phases number = .updating)
    (absent : state.store request.secretRef = none)
    : step requests state ⟨number, none⟩
      = some (state.moved number (state.store, .creating)) := by
  simp only [step, known, updating, Request.next, putSecretValue, absent, Option.map_some]

theorem step_created {number : Nat} {request : Request}
    (known : requests[number]? = some request) (creating : state.phases number = .creating)
    (absent : state.store request.secretRef = none)
    : step requests state ⟨number, none⟩
      = some (state.moved number (request.written state.store, .returned)) := by
  simp only [step, known, creating, Request.next, createSecret, absent, Option.map_some,
    Request.written]

theorem step_exists {number : Nat} {request : Request} {secret : SecretString}
    (known : requests[number]? = some request) (creating : state.phases number = .creating)
    (present : state.store request.secretRef = some secret)
    : step requests state ⟨number, none⟩
      = some (state.moved number
          (state.store, .raised (saveFailed request.secretRef .resourceExists))) := by
  simp only [step, known, creating, Request.next, createSecret, present, Option.map_some]

/-- Two calls with one missing reference: both miss it, and the second to create it raises. -/
theorem shared_raises {number other : Nat} {left right : Request}
    (first : requests[number]? = some left) (second : requests[other]? = some right)
    (same : left.secretRef = right.secretRef) (absent : store left.secretRef = none)
    (differ : number ≠ other)
    : ∃ last,
        run (step requests) (.initial store)
            [⟨number, none⟩, ⟨other, none⟩, ⟨number, none⟩, ⟨other, none⟩]
          = some last
        ∧ last.phases other = .raised (saveFailed right.secretRef .resourceExists) := by
  have absentRight : store right.secretRef = none := same ▸ absent
  refine ⟨_, run_cons_iff.mpr ⟨_, step_missed first rfl absent,
    run_cons_iff.mpr ⟨_, step_missed second ?_ absentRight,
      run_cons_iff.mpr ⟨_, step_created first ?_ absent,
        run_cons_iff.mpr ⟨_, @step_exists _ _ _ _ (.decoded (credentialsJson left.credentials))
          second ?_ ?_, rfl⟩⟩⟩⟩, ?_⟩
  · rw [State.moved_phases_of_ne _ differ.symm]
    rfl
  · rw [State.moved_phases_of_ne _ differ, State.moved_phases_self]
  · rw [State.moved_phases_of_ne _ differ.symm, State.moved_phases_self]
  · exact same ▸ left.written_self _
  · rw [State.moved_phases_self]

/-- Every interleaving keeps the promise exactly when no two of the calls share a reference
that is not stored yet.
-/
theorem upserts_in_any_order_iff
    : (∀ events last, run (step requests) (.initial store) events = some last
          → (∀ event ∈ events, event.fault = none) → Upserted requests store last)
      ↔ Unshared requests store := by
  constructor
  · intro always number other left right first second same absent
    by_contra differ
    obtain ⟨last, ran, raised⟩ := shared_raises first second same absent differ
    have upserted := always _ last ran (by simp)
    have inside := (List.getElem?_eq_some_iff.mp second).1
    exact none_raised_iff.mpr upserted.succeed other inside _ raised
  · intro unshared events last ran faultless
    have absent : Along (step requests) (CreatesAbsent requests) (.initial store) events :=
      along_of_invariant (Apart.step unshared)
        (fun _ event apart request known creating =>
          apart.absent event.number request known creating)
        ⟨accounted_initial, fun _ _ _ creating => nomatch creating⟩ events
    have kept := (upserted_throughout_iff ran).mpr
      ((absent.and_of_forall faultless).imp (fun _ _ both => ⟨both.2, both.1⟩))
    exact kept events [] last (List.append_nil events).symm ran

-----------------------------------------------------------------------------------------
-- A call alone
-----------------------------------------------------------------------------------------

/-- A call that meets no other is the atomic `put_secret`: where that returns, so does the call,
with the same store.
-/
theorem putSecret_alone {request : Request} {written : SecretStore}
    (put
      : putSecret store none request.secretRef (credentialsJson request.credentials)
        = .ok written)
    : ∃ events last,
        run (step [request]) (.initial store) events = some last
        ∧ last.store = written
        ∧ last.phases 0 = .returned := by
  obtain ⟨_, rfl⟩ := putSecret_ok_iff.mp put
  cases stored : store request.secretRef with
  | none =>
      refine ⟨[⟨0, none⟩, ⟨0, none⟩], _, run_cons_iff.mpr ⟨_, step_missed rfl rfl stored,
        run_cons_iff.mpr ⟨_, step_created rfl (State.moved_phases_self ..) stored, rfl⟩⟩,
        rfl, State.moved_phases_self ..⟩
  | some secret =>
      refine ⟨[⟨0, none⟩], (State.initial store).moved 0 (request.written store, .returned), ?_,
        rfl, State.moved_phases_self ..⟩
      simp only [run, step, State.initial, Request.next, putSecretValue, stored,
        List.getElem?_cons_zero, Option.map_some, Request.written]

/-- Where the atomic `put_secret` raises the error of the service, so does the call. -/
theorem putSecret_alone_raises {request : Request} {text : String} {exception : PyException}
    (put
      : putSecret store (some text) request.secretRef (credentialsJson request.credentials)
        = .error exception)
    : ∃ last,
        run (step [request]) (.initial store) [⟨0, some text⟩] = some last
        ∧ last.store = store
        ∧ last.phases 0 = .raised exception := by
  cases put
  exact ⟨_, rfl, rfl, State.moved_phases_self ..⟩

end

namespace Sample

/-- Two calls for one reference. -/
def requests : List Request :=
  [⟨"orchestrator/2/razorpay", [("api_key", "first"), ("api_secret", "s")]⟩,
    ⟨"orchestrator/2/razorpay", [("api_key", "second"), ("api_secret", "t")]⟩]

/-- Both calls update before one of them creates. -/
def crossed : List Event :=
  [⟨0, none⟩, ⟨1, none⟩, ⟨0, none⟩, ⟨1, none⟩]

/-- One call after the other. -/
def inTurn : List Event :=
  [⟨0, none⟩, ⟨0, none⟩, ⟨1, none⟩]

end Sample

/-- Two calls that both find a reference missing: the second to create it raises, although the
service reports no other error.
-/
theorem second_creation_raises
    : ∃ last,
        run (step Sample.requests) (.initial (fun _ => none)) Sample.crossed = some last
        ∧ (∀ event ∈ Sample.crossed, event.fault = none)
        ∧ last.phases 0 = .returned
        ∧ last.phases 1 = .raised (saveFailed "orchestrator/2/razorpay" .resourceExists)
        ∧ ¬ Upserted Sample.requests (fun _ => none) last := by
  refine ⟨_, rfl, by decide, rfl, rfl, ?_⟩
  intro upserted
  rcases upserted.succeed 1 Nat.one_lt_two with returned | goesOn
  · cases returned
  · cases goesOn

/-- One call after the other on a reference that is missing at first. -/
theorem upserts_in_turn
    : ∃ last,
        run (step Sample.requests) (.initial (fun _ => none)) Sample.inTurn = some last
        ∧ Sample.inTurn.length ≤ 2 * Sample.requests.length
        ∧ Upserted Sample.requests (fun _ => none) last := by
  have all := @concurrent_upserts_iff Sample.requests (fun _ => none) _ Sample.inTurn rfl
  refine ⟨_, rfl, all.1, ?_⟩
  apply (all.2.2 (by decide)).mpr _ Sample.inTurn [] _ rfl rfl
  refine Along.cons ?_ rfl (Along.cons ?_ rfl (Along.cons ?_ rfl trivial))
  · intro request known creating
    cases creating
  · intro request known creating
    cases known
    rfl
  · intro request known creating
    cases creating

end Turbocat.Orchestrator.SecretUpserts
