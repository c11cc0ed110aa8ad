import Mathlib
import HostTools.Stub
import HostTools.Proofs.Url.Authority

set_option autoImplicit false

namespace HostTools

-- The credentials are read first, then the client is built.
inductive Readiness where
  | ready
  | unusable (detail : String)
  | unbuilt (detail : Option String)
deriving DecidableEq

def Readiness.result : Readiness → Except FetchFailure Unit
  | .ready => .ok ()
  | .unusable detail => .error (.credentials detail)
  | .unbuilt detail => .error (.transport detail)

theorem Readiness.result_ready (readiness : Readiness) (done : Unit) (known : readiness.result = .ok done) :
    readiness = .ready := by
  cases readiness with
  | ready => rfl
  | unusable detail => cases known
  | unbuilt detail => cases known

theorem Readiness.result_early (readiness : Readiness) (failure : FetchFailure) (known : readiness.result = .error failure) :
    failure ≠ .timeout ∧ ∀ status, failure ≠ .status status := by
  cases readiness with
  | ready => cases known
  | unusable detail =>
      cases known
      simp
  | unbuilt detail =>
      cases known
      simp

def Answer.status? : Answer → Option Nat
  | .unsent _ => none
  | .response status _ => some status

namespace Stub

def Recording.extend {α : Type} (recording : Recording α) (calls : List α) (events : List Event) : Recording α :=
  ⟨recording.calls ++ calls, recording.events ++ events⟩

theorem Recording.extend_nil {α : Type} (recording : Recording α) : recording.extend [] [] = recording := by
  rw [Recording.extend, List.append_nil, List.append_nil]

def client (readiness : Request → Readiness) (answer : Request → Target → Answer) :
    Client (Recorder (Request × Target)) where
  prepare request := pure (readiness request).result
  send request target := do
    note (request, target)
    pure (answer request target)

-- A warning that a fetch of a request has come to nothing.
def Warns (failure : FetchFailure) (request : Request) (event : Event) : Prop :=
  event.level = .warn ∧
    event.fields = [("url", .text request.url), ("method", .text request.method), ("reason", .text failure.message)]

end Stub

namespace Fetch

-- The texts and the fields of events are written out here, apart from the fetch.
def announcement : String := "Sending HTTP request"

def Sends (request : Request) (target : Target) (event : Event) : Prop :=
  event.level = .debug ∧ event.message = announcement ∧
    event.fields = [("method", .text request.method), ("url", .text target.url.text), ("tls", .bool request.usesTls),
      ("timeout_ms", .number request.timeout.millis.toNat)]

def Receives (status : Nat) (event : Event) : Prop :=
  event.level = .debug ∧ event.message = "HTTP response received" ∧ event.fields = [("status", .number status)]

def Handed (readiness : Request → Readiness) (request : Request) (target : Target) : Prop :=
  Target.ofRequest request = .ok target ∧ readiness request = .ready

-- How far a fetch comes: its result, what it hands over and what it logs.
inductive Staged (readiness : Request → Readiness) (answer : Request → Target → Answer) (request : Request) :
    Except FetchFailure Bytes → List (Request × Target) → List Event → Prop
  | unread (error : TargetError) (known : Target.ofRequest request = .error error) :
      Staged readiness answer request (.error (.invalidRequest error.message)) [] []
  | unready (target : Target) (failure : FetchFailure) (known : Target.ofRequest request = .ok target)
      (failed : (readiness request).result = .error failure) :
      Staged readiness answer request (.error failure) [] []
  | handed (target : Target) (own : Handed readiness request target) :
      Staged readiness answer request (outcome (answer request target)) [(request, target)]
        (sending request target :: ((answer request target).status?.map received).toList)

theorem log_status_run (answer : Answer) (before : Stub.Recording (Request × Target)) :
    (logStatus Stub.log answer).run before = ((), before.extend [] (answer.status?.map received).toList) := by
  cases answer with
  | unsent reason =>
      rw [Answer.status?, Option.map_none, Option.toList_none, before.extend_nil]
      rfl
  | response status body =>
      rw [Stub.Recording.extend, List.append_nil]
      rfl

theorem try_fetch_unready (readiness : Request → Readiness) (answer : Request → Target → Answer) (request : Request)
    (target : Target) (failure : FetchFailure) (before : Stub.Recording (Request × Target))
    (known : Target.ofRequest request = .ok target) (failed : (readiness request).result = .error failure) :
    (tryFetch (Stub.client readiness answer) Stub.log request).run before = (.error failure, before) := by
  simp only [tryFetch, known, Stub.client, failed]
  rfl

theorem try_fetch_handed (readiness : Request → Readiness) (answer : Request → Target → Answer) (request : Request)
    (target : Target) (before : Stub.Recording (Request × Target)) (own : Handed readiness request target) :
    (tryFetch (Stub.client readiness answer) Stub.log request).run before =
      (outcome (answer request target), before.extend [(request, target)]
        (sending request target :: ((answer request target).status?.map received).toList)) := by
  have sent : (tryFetch (Stub.client readiness answer) Stub.log request).run before =
      (outcome (answer request target), ((logStatus Stub.log (answer request target)).run
        ⟨before.calls ++ [(request, target)], before.events ++ [sending request target]⟩).2) := by
    simp only [tryFetch, own.1, Stub.client, own.2]
    rfl
  rw [sent, log_status_run]
  simp [Stub.Recording.extend]

theorem try_fetch_staged (readiness : Request → Readiness) (answer : Request → Target → Answer) (request : Request)
    (before : Stub.Recording (Request × Target)) :
    ∃ result calls events, Staged readiness answer request result calls events ∧
      (tryFetch (Stub.client readiness answer) Stub.log request).run before =
        (result, before.extend calls events) := by
  cases known : Target.ofRequest request with
  | error error =>
      refine ⟨_, _, _, .unread error known, ?_⟩
      rw [tryFetch, known, before.extend_nil]
      rfl
  | ok target =>
      cases prepared : (readiness request).result with
      | error failure =>
          refine ⟨_, _, _, .unready target failure known prepared, ?_⟩
          rw [try_fetch_unready readiness answer request target failure before known prepared, before.extend_nil]
      | ok done =>
          have ready := Readiness.result_ready (readiness request) done prepared
          exact ⟨_, _, _, .handed target ⟨known, ready⟩,
            try_fetch_handed readiness answer request target before ⟨known, ready⟩⟩

theorem outcome_body (answer : Answer) (body : Bytes) :
    outcome answer = .ok body ↔ answer = .response 200 (.ok body) := by
  cases answer with
  | unsent reason => simp [outcome]
  | response status found =>
      by_cases fine : status = 200
      · cases found <;> simp [outcome, fine]
      · simp [outcome, fine]

theorem failure_status (reason : Break) (status : Nat) : reason.failure ≠ .status status := by
  cases reason <;> simp [Break.failure]

theorem failure_timeout (reason : Break) : reason.failure = .timeout ↔ reason = .timeout := by
  cases reason <;> simp [Break.failure]

theorem outcome_status (answer : Answer) (status : Nat) :
    outcome answer = .error (.status status) ↔ status ≠ 200 ∧ ∃ body, answer = .response status body := by
  cases answer with
  | unsent reason => simp [outcome, failure_status]
  | response other body =>
      by_cases fine : other = 200
      · subst fine
        refine iff_of_false ?_ ?_
        · cases body <;> simp [outcome, failure_status]
        · rintro ⟨different, found, same⟩
          cases same
          exact different rfl
      · simp only [outcome, if_neg fine, Except.error.injEq, FetchFailure.status.injEq, Answer.response.injEq]
        constructor
        · rintro rfl
          exact ⟨fine, body, rfl, rfl⟩
        · rintro ⟨-, -, same, -⟩
          exact same

theorem outcome_timeout (answer : Answer) :
    outcome answer = .error .timeout ↔ answer = .unsent .timeout ∨ answer = .response 200 (.error .timeout) := by
  cases answer with
  | unsent reason => simp [outcome, failure_timeout]
  | response status body =>
      by_cases fine : status = 200
      · cases body <;> simp [outcome, fine, failure_timeout]
      · simp [outcome, fine]

section

variable (readiness : Request → Readiness) (answer : Request → Target → Answer) (request : Request)
  (result : Except FetchFailure Bytes) (calls : List (Request × Target)) (events : List Event)
  (staged : Staged readiness answer request result calls events)

include staged

theorem staged_kept (kept : ¬ ∃ target, Handed readiness request target) : calls = [] ∧ events = [] := by
  cases staged with
  | unread error known => exact ⟨rfl, rfl⟩
  | unready target failure known failed => exact ⟨rfl, rfl⟩
  | handed target own => exact absurd ⟨target, own⟩ kept

theorem staged_unread (error : TargetError) (unread : Target.ofRequest request = .error error) :
    result = .error (.invalidRequest error.message) := by
  cases staged with
  | unread other known => rw [Except.error.inj (known.symm.trans unread)]
  | unready target failure known failed => cases known.symm.trans unread
  | handed target own => cases own.1.symm.trans unread

theorem staged_unready (target : Target) (failure : FetchFailure) (read : Target.ofRequest request = .ok target)
    (unready : (readiness request).result = .error failure) : result = .error failure := by
  cases staged with
  | unread error known => cases known.symm.trans read
  | unready other own known failed => rw [Except.error.inj (failed.symm.trans unready)]
  | handed other own =>
      rw [own.2] at unready
      cases unready

theorem staged_handed (target : Target) (own : Handed readiness request target) :
    result = outcome (answer request target) ∧ calls = [(request, target)] ∧
      events = sending request target :: ((answer request target).status?.map received).toList := by
  cases staged with
  | unread error known => cases known.symm.trans own.1
  | unready other failure known failed =>
      rw [own.2] at failed
      cases failed
  | handed other again =>
      obtain rfl := Except.ok.inj (again.1.symm.trans own.1)
      exact ⟨rfl, rfl, rfl⟩

-- Bodies, statuses and timeouts come from answers only.
theorem staged_result (wanted : Except FetchFailure Bytes)
    (late : ∀ failure, wanted = .error failure → failure = .timeout ∨ ∃ status, failure = .status status) :
    result = wanted ↔ ∃ target, Handed readiness request target ∧ outcome (answer request target) = wanted := by
  constructor
  · rintro rfl
    cases staged with
    | unread error known => simpa using late _ rfl
    | unready target failure known failed =>
        obtain ⟨timely, silent⟩ := Readiness.result_early (readiness request) failure failed
        rcases late failure rfl with timeout | ⟨status, told⟩
        · exact absurd timeout timely
        · exact absurd told (silent status)
    | handed target own => exact ⟨target, own, rfl⟩
  · rintro ⟨target, own, same⟩
    rw [(staged_handed readiness answer request result calls events staged target own).1, same]

end

theorem fetch_found {α : Type} (attempt : Request → Stub.Recorder α (Except FetchFailure Bytes))
    (request : Request) (body : Bytes) (before after : Stub.Recording α)
    (done : (attempt request).run before = (.ok body, after)) :
    (fetch attempt Stub.log request).run before = (some body, after) := by
  simp only [fetch, StateT.run_bind, done]
  rfl

theorem fetch_absent {α : Type} (attempt : Request → Stub.Recorder α (Except FetchFailure Bytes))
    (request : Request) (failure : FetchFailure) (before after : Stub.Recording α)
    (done : (attempt request).run before = (.error failure, after)) :
    (fetch attempt Stub.log request).run before = (none, after.extend [] [absent request failure]) := by
  rw [Stub.Recording.extend, List.append_nil]
  simp only [fetch, StateT.run_bind, done]
  rfl

theorem sending_sends (request : Request) (target : Target) (known : Target.ofRequest request = .ok target) :
    Sends request target (sending request target) := by
  obtain ⟨-, -, method, -⟩ := (Target.of_request_iff request target).mp known
  rw [Sends, ← method]
  exact ⟨rfl, rfl, rfl⟩

theorem received_receives (status : Nat) : Receives status (received status) := ⟨rfl, rfl, rfl⟩

theorem received_other (answer : Answer) : ∀ event ∈ (answer.status?.map received).toList, event.message ≠ announcement := by
  cases answer with
  | unsent reason => simp [Answer.status?]
  | response status body => simp [Answer.status?, received, announcement]

-- The announcement has no field for a status, so that only an answer can bring one.
theorem status_logged (request : Request) (target : Target) (answer : Answer) (status : Nat) :
    (∃ event ∈ sending request target :: (answer.status?.map received).toList,
      ("status", .number status) ∈ event.fields) ↔ ∃ body, answer = .response status body := by
  cases answer with
  | unsent reason => simp [Answer.status?, sending]
  | response other body => simp [Answer.status?, sending, received, eq_comm]

theorem staged_trace (readiness : Request → Readiness) (answer : Request → Target → Answer) (request : Request)
    (before : Stub.Recording (Request × Target)) :
    ∃ result calls events,
      (tryFetch (Stub.client readiness answer) Stub.log request).run before = (result, before.extend calls events) ∧
      ((¬ ∃ target, Handed readiness request target) → calls = [] ∧ events = []) ∧
      (∀ error, Target.ofRequest request = .error error → result = .error (.invalidRequest error.message)) ∧
      (∀ target failure, Target.ofRequest request = .ok target → (readiness request).result = .error failure →
        result = .error failure) ∧
      (∀ target, Handed readiness request target → calls = [(request, target)] ∧
        ∃ first rest, events = first :: rest ∧ Sends request target first ∧
          (∀ event ∈ rest, event.message ≠ announcement) ∧
          (∀ reason, answer request target = .unsent reason → rest = []) ∧
          (∀ status body, answer request target = .response status body → ∃ event, rest = [event] ∧ Receives status event) ∧
          ∀ status, (∃ event ∈ events, ("status", .number status) ∈ event.fields) ↔
            ∃ body, answer request target = .response status body) ∧
      (∀ body, result = .ok body ↔
        ∃ target, Handed readiness request target ∧ answer request target = .response 200 (.ok body)) ∧
      (∀ status, result = .error (.status status) ↔ ∃ target, Handed readiness request target ∧
        status ≠ 200 ∧ ∃ body, answer request target = .response status body) ∧
      (result = .error .timeout ↔ ∃ target, Handed readiness request target ∧
        (answer request target = .unsent .timeout ∨ answer request target = .response 200 (.error .timeout))) ∧
      ∃ found warnings,
        (fetch (tryFetch (Stub.client readiness answer) Stub.log) Stub.log request).run before =
          (found, before.extend calls (events ++ warnings)) ∧
        (∀ body, found = some body ↔ result = .ok body) ∧
        (found ≠ none → warnings = []) ∧
        (found = none → ∃ failure warning, result = .error failure ∧ warnings = [warning] ∧
          Stub.Warns failure request warning) := by
  obtain ⟨result, calls, events, staged, done⟩ := try_fetch_staged readiness answer request before
  have late := staged_result readiness answer request result calls events staged
  refine ⟨result, calls, events, done, staged_kept readiness answer request result calls events staged,
    staged_unread readiness answer request result calls events staged,
    staged_unready readiness answer request result calls events staged, ?_, ?_, ?_, ?_, ?_⟩
  · intro target own
    obtain ⟨-, once, logged⟩ := staged_handed readiness answer request result calls events staged target own
    refine ⟨once, _, _, logged, sending_sends request target own.1, received_other (answer request target), ?_, ?_, ?_⟩
    · intro reason answered
      rw [answered]
      rfl
    · intro status body answered
      rw [answered]
      exact ⟨received status, rfl, received_receives status⟩
    · rw [logged]
      exact status_logged request target (answer request target)
  · intro body
    rw [late (.ok body) (by simp)]
    simp only [outcome_body]
  · intro status
    rw [late (.error (.status status)) (by simp)]
    simp only [outcome_status]
  · rw [late (.error .timeout) (by simp)]
    simp only [outcome_timeout]
  · cases result with
    | ok body =>
        refine ⟨some body, [], ?_, by simp, by simp, by simp⟩
        rw [List.append_nil]
        exact fetch_found _ request body before _ done
    | error failure =>
        refine ⟨none, [absent request failure], ?_, by simp, by simp, fun _ => ⟨failure, _, rfl, rfl, rfl, rfl⟩⟩
        rw [fetch_absent _ request failure before _ done]
        simp [Stub.Recording.extend]

end Fetch

end HostTools
