import Mathlib
import HostTools.Proofs.Command.Steps
import HostTools.Proofs.Fetch.Stages

set_option autoImplicit false

namespace HostTools.Stub

-- A call of a stand-in for a fetcher.
inductive Call where
  | fetch (request : Request)
  | attempt (request : Request)

inductive Reply where
  | body (found : Option Bytes)
  | result (result : Except FetchFailure Bytes)

namespace Call

def request : Call → Request
  | .fetch request => request
  | .attempt request => request

def fetched? : Call → Option Request
  | .fetch request => some request
  | .attempt _ => none

def perform (response : Except FetchFailure Bytes) : Call → Recorder Request Reply
  | .fetch request => do
      let found ← Fetch.fetch (Stub.attempt response) log request
      pure (.body found)
  | .attempt request => do
      let result ← Stub.attempt response request
      pure (.result result)

-- What a call comes to, said apart from how it is made.
def reply (response : Except FetchFailure Bytes) : Call → Reply
  | .fetch _ => .body response.toOption
  | .attempt _ => .result response

def warnings (response : Except FetchFailure Bytes) (call : Call) : List Event :=
  match response with
  | .ok _ => []
  | .error failure => (call.fetched?.map fun request => Fetch.absent request failure).toList

end Call

-- A run of a stand-in for a runner: the arguments of a command, and the steps that describe the rest.
structure Job where
  argv : List String
  steps : List Command.Step

namespace Job

def command? (job : Job) : Option Command := (Command.build job.argv job.steps).toOption

def perform (behavior : Behavior) (job : Job) : Recorder Command (Except CommandError (Except RunFailure Bytes)) :=
  match Command.build job.argv job.steps with
  | .error error => pure (.error error)
  | .ok command => do
      let result ← runner behavior command
      pure (.ok result)

def reply (behavior : Behavior) (job : Job) : Except CommandError (Except RunFailure Bytes) :=
  (Command.build job.argv job.steps).map behavior.result

end Job

-- What each call of a run returns, with the recording after it.
def history {α β γ : Type} (perform : β → Recorder α γ) : Recording α → List β → List (γ × Recording α)
  | _, [] => []
  | before, item :: more => (perform item).run before :: history perform ((perform item).run before).2 more

theorem Recording.extend_extend {α : Type} (recording : Recording α) (calls more : List α) (events others : List Event) :
    (recording.extend calls events).extend more others = recording.extend (calls ++ more) (events ++ others) := by
  simp [Recording.extend]

-- A step that only adds to the recording makes a run that adds up the steps.
theorem history_entry {α β γ : Type} (perform : β → Recorder α γ) (reply : β → γ) (calls : β → List α)
    (events : β → List Event)
    (step : ∀ item before, (perform item).run before = (reply item, before.extend (calls item) (events item)))
    (before : Recording α) (front : List β) (item : β) (back : List β) :
    (history perform before (front ++ item :: back))[front.length]? =
      some (reply item, before.extend ((front ++ [item]).flatMap calls) ((front ++ [item]).flatMap events)) := by
  induction front generalizing before with
  | nil =>
      rw [List.nil_append, history, step]
      simp
  | cons first front ih =>
      rw [List.cons_append, history, List.length_cons, List.getElem?_cons_succ, ih, step, Recording.extend_extend]
      rfl

theorem call_run (response : Except FetchFailure Bytes) (call : Call) (before : Recording Request) :
    (call.perform response).run before =
      (call.reply response, before.extend [call.request] (call.warnings response)) := by
  cases call with
  | attempt request =>
      have silent : (Call.attempt request).warnings response = [] := by cases response <;> rfl
      rw [silent, Recording.extend, List.append_nil]
      rfl
  | fetch request =>
      have noted : (attempt response request).run before = (response, before.extend [request] []) := by
        rw [Recording.extend, List.append_nil]
        rfl
      cases response with
      | ok body =>
          have done := Fetch.fetch_found (attempt (.ok body)) request body before _ noted
          simp only [Call.perform, StateT.run_bind, done]
          rfl
      | error failure =>
          have done := Fetch.fetch_absent (attempt (.error failure)) request failure before _ noted
          simp only [Call.perform, StateT.run_bind, done, Recording.extend_extend]
          rfl

theorem job_run (behavior : Behavior) (job : Job) (before : Recording Command) :
    (job.perform behavior).run before = (job.reply behavior, before.extend job.command?.toList []) := by
  unfold Job.perform Job.reply Job.command?
  cases Command.build job.argv job.steps with
  | error error =>
      rw [Except.toOption, Option.toList_none, before.extend_nil]
      rfl
  | ok command =>
      rw [Except.toOption, Option.toList_some, Recording.extend, List.append_nil]
      simp only [runner, StateT.run_bind, answering_run]
      rfl

theorem calls_warned (failure : FetchFailure) (calls : List Call) :
    List.Forall₂ (Warns failure) (calls.filterMap Call.fetched?) (calls.flatMap (Call.warnings (.error failure))) := by
  induction calls with
  | nil => exact .nil
  | cons call calls ih =>
      cases call with
      | attempt request => exact ih
      | fetch request => exact .cons ⟨rfl, rfl⟩ ih

theorem calls_silent (body : Bytes) (calls : List Call) : calls.flatMap (Call.warnings (.ok body)) = [] := by
  apply List.flatMap_eq_nil_iff.mpr
  intro call _
  rfl

theorem jobs_argv (jobs : List Job) :
    (jobs.filterMap Job.command?).map Command.argv = (jobs.map Job.argv).filter fun argv => argv ≠ [] := by
  induction jobs with
  | nil => rfl
  | cons job jobs ih =>
      obtain ⟨argv, steps⟩ := job
      cases argv with
      | nil => exact ih
      | cons program args =>
          have made : Job.command? ⟨program :: args, steps⟩ =
              some (steps.foldl Command.Step.apply ⟨program, args, none, none⟩) := rfl
          rw [List.filterMap_cons_some made, List.map_cons, Command.steps_argv, ih, List.map_cons,
            List.filter_cons_of_pos (by simp)]
          rfl

theorem calls_recorded (response : Except FetchFailure Bytes) (behavior : Behavior) :
    (∀ front call back, ∃ reply recording,
      (history (Call.perform response) .empty (front ++ call :: back))[front.length]? = some (reply, recording) ∧
      recording.calls = (front ++ [call]).map Call.request ∧
      (∀ request, call = .attempt request → reply = .result response) ∧
      (∀ request, call = .fetch request → ∃ found, reply = .body found ∧ ∀ body, found = some body ↔ response = .ok body) ∧
      (∀ body, response = .ok body → recording.events = []) ∧
      ∀ failure, response = .error failure →
        List.Forall₂ (Warns failure) ((front ++ [call]).filterMap Call.fetched?) recording.events) ∧
      ∀ front job back, ∃ reply recording,
        (history (Job.perform behavior) .empty (front ++ job :: back))[front.length]? = some (reply, recording) ∧
        recording.calls = (front ++ [job]).filterMap Job.command? ∧
        recording.calls.map Command.argv = ((front ++ [job]).map Job.argv).filter (fun argv => argv ≠ []) ∧
        recording.events = [] ∧
        (job.argv = [] → reply = .error .empty) ∧
        (∀ stdout, job.argv ≠ [] → behavior = .succeed stdout → reply = .ok (.ok stdout)) ∧
        ∀ code output, job.argv ≠ [] → behavior = .fail code output →
          reply = .ok (.error (.failed job.argv code output)) := by
  constructor
  · intro front call back
    have entry := history_entry _ _ (fun call => [call.request]) _ (call_run response) .empty front call back
    rw [← List.map_eq_flatMap, Recording.extend] at entry
    refine ⟨_, _, entry, rfl, ?_, ?_, ?_, ?_⟩
    · rintro request rfl
      rfl
    · rintro request rfl
      refine ⟨response.toOption, rfl, ?_⟩
      intro body
      cases response <;> simp [Except.toOption]
    · rintro body rfl
      exact calls_silent body (front ++ [call])
    · rintro failure rfl
      exact calls_warned failure (front ++ [call])
  · intro front job back
    have entry := history_entry _ _ (fun job => job.command?.toList) (fun _ => []) (job_run behavior) .empty front job back
    rw [← List.filterMap_eq_flatMap_toList, Recording.extend] at entry
    refine ⟨_, _, entry, rfl, jobs_argv (front ++ [job]), List.flatMap_eq_nil_iff.mpr (by simp), ?_, ?_, ?_⟩
    · intro unnamed
      rw [Job.reply, unnamed]
      rfl
    · rintro stdout named rfl
      obtain ⟨command, built, -⟩ := Command.build_named job.argv job.steps named
      rw [Job.reply, built]
      rfl
    · rintro code output named rfl
      obtain ⟨command, built, argv⟩ := Command.build_named job.argv job.steps named
      rw [Job.reply, built, ← argv]
      rfl

end HostTools.Stub
