import Mathlib
import HostTools.Proofs.Fetch.Stages
import HostTools.Proofs.Target.Literal

set_option autoImplicit false

namespace HostTools

namespace Duration

def exactMillis (duration : Duration) : Nat := duration.secs.toNat * 1000 + duration.nanos.toNat / 1000000

theorem millis_value (duration : Duration) : duration.millis.toNat = duration.exactMillis % 2 ^ 64 :=
  UInt64.toNat_ofNat'

-- The last timeout that fits ends within the second 18446744073709551.
theorem exact_fits (duration : Duration) (carried : duration.nanos.toNat < 1000000000) :
    duration.exactMillis < 2 ^ 64 ↔ duration.secs.toNat < 18446744073709551 ∨
      duration.secs.toNat = 18446744073709551 ∧ duration.nanos.toNat < 616000000 := by
  unfold exactMillis
  omega

end Duration

namespace Fetch

-- The events of a fetch that starts with nothing logged.
def logged (readiness : Request → Readiness) (answer : Request → Target → Answer) (request : Request) : List Event :=
  ((tryFetch (Stub.client readiness answer) Stub.log request).run .empty).2.events

-- A fetch announces its request with this timeout.
def Announces (readiness : Request → Readiness) (answer : Request → Target → Answer) (request : Request) (number : Int) :
    Prop :=
  ∃ event ∈ logged readiness answer request, event.message = announcement ∧
    ("timeout_ms", .number number) ∈ event.fields

theorem sending_timeout (request : Request) (target : Target) (number : Int) :
    ("timeout_ms", .number number) ∈ (sending request target).fields ↔ number = request.timeout.millis.toNat := by
  simp [sending]

section

variable (readiness : Request → Readiness) (answer : Request → Target → Answer) (request : Request) (target : Target)
  (own : Handed readiness request target)

include own

theorem logged_handed :
    logged readiness answer request =
      sending request target :: ((answer request target).status?.map received).toList := by
  rw [logged, try_fetch_handed readiness answer request target .empty own]
  rfl

theorem announced_once :
    (logged readiness answer request).filter (fun event => event.message = announcement) = [sending request target] := by
  rw [logged_handed readiness answer request target own, List.filter_cons_of_pos (by simp [sending, announcement]),
    List.filter_eq_nil_iff.mpr]
  intro event member
  simpa using received_other (answer request target) event member

theorem announces_iff (number : Int) :
    Announces readiness answer request number ↔ number = (request.timeout.exactMillis % 2 ^ 64 : Nat) := by
  rw [← Duration.millis_value, ← sending_timeout request target, Announces,
    logged_handed readiness answer request target own]
  constructor
  · rintro ⟨event, member, message, field⟩
    rcases List.mem_cons.mp member with rfl | later
    · exact field
    · exact absurd message (received_other (answer request target) event later)
  · intro field
    exact ⟨sending request target, List.mem_cons_self, rfl, field⟩

end

theorem timeout_logged (readiness : Request → Readiness) (answer : Request → Target → Answer) (request : Request)
    (target : Target) (own : Handed readiness request target) :
    (∃ event, (logged readiness answer request).filter (fun event => event.message = announcement) = [event]) ∧
      (∀ number, Announces readiness answer request number ↔
        number = (request.timeout.exactMillis % 2 ^ 64 : Nat)) ∧
      (Announces readiness answer request request.timeout.exactMillis ↔ request.timeout.exactMillis < 2 ^ 64) ∧
      (request.timeout.nanos.toNat < 1000000000 →
        (request.timeout.exactMillis < 2 ^ 64 ↔ request.timeout.secs.toNat < 18446744073709551 ∨
          request.timeout.secs.toNat = 18446744073709551 ∧ request.timeout.nanos.toNat < 616000000)) ∧
      ∀ longer place number greater, Handed readiness longer place →
        request.timeout.exactMillis ≤ longer.timeout.exactMillis → longer.timeout.exactMillis < 2 ^ 64 →
        Announces readiness answer request number → Announces readiness answer longer greater → number ≤ greater := by
  refine ⟨⟨_, announced_once readiness answer request target own⟩, announces_iff readiness answer request target own, ?_,
    request.timeout.exact_fits, ?_⟩
  · rw [announces_iff readiness answer request target own]
    omega
  · intro longer place number greater also order fits first second
    rw [announces_iff readiness answer request target own] at first
    rw [announces_iff readiness answer longer place also] at second
    rw [first, second, Nat.mod_eq_of_lt fits, Nat.mod_eq_of_lt (Nat.lt_of_le_of_lt order fits)]
    exact Int.ofNat_le.mpr order

-- Requests for these runs: only the timeout matters, so it is left open.
def patient (timeout : Duration) : Request := { host := "127.0.0.1", port := 8080, timeout }

theorem patient_handed (timeout : Duration) : ∃ target, Handed (fun _ => .ready) (patient timeout) target := by
  have denotes : Address.host? "127.0.0.1" = some (.ipv4 .loopback) := by decide
  have token : Target.isToken "GET".toList = true := by decide
  have origin : (patient timeout).hasOriginForm = true := by simp [Request.hasOriginForm, patient]
  exact ⟨_, Target.of_request_literal (patient timeout) (.ipv4 .loopback) denotes token origin, rfl⟩

-- The last millisecond that fits.
theorem timeout_logged_last :
    (∃ target, Handed (fun _ => .ready) (patient ⟨18446744073709551, 615000000⟩) target) ∧
      Announces (fun _ => .ready) (fun _ _ => .unsent .timeout) (patient ⟨18446744073709551, 615000000⟩)
        18446744073709551615 := by
  obtain ⟨target, handed⟩ := patient_handed ⟨18446744073709551, 615000000⟩
  obtain ⟨-, value, -⟩ := timeout_logged (fun _ => .ready) (fun _ _ => .unsent .timeout) _ target handed
  exact ⟨⟨target, handed⟩, (value _).mpr (by decide)⟩

-- A second more than fits: what is left of it is less than the timeout of a second.
theorem long_timeout_logged_short :
    Announces (fun _ => .ready) (fun _ _ => .unsent .timeout) (patient (.ofSecs 18446744073709552)) 384 ∧
      ¬ Announces (fun _ => .ready) (fun _ _ => .unsent .timeout) (patient (.ofSecs 18446744073709552))
        18446744073709552000 ∧
      Announces (fun _ => .ready) (fun _ _ => .unsent .timeout) (patient (.ofSecs 1)) 1000 := by
  obtain ⟨target, long⟩ := patient_handed (.ofSecs 18446744073709552)
  obtain ⟨place, short⟩ := patient_handed (.ofSecs 1)
  rw [announces_iff _ _ _ target long, announces_iff _ _ _ target long, announces_iff _ _ _ place short]
  decide

end Fetch

end HostTools
