import HelpForge.Chatbot.Replay
import HelpForge.Chatbot.Signing

set_option autoImplicit false

namespace HelpForge.Chatbot

open Lib
open Program (run_bind)

variable {Address Network : Type} {α : Type}

/-- The result is a value or the answer 403. -/
def Refuses (result : Except Exception α) : Prop :=
  ∀ failure, result = .error failure → failure = forbidden

/-- As far as a signature is read, the timestamp is within the range of a float and the
signature is written in ASCII. -/
def SignatureLegible (settings : SecuritySettings) (request : Request) (now : Nat) : Prop :=
  settings.internal_hmac_enabled = true →
    request.x_timestamp.getD "" ≠ "" → request.x_signature.getD "" ≠ "" →
      ∀ timestamp, parseInt (request.x_timestamp.getD "") = some timestamp →
        timestamp.natAbs < floatLimit ∧
          (((now : Int) - 1000 * timestamp).natAbs ≤
              settings.internal_timestamp_tolerance_seconds * 1000000 →
            isAscii (request.x_signature.getD "") = true)

/-- A known service has its secret and its token in ASCII; with the right token the
allowlist is one of networks, and from an allowed address the signature is legible. -/
def Legible (settings : SecuritySettings) (ipaddress : IpLibrary Address Network)
    (request : Request) (now : Nat) : Prop :=
  ∀ secret, resolveSecret settings request.x_service_id = some secret →
    (isAscii request.x_internal_token = true ∧ isAscii secret = true) ∧
      (request.x_internal_token = secret →
        ∃ networks, getAllowedNetworks ipaddress settings = some networks ∧
          (allowsAddress ipaddress networks (callerIp request) = true →
            SignatureLegible settings request now))

theorem refuses_ok (value : α) : Refuses (.ok value : Except Exception α) := nofun

theorem refuses_forbidden : Refuses (.error forbidden : Except Exception α) := by
  intro failure same
  injection same with same
  exact same.symm

theorem refuses_error (failure : Exception) (other : failure ≠ forbidden) :
    ¬ Refuses (.error failure : Except Exception α) :=
  fun refuses => other (refuses failure rfl)

theorem refuses_require (body : AuthCall Bool) (state : AuthState) :
    Refuses ((body >>= fun verified => Program.require verified forbidden).run state).1 ↔
      Refuses (body.run state).1 := by
  rw [run_bind]
  rcases body.run state with ⟨failure | verified, reached⟩
  · -- the failure of the body is the failure of both
    constructor <;> intro refuses other same <;> injection same with same <;>
      exact refuses other (congrArg Except.error same)
  · have answered : Refuses ((Program.require verified forbidden).run reached).1 := by
      rw [Program.run_require]
      cases verified
      · exact refuses_forbidden
      · exact refuses_ok ()
    exact iff_of_true answered (refuses_ok verified)

theorem compareDigest_ascii (first second : String) (ascii : isAscii first = true)
    (ascii' : isAscii second = true) : compareDigest first second = .ok (first == second) := by
  simp [compareDigest, ascii, ascii']

theorem compareDigest_typeError (first second : String)
    (beyond : ¬ (isAscii first = true ∧ isAscii second = true)) :
    compareDigest first second = .error .typeError := by
  simp [compareDigest, beyond]

variable (settings : SecuritySettings)

theorem claimNonce_answers (key : String) (state : AuthState) :
    Refuses ((claimNonce settings key).run state).1 := by
  rw [claimNonce, Program.run_recover, Program.run_attempt]
  cases setNx key (nonceTtlMs settings) state with
  | error failure => exact refuses_ok true
  | ok claimed => exact refuses_ok claimed.1

variable (hashes : HashLibrary) (request : Request)

theorem verifySignature_refuses_iff (service_id service_secret timestamp_ms signature : String)
    (state : AuthState) :
    Refuses ((verifySignature settings hashes request service_id service_secret timestamp_ms
        signature).run state).1 ↔ isAscii signature = true := by
  have hex := (hashes.hmac_hex service_secret (payload hashes request.method request.path
    service_id timestamp_ms request.body)).isAscii
  unfold verifySignature
  by_cases ascii : isAscii signature = true
  · refine iff_of_true ?_ ascii
    dsimp only
    rw [compareDigest_ascii _ _ hex ascii, run_bind, Program.run_done]
    dsimp only
    split_ifs with same
    · exact claimNonce_answers settings _ state
    · exact refuses_ok false
  · refine iff_of_false ?_ ascii
    dsimp only
    rw [compareDigest_typeError _ _ (by simp [ascii]), run_bind, Program.run_done]
    exact refuses_error _ (by decide)

theorem verifyHmacAndNonce_refuses_iff (service_id service_secret : String) (state : AuthState) :
    Refuses ((verifyHmacAndNonce settings hashes request service_id service_secret).run state).1 ↔
      SignatureLegible settings request state.now := by
  unfold verifyHmacAndNonce SignatureLegible
  by_cases enabled : settings.internal_hmac_enabled = true
  case neg =>
    simp only [enabled, Bool.not_false, if_true, Program.run_pure]
    exact iff_of_true (refuses_ok true) nofun
  simp only [enabled, Bool.not_true, Bool.false_eq_true, if_false, forall_const]
  by_cases missing : request.x_timestamp.getD "" = "" ∨ request.x_signature.getD "" = ""
  · rw [if_pos missing]
    refine iff_of_true (refuses_ok false) fun stamped signed => ?_
    exact (missing.elim stamped signed).elim
  · have stamped : request.x_timestamp.getD "" ≠ "" := fun empty => missing (.inl empty)
    have signed : request.x_signature.getD "" ≠ "" := fun empty => missing (.inr empty)
    rw [if_neg missing]
    simp only [ne_eq, stamped, signed, not_false_eq_true, forall_const]
    change Refuses (Program.run (Program.done (checkFreshness settings state.now
      (request.x_timestamp.getD "")) >>= _) state).1 ↔ _
    rw [run_bind, Program.run_done]
    unfold checkFreshness
    cases parsed : parseInt (request.x_timestamp.getD "") with
    | none => exact iff_of_true (refuses_ok false) nofun
    | some timestamp =>
      simp only [Option.some.injEq, forall_eq']
      by_cases huge : floatLimit ≤ timestamp.natAbs
      · rw [if_pos huge]
        exact iff_of_false (refuses_error _ (by decide)) fun within => by omega
      · rw [if_neg huge]
        have small : timestamp.natAbs < floatLimit := by omega
        simp only [small, true_and]
        by_cases fresh : ((state.now : Int) - 1000 * timestamp).natAbs ≤
          settings.internal_timestamp_tolerance_seconds * 1000000
        · simp only [fresh, decide_true, if_true, forall_const]
          exact verifySignature_refuses_iff settings hashes request service_id service_secret _ _
            state
        · simp only [fresh, decide_false, Bool.false_eq_true, if_false]
          exact iff_of_true (refuses_ok false) nofun

theorem insideNetwork_refuses_iff (ipaddress : IpLibrary Address Network) (request : Request)
    (service_secret : String) (state : AuthState) :
    Refuses ((do
        let inside ← (.done (checkIp ipaddress settings request) : AuthCall Bool)
        Program.require inside forbidden
        let verified ← verifyHmacAndNonce settings hashes request request.x_service_id
          service_secret
        Program.require verified forbidden : AuthCall Unit).run state).1 ↔
      ∃ networks, getAllowedNetworks ipaddress settings = some networks ∧
        (allowsAddress ipaddress networks (callerIp request) = true →
          SignatureLegible settings request state.now) := by
  rw [run_bind, Program.run_done]
  unfold checkIp
  cases getAllowedNetworks ipaddress settings with
  | none => exact iff_of_false (refuses_error _ (by decide)) (by rintro ⟨networks, ⟨⟩, rest⟩)
  | some networks =>
    simp only [Option.some.injEq, exists_eq_left']
    cases allowsAddress ipaddress networks (callerIp request) with
    | false => exact iff_of_true refuses_forbidden nofun
    | true =>
      simp only [forall_const]
      rw [← verifyHmacAndNonce_refuses_iff settings hashes request request.x_service_id
        service_secret state]
      exact refuses_require _ state

/-- A call ends in access or in 403 exactly where every text that it gets to read is
legible. -/
theorem requireInternalAuth_refuses_iff (settings : SecuritySettings) (hashes : HashLibrary)
    (ipaddress : IpLibrary Address Network) (request : Request) (state : AuthState) :
    Refuses ((requireInternalAuth settings hashes ipaddress request).run state).1 ↔
      Legible settings ipaddress request state.now := by
  unfold requireInternalAuth Legible checkToken
  cases known : resolveSecret settings request.x_service_id with
  | none => exact iff_of_true refuses_forbidden nofun
  | some secret =>
    simp only [Option.some.injEq, forall_eq']
    by_cases ascii : isAscii request.x_internal_token = true ∧ isAscii secret = true
    · rw [compareDigest_ascii _ _ ascii.1 ascii.2, run_bind, Program.run_done]
      simp only [ascii, and_self, true_and]
      by_cases same : request.x_internal_token = secret
      · simp only [same, forall_const, Except.map, beq_self_eq_true]
        exact insideNetwork_refuses_iff settings hashes ipaddress request secret state
      · have other : (request.x_internal_token == secret) = false := by simp [same]
        simp only [Except.map, other, same, false_imp_iff]
        exact iff_of_true refuses_forbidden trivial
    · rw [compareDigest_typeError _ _ ascii, run_bind, Program.run_done]
      exact iff_of_false (refuses_error _ (by decide)) fun legible => ascii legible.1

/-- A token with an accent is not refused: the comparison fails. -/
theorem accented_token_raises :
    ¬ ∀ (settings : SecuritySettings) (request : Request) (state : AuthState),
      Refuses ((requireInternalAuth settings sampleHashes noAddresses request).run state).1 := by
  intro refuses
  have raised := refuses {} { signedRequest with x_internal_token := "é" } {} .typeError
    (by decide +kernel)
  exact absurd raised (by decide)

end HelpForge.Chatbot
