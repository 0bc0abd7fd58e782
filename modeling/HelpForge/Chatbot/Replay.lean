import HelpForge.Chatbot.InternalAuth
import HelpForge.Lib.Statements

set_option autoImplicit false

namespace HelpForge.Chatbot

open Lib

variable {Address Network : Type}

def claiming (settings : SecuritySettings) (key : String) : AuthCall Unit := do
  let verified ← claimNonce settings key
  Program.require verified forbidden

def SameSigned (copy request : Request) : Prop :=
  copy.x_service_id = request.x_service_id ∧ copy.x_timestamp = request.x_timestamp ∧
    copy.x_signature = request.x_signature

def requestKey (request : Request) : String :=
  nonceKey request.x_service_id (request.x_signature.getD "")

variable (settings : SecuritySettings) (hashes : HashLibrary)

theorem verifySignature_stages (request : Request)
    (service_id service_secret timestamp_ms signature : String) :
    (∃ failure, verifySignature settings hashes request service_id service_secret timestamp_ms
        signature = .done (.error failure)) ∨
      verifySignature settings hashes request service_id service_secret timestamp_ms signature =
        pure false ∨
      verifySignature settings hashes request service_id service_secret timestamp_ms signature =
        claimNonce settings (nonceKey service_id signature) := by
  unfold verifySignature
  dsimp only
  cases compareDigest (hashes.hmac service_secret
      (payload hashes request.method request.path service_id timestamp_ms request.body))
      signature with
  | error failure => exact .inl ⟨failure, rfl⟩
  | ok same =>
    cases same with
    | false => exact .inr (.inl rfl)
    | true => exact .inr (.inr rfl)

theorem verifyHmacAndNonce_stages (request : Request) (service_id service_secret : String)
    (enabled : settings.internal_hmac_enabled = true) :
    verifyHmacAndNonce settings hashes request service_id service_secret = pure false ∨
      ∃ rest : Nat → AuthCall Bool,
        verifyHmacAndNonce settings hashes request service_id service_secret =
          (Program.reads (fun state => state.now) >>= rest) ∧
        ∀ now, (∃ failure, rest now = .done (.error failure)) ∨ rest now = pure false ∨
          rest now = claimNonce settings (nonceKey service_id (request.x_signature.getD "")) := by
  unfold verifyHmacAndNonce
  rw [enabled]
  simp only [Bool.not_true, Bool.false_eq_true, if_false]
  split_ifs with missing
  · exact .inl rfl
  · refine .inr ⟨_, rfl, fun now => ?_⟩
    cases checkFreshness settings now (request.x_timestamp.getD "") with
    | error failure => exact .inl ⟨failure, rfl⟩
    | ok fresh =>
      cases fresh with
      | false => exact .inr (.inl rfl)
      | true => exact verifySignature_stages settings hashes request service_id service_secret _ _

variable (ipaddress : IpLibrary Address Network) (request : Request)

theorem requireInternalAuth_stages (enabled : settings.internal_hmac_enabled = true) :
    (∃ failure, requireInternalAuth settings hashes ipaddress request = .done (.error failure)) ∨
      ∃ rest : Nat → AuthCall Unit,
        requireInternalAuth settings hashes ipaddress request =
          (Program.reads (fun state => state.now) >>= rest) ∧
        ∀ now, (∃ failure, rest now = .done (.error failure)) ∨
          rest now = claiming settings (requestKey request) := by
  unfold requireInternalAuth
  cases checkToken settings request.x_service_id request.x_internal_token with
  | error failure => exact .inl ⟨failure, rfl⟩
  | ok checked =>
    obtain ⟨valid, service_secret⟩ := checked
    cases valid with
    | false => exact .inl ⟨forbidden, rfl⟩
    | true =>
      cases checkIp ipaddress settings request with
      | error failure => exact .inl ⟨failure, rfl⟩
      | ok inside =>
        cases inside with
        | false => exact .inl ⟨forbidden, rfl⟩
        | true =>
          change (∃ failure, (verifyHmacAndNonce settings hashes request request.x_service_id
            (service_secret.getD "") >>= fun verified =>
              Program.require verified forbidden) = .done (.error failure)) ∨ _
          rcases verifyHmacAndNonce_stages settings hashes request request.x_service_id
            (service_secret.getD "") enabled with rejected | ⟨rest, stages, after⟩
          · exact .inl ⟨forbidden, by rw [rejected]; rfl⟩
          · refine .inr ⟨fun now => rest now >>= fun verified =>
              Program.require verified forbidden, ?_, fun now => ?_⟩
            · change (verifyHmacAndNonce settings hashes request request.x_service_id
                (service_secret.getD "") >>= fun verified =>
                  Program.require verified forbidden) = _
              rw [stages, bind_assoc]
            · dsimp only
              rcases after now with ⟨failure, failed⟩ | rejected | claims
              · exact .inl ⟨failure, by rw [failed]; rfl⟩
              · exact .inl ⟨forbidden, by rw [rejected]; rfl⟩
              · exact .inr (by rw [claims]; rfl)

theorem claiming_step (key : String) (state reached : AuthState) (next : AuthCall Unit)
    (up : true = state.redisUp)
    (stepped : (claiming settings key).advance state = some (next, reached)) :
    (state.holds key = true ∧ next = .done (.error forbidden) ∧ reached = state) ∨
      (state.holds key = false ∧ next = .done (.ok ()) ∧
        reached = { state with
          nonces := Function.update state.nonces key
            (some (state.now / 1000 + nonceTtlMs settings)) }) := by
  -- What the claim of a nonce does: the first of two claims wins while the key is kept.
  obtain ⟨now, nonces, redisUp⟩ := state
  subst up
  have shape : claiming settings key =
      ((Program.attempt (setNx key (nonceTtlMs settings)) >>= pure).recover fun _ => pure true) >>=
        fun verified => Program.require verified forbidden := by
    rw [bind_pure]
    rfl
  rw [shape, Program.advance_recover_attempt_bind] at stepped
  unfold setNx at stepped
  cases held : AuthState.holds { now, nonces, redisUp := true } key with
  | true =>
    simp only [held, Bool.not_true, Bool.false_eq_true, if_false, if_true] at stepped
    cases stepped
    exact .inl ⟨rfl, rfl, rfl⟩
  | false =>
    simp only [held, Bool.not_true, Bool.false_eq_true, if_false] at stepped
    cases stepped
    exact .inr ⟨rfl, rfl, rfl⟩

def deliveries (settings : SecuritySettings) (hashes : HashLibrary)
    (ipaddress : IpLibrary Address Network) (request : Request) :
    Pool.System Nat AuthState (AuthCall Unit) :=
  -- Any number of deliveries of copies of the request. Meanwhile the clock advances, and other
  -- requests claim their own nonces.
  Pool.ofPrograms
    (fun _ _ program => ∃ copy, SameSigned copy request ∧
      program = requireInternalAuth settings hashes ipaddress copy)
    (fun state reached => state.now ≤ reached.now ∧ reached.redisUp = state.redisUp ∧
      reached.nonces (requestKey request) = state.nonces (requestKey request))

def Granted (pool : Pool Nat AuthState (AuthCall Unit)) (delivery : Nat) : Prop :=
  pool.calls delivery = some (.done (.ok ()))

def NonceKept (settings : SecuritySettings) (key : String)
    (pool : Pool Nat AuthState (AuthCall Unit)) (_ : Nat) (program : AuthCall Unit) : Prop :=
  -- No delivery claims the nonce after the key that an earlier one has stored has run out.
  program = claiming settings key → pool.state.nonces key ≠ none → pool.state.holds key = true

structure Guarded (settings : SecuritySettings) (hashes : HashLibrary)
    (ipaddress : IpLibrary Address Network) (request : Request)
    (pool : Pool Nat AuthState (AuthCall Unit)) : Prop where
  up : pool.state.redisUp = true
  stands : ∀ delivery program, pool.calls delivery = some program →
    (∃ result, program = .done result) ∨ program = claiming settings (requestKey request) ∨
      ∃ copy, SameSigned copy request ∧
        program = requireInternalAuth settings hashes ipaddress copy
  stored : ∀ delivery, Granted pool delivery → pool.state.nonces (requestKey request) ≠ none
  single : ∀ first second, Granted pool first → Granted pool second → first = second

theorem SameSigned.requestKey {copy request : Request} (same : SameSigned copy request) :
    requestKey copy = requestKey request := by
  obtain ⟨service, _, signature⟩ := same
  rw [Chatbot.requestKey, service, signature, Chatbot.requestKey]

theorem requireInternalAuth_not_granted (enabled : settings.internal_hmac_enabled = true) :
    requireInternalAuth settings hashes ipaddress request ≠ .done (.ok ()) := by
  rcases requireInternalAuth_stages settings hashes ipaddress request enabled with
    ⟨failure, failed⟩ | ⟨rest, stages, _⟩
  · rw [failed]
    nofun
  · rw [stages]
    nofun

theorem requireInternalAuth_step (state reached : AuthState) (next : AuthCall Unit)
    (enabled : settings.internal_hmac_enabled = true)
    (stepped : (requireInternalAuth settings hashes ipaddress request).advance state =
      some (next, reached)) :
    reached = state ∧
      ((∃ failure, next = .done (.error failure)) ∨
        next = claiming settings (requestKey request)) := by
  rcases requireInternalAuth_stages settings hashes ipaddress request enabled with
    ⟨failure, failed⟩ | ⟨rest, stages, after⟩
  · rw [failed] at stepped
    cases stepped
  · rw [stages, Program.advance_reads_bind] at stepped
    cases stepped
    exact ⟨rfl, after _⟩

theorem Guarded.put (pool : Pool Nat AuthState (AuthCall Unit))
    (guarded : Guarded settings hashes ipaddress request pool) (past : List AuthState)
    (delivery : Nat) (next : AuthCall Unit) (ungranted : next ≠ .done (.ok ()))
    (stands : (∃ result, next = .done result) ∨ next = claiming settings (requestKey request) ∨
      ∃ copy, SameSigned copy request ∧
        next = requireInternalAuth settings hashes ipaddress copy) :
    Guarded settings hashes ipaddress request
      { state := pool.state, past, calls := pool.put delivery next } := by
  have before : ∀ other,
      Granted { state := pool.state, past, calls := pool.put delivery next } other →
      Granted pool other := by
    intro other granted
    rcases (pool.put_eq_some ..).mp granted with ⟨_, done⟩ | ⟨_, granted⟩
    · exact absurd done.symm ungranted
    · exact granted
  exact ⟨guarded.up, pool.put_forall stands guarded.stands,
    fun other granted => guarded.stored other (before other granted),
    fun first second one other => guarded.single first second (before _ one) (before _ other)⟩

theorem Guarded.step (enabled : settings.internal_hmac_enabled = true)
    (pool reached : Pool Nat AuthState (AuthCall Unit))
    (guarded : Guarded settings hashes ipaddress request pool)
    (stepped : Pool.Step (deliveries settings hashes ipaddress request)
      (NonceKept settings (requestKey request)) pool reached) :
    Guarded settings hashes ipaddress request reached := by
  cases stepped with
  | start delivery program unused begun =>
    obtain ⟨copy, same, rfl⟩ := begun
    exact guarded.put settings hashes ipaddress request pool pool.past delivery _
      (requireInternalAuth_not_granted settings hashes ipaddress copy enabled)
      (.inr (.inr ⟨copy, same, rfl⟩))
  | statement delivery process next state running permitted advanced =>
    have up : pool.state.redisUp = true := guarded.up
    rcases guarded.stands delivery process running with
      ⟨result, rfl⟩ | rfl | ⟨copy, same, rfl⟩
    · cases advanced
    · rcases claiming_step settings (requestKey request) pool.state state next up.symm advanced with
        ⟨_, rfl, rfl⟩ | ⟨free, rfl, rfl⟩
      · exact guarded.put settings hashes ipaddress request pool _ delivery _ nofun (.inl ⟨_, rfl⟩)
      · -- the key is not kept, so it has never been stored and nobody has been granted
        have unstored : pool.state.nonces (requestKey request) = none := by
          by_contra stored
          rw [permitted rfl stored] at free
          cases free
        have nobody : ∀ other, ¬ Granted pool other := fun other granted =>
          guarded.stored other granted unstored
        have only : ∀ other found, pool.put delivery (.done (.ok ())) other = some found →
            found = .done (.ok ()) → other = delivery := by
          intro other found there granted
          rcases (pool.put_eq_some ..).mp there with ⟨here, _⟩ | ⟨_, elsewhere⟩
          · exact here
          · rw [granted] at elsewhere
            exact absurd elsewhere (nobody other)
        refine ⟨up, pool.put_forall (.inl ⟨_, rfl⟩) guarded.stands, fun _ _ => by simp, ?_⟩
        intro first second one other
        exact (only first _ one rfl).trans (only second _ other rfl).symm
    · obtain ⟨rfl, outcome⟩ := requireInternalAuth_step settings hashes ipaddress copy pool.state
        state next enabled advanced
      rw [same.requestKey] at outcome
      rcases outcome with ⟨failure, rfl⟩ | rfl
      · exact guarded.put settings hashes ipaddress request pool _ delivery _ nofun (.inl ⟨_, rfl⟩)
      · exact guarded.put settings hashes ipaddress request pool _ delivery _ nofun
          (.inr (.inl rfl))
  | outside state moved =>
    obtain ⟨_, up, kept⟩ := moved
    refine ⟨up.trans guarded.up, guarded.stands, ?_, guarded.single⟩
    intro delivery granted
    have stored := guarded.stored delivery granted
    exact kept ▸ stored

/-- One signed request is admitted at most once, as long as no copy claims the nonce after
the stored key has run out. -/
theorem signed_request_admitted_once (settings : SecuritySettings) (hashes : HashLibrary)
    (ipaddress : IpLibrary Address Network) (request : Request) (state : AuthState)
    (enabled : settings.internal_hmac_enabled = true) (up : state.redisUp = true)
    (final : Pool Nat AuthState (AuthCall Unit))
    (run : Pool.Run (deliveries settings hashes ipaddress request)
      (NonceKept settings (requestKey request)) (Pool.idle state) final)
    (first second : Nat) (one : Granted final first) (other : Granted final second) :
    first = second := by
  have idle : Guarded settings hashes ipaddress request (Pool.idle state) :=
    ⟨up, nofun, nofun, nofun⟩
  have guarded : Guarded settings hashes ipaddress request final :=
    run.invariant (Guarded.step settings hashes ipaddress request enabled) idle
  exact guarded.single first second one other

def sampleHashes : HashLibrary where
  sha256 _ := "44136fa355b3678a1146ad16f7e8649e94fb4fc21fe77e8310c060f61caaff8a"
  hmac _ _ := "ca5f089627694ca66ae43c35af46f51ce0a4506391df3401e864ec9ac41e8489"
  sha256_hex _ := by decide
  hmac_hex _ _ := by decide

def noAddresses : IpLibrary Unit Unit where
  ip_address _ := none
  ip_network _ := none
  contains _ _ := false

def signedRequest : Request where
  method := "POST"
  path := "/internal/embed"
  x_service_id := "chatbot-bridge-worker"
  x_internal_token := "change-me-in-production"
  x_timestamp := some "0"
  x_signature := some (sampleHashes.hmac "change-me-in-production" "")
  body := "{}".toUTF8.toList

def deliver (schedule : List (Pool.Move Nat AuthState)) : Pool Nat AuthState (AuthCall Unit) :=
  Pool.play Program.advance
    (fun _ => requireInternalAuth {} sampleHashes noAddresses signedRequest) schedule
    (Pool.idle {})

def lateBody : List (Pool.Move Nat AuthState) :=
  -- Two deliveries arrive together; the body of the second follows a minute later.
  [.turn 0, .turn 1, .turn 0, .turn 1, .turn 0,
    .outside fun state => { state with now := state.now + 60001000 }, .turn 1]

theorem deliver_run (allowed : Pool Nat AuthState (AuthCall Unit) → Nat → AuthCall Unit → Prop)
    (schedule : List (Pool.Move Nat AuthState))
    (environment : ∀ change, Pool.Move.outside change ∈ schedule → ∀ state : AuthState,
      state.now ≤ (change state).now ∧ (change state).redisUp = state.redisUp ∧
        (change state).nonces = state.nonces)
    (permitted : Pool.Permits allowed Program.advance
      (fun _ => requireInternalAuth {} sampleHashes noAddresses signedRequest) schedule
      (Pool.idle {})) :
    Pool.Run (deliveries {} sampleHashes noAddresses signedRequest) allowed (Pool.idle {})
      (deliver schedule) := by
  refine Pool.play_run ?_ schedule ?_ (Pool.idle {}) permitted
  · intro seen delivery
    exact ⟨signedRequest, ⟨rfl, rfl, rfl⟩, rfl⟩
  · intro change member state
    obtain ⟨later, up, nonces⟩ := environment change member state
    exact ⟨later, up, by rw [nonces]⟩

/-- The second of two prompt deliveries is turned away. -/
theorem prompt_copy_rejected :
    ¬ Granted (deliver [.turn 0, .turn 0, .turn 0, .turn 1, .turn 1, .turn 1]) 1 := by
  intro granted
  have run := deliver_run (NonceKept {} (requestKey signedRequest))
    [.turn 0, .turn 0, .turn 0, .turn 1, .turn 1, .turn 1] (by simp) (by
      refine ⟨?_, ?_, ?_, ?_, ?_, ?_, trivial⟩ <;> intro process _ _ stored
      · exact absurd rfl stored
      · exact absurd rfl stored
      · exact absurd rfl stored
      · rfl
      · rfl
      · rfl)
  have same := signed_request_admitted_once {} sampleHashes noAddresses signedRequest {} rfl rfl _
    run 0 1 rfl granted
  cases same

/-- Both deliveries of `lateBody` are granted. -/
theorem late_copy_granted :
    Pool.Run (deliveries {} sampleHashes noAddresses signedRequest) Pool.anyStatement
        (Pool.idle {}) (deliver lateBody) ∧
      Granted (deliver lateBody) 0 ∧ Granted (deliver lateBody) 1 := by
  refine ⟨deliver_run _ lateBody ?_ (Pool.permits_any ..), rfl, rfl⟩
  intro change member state
  have later : change = fun state => { state with now := state.now + 60001000 } := by
    simpa [lateBody] using member
  subst later
  exact ⟨Nat.le_add_right .., rfl, rfl⟩

section Undisturbed

variable (settings : SecuritySettings) (hashes : HashLibrary)
  (ipaddress : IpLibrary Address Network) (request : Request)

theorem claiming_cases (key : String) (state reached : AuthState) (next : AuthCall Unit)
    (stepped : (claiming settings key).advance state = some (next, reached)) :
    (∃ result, next = .done result) ∧ (reached = state ∨ next = .done (.ok ()) ∧
      ∀ other, other ≠ key → reached.nonces other = state.nonces other) := by
  by_cases up : state.redisUp = true
  · rcases claiming_step settings key state reached next up.symm stepped with
      ⟨-, rfl, same⟩ | ⟨-, rfl, rfl⟩
    · exact ⟨⟨_, rfl⟩, .inl same⟩
    · exact ⟨⟨_, rfl⟩, .inr ⟨rfl, fun other differs => Function.update_of_ne differs _ _⟩⟩
  · -- Without Redis every claim is granted, and nothing is stored.
    have shape : claiming settings key =
        ((Program.attempt (setNx key (nonceTtlMs settings)) >>= pure).recover fun _ => pure true) >>=
          fun verified => Program.require verified forbidden := by
      rw [bind_pure]
      rfl
    rw [shape, Program.advance_recover_attempt_bind] at stepped
    simp only [setNx, up, Bool.not_false, if_true] at stepped
    cases stepped
    exact ⟨⟨_, rfl⟩, .inl rfl⟩

/-- At any point of any schedule, whatever else runs and whether Redis answers or not: a turn of
the request changes nothing but its own nonce, and that only as the request is granted. -/
theorem nonce_kept_unless_granted (enabled : settings.internal_hmac_enabled = true)
    (programs : Nat → AuthCall Unit) (call : Nat)
    (own : programs call = requireInternalAuth settings hashes ipaddress request)
    (moves : List (Pool.Move Nat AuthState)) (start : AuthState) :
    let before := Pool.play Program.advance programs moves (Pool.idle start)
    let after := Pool.turn Program.advance programs before call
    after.state = before.state ∨ Granted after call ∧
      ∀ key, key ≠ requestKey request → after.state.nonces key = before.state.nonces key := by
  intro before after
  let stands (program : AuthCall Unit) : Prop := (∃ result, program = .done result) ∨
    program = claiming settings (requestKey request) ∨
      program = requireInternalAuth settings hashes ipaddress request
  have later : ∀ change next, stands (.atomic change next) → ∀ state, stands (next state) := by
    rintro change next (⟨result, ⟨⟩⟩ | claims | requires) state
    · obtain ⟨done, -⟩ := claiming_cases settings (requestKey request) state (change state)
        (next state) (by rw [← claims]; rfl)
      exact .inl done
    · obtain ⟨-, outcome⟩ := requireInternalAuth_step settings hashes ipaddress request state
        (change state) (next state) enabled (by rw [← requires]; rfl)
      rcases outcome with ⟨failure, failed⟩ | claims
      · exact .inl ⟨_, failed⟩
      · exact .inr (.inl claims)
  have stood : ∀ program, before.calls call = some program → stands program :=
    Pool.play_stands later (.inr (.inr own)) moves
  rcases Pool.turn_cases programs before call with same | ⟨change, next, running, turned⟩
  · exact .inl same
  · simp only [after, turned]
    rcases stood _ running with ⟨result, ⟨⟩⟩ | claims | requires
    · obtain ⟨-, same | ⟨granted, others⟩⟩ := claiming_cases settings (requestKey request)
        before.state _ _ (by rw [← claims]; rfl)
      · exact .inl same
      · exact .inr ⟨by simp [Granted, granted], others⟩
    · exact .inl (requireInternalAuth_step settings hashes ipaddress request before.state _ _
        enabled (by rw [← requires]; rfl)).1

end Undisturbed

theorem second_copy_stores_nothing :
    let before := deliver [.turn 0, .turn 0, .turn 0, .turn 1, .turn 1]
    let after := Pool.turn Program.advance
      (fun _ => requireInternalAuth {} sampleHashes noAddresses signedRequest) before 1
    after.state = before.state ∨ Granted after 1 ∧
      ∀ key, key ≠ requestKey signedRequest → after.state.nonces key = before.state.nonces key :=
  nonce_kept_unless_granted {} sampleHashes noAddresses signedRequest rfl _ 1 rfl _ {}

end HelpForge.Chatbot
