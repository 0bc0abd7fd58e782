import Mathlib.Data.Nat.Count
import HelpForge.Chatbot.Agent.Executor

set_option autoImplicit false

namespace HelpForge.Chatbot

open Lib

structure Delivery where
  performed : Bool
  answer : Except PyError Value

abbrev Network := List GatewayCall → Delivery

namespace Network

def gateway (network : Network) : ActionGateway := fun calls => (network calls).answer

def performances (network : Network) (earlier sent : List GatewayCall) : Nat :=
  -- How many of the requests that were sent after the earlier ones are performed.
  Nat.count (fun n => (network (earlier ++ sent.take (n + 1))).performed) sent.length

section Attempts

variable (network : Network) (earlier : List GatewayCall) (request : ToolRequest)

def delivery (n : Nat) : Delivery := network (earlier ++ List.replicate (n + 1) request.call)

def Fails (n : Nat) : Prop :=
  ∀ result, (network.delivery earlier request n).answer >>= request.outcome ≠ .ok result

def Repeats : Prop :=
  -- A request is performed that counts as failed, and so is one of its retries.
  ∃ first second, first < second ∧ second ≤ maxRetries ∧
    (network.delivery earlier request first).performed = true ∧
    (network.delivery earlier request second).performed = true ∧
    ∀ attempt < second, network.Fails earlier request attempt

variable {network earlier request} (n : Nat)

theorem delivery_succ :
    network.delivery (earlier ++ [request.call]) request n =
      network.delivery earlier request (n + 1) := by
  simp only [delivery, List.append_assoc, List.singleton_append, ← List.replicate_succ]

theorem fails_succ :
    network.Fails (earlier ++ [request.call]) request n ↔ network.Fails earlier request (n + 1) := by
  rw [Fails, Fails, delivery_succ]

theorem performances_replicate (attempts : Nat) :
    network.performances earlier (List.replicate attempts request.call) ≤ 1 ↔
      ∀ first second, first < second → second < attempts →
        (network.delivery earlier request first).performed = true →
        ¬(network.delivery earlier request second).performed = true := by
  have taken (n : Nat) (within : n < attempts) :
      network (earlier ++ (List.replicate attempts request.call).take (n + 1)) =
        network.delivery earlier request n := by
    rw [List.take_replicate, Nat.min_eq_left within]
    rfl
  rw [performances, Nat.count_eq_card_filter_range, List.length_replicate, Finset.card_le_one]
  simp only [Finset.mem_filter, Finset.mem_range, and_imp]
  constructor
  · intro same first second earlier_one within performed again
    have equal := same first (by omega) (by rwa [taken first (by omega)]) second within
      (by rwa [taken second within])
    omega
  · intro once first below performed second within again
    rw [taken first below] at performed
    rw [taken second within] at again
    rcases Nat.lt_trichotomy first second with less | equal | more
    · exact absurd again (once first second less within performed)
    · exact equal
    · exact absurd performed (once second first more below again)

end Attempts

end Network

section Execution

variable {python : Python} {network : Network} {tool : Tool} {input : Dict Value}
  {request : ToolRequest}

section Prepared

variable (prepared : tool.prepare python input = .ok request)

include prepared

theorem attempted_calls (state : AgentState) (attempts : Nat) :
    (state.attempted python tool input attempts).calls =
      state.calls ++ List.replicate attempts request.call := by
  simp only [AgentState.attempted, Tool.sends, prepared]
  congr 1
  induction attempts with
  | zero => rfl
  | succ attempts ih =>
    rw [List.replicate_succ, List.flatten_cons, ih, List.replicate_succ]
    rfl

theorem tryTool_outcome (state : AgentState) :
    ((∃ error, ((tryTool python network.gateway tool input).run state).1 = .error error) ↔
      network.Fails state.calls request 0) ∧
    ∀ error, ((tryTool python network.gateway tool input).run state).1 = .error error →
      error.retriable = true := by
  -- An attempt ends in an error just where its delivery fails, and that error asks for a retry.
  rw [run_tryTool]
  simp only [prepared, Network.Fails, Network.delivery, Network.gateway, Nat.zero_add,
    List.replicate_one]
  cases (network (state.calls ++ [request.call])).answer >>= request.outcome with
  | ok result => simp [Except.mapError]
  | error error =>
    simp only [Except.mapError]
    refine ⟨by simp, ?_⟩
    rintro _ ⟨⟩
    rfl

theorem run_retry_attempts (left : Nat) (outcome : Except ToolExecutionError (Dict Value))
    (state : AgentState)
    (transient : ∀ error, outcome = .error error → error.retriable = true) :
    ∃ result more, (retry python network.gateway tool input left outcome).run state =
        (.ok result, state.attempted python tool input more) ∧
      ∀ n, n < more ↔ n < left ∧ (∃ error, outcome = .error error) ∧
        ∀ k < n, network.Fails state.calls request k := by
  -- Another attempt is made as long as all before it have failed.
  induction left generalizing outcome state with
  | zero =>
    cases outcome <;> exact ⟨_, 0, by rw [attempted_zero]; rfl, by simp⟩
  | succ left ih =>
    cases outcome with
    | ok result => exact ⟨result, 0, by rw [attempted_zero]; rfl, by simp⟩
    | error error =>
      have again := @tryTool_outcome python network tool input request prepared state
      obtain ⟨result, more, run, reached⟩ :=
        ih _ (state.attempted python tool input 1) again.2
      refine ⟨result, 1 + more, ?_, ?_⟩
      · rw [attempted_attempted] at run
        simp only [retry, transient error rfl, if_true, Program.run_bind, Program.run_stretch,
          tryTool_state, run]
      · intro n
        cases n with
        | zero =>
          constructor
          · intro _
            exact ⟨Nat.succ_pos _, ⟨_, rfl⟩, fun k below => absurd below (Nat.not_lt_zero k)⟩
          · intro _
            omega
        | succ n =>
          have calls := @attempted_calls python tool input request prepared state 1
          rw [Nat.add_comm 1, Nat.add_lt_add_iff_right, Nat.add_lt_add_iff_right, reached n, again.1,
            calls, List.replicate_one, Nat.forall_lt_succ_left]
          simp only [Network.fails_succ, Except.error.injEq, exists_eq', true_and]

end Prepared

variable (python network) in
def timesPerformed (name : String) (input : Dict Value) (start : AgentState) : Nat :=
  -- How many times the gateway performs what a tool decision asks for.
  let reached := ((execute python network.gateway name input).run start).2
  network.performances start.calls (reached.calls.drop start.calls.length)

/-- A decision takes effect twice exactly where its tool is executed on a valid input and the
network hides a request that was performed. -/
theorem timesPerformed_le_one_iff (python : Python) (network : Network) (name : String)
    (input : Dict Value) (start : AgentState) :
    timesPerformed python network name input start ≤ 1 ↔
      ∀ tool request, start.call_count < maxToolCallsPerRun → start.runnable name = some tool →
        tool.prepare python input = .ok request → ¬network.Repeats start.calls request := by
  by_cases refused : start.call_count < maxToolCallsPerRun → start.runnable name = none
  · obtain ⟨result, run⟩ :=
      @run_execute_refused python network.gateway name input start refused
    have idle : timesPerformed python network name input start = 0 := by
      rw [timesPerformed, run, List.drop_length]
      rfl
    rw [idle]
    refine iff_of_true (Nat.zero_le _) ?_
    intro tool request within runnable
    rw [refused within] at runnable
    cases runnable
  obtain ⟨within, able⟩ := Classical.not_imp.mp refused
  obtain ⟨tool, runnable⟩ := Option.ne_none_iff_exists'.mp able
  have run := @run_execute_first python network.gateway name input start tool within runnable
  cases prepared : tool.prepare python input with
  | error error =>
    obtain ⟨result, attempts, -, run⟩ :=
      @run_execute_runnable python network.gateway name input start tool within runnable
    have idle : timesPerformed python network name input start = 0 := by
      simp [timesPerformed, run, AgentState.attempted, Tool.sends, prepared, Network.performances]
    rw [idle]
    refine iff_of_true (Nat.zero_le _) ?_
    intro tool' request within' runnable' valid
    rw [runnable] at runnable'
    cases runnable'
    rw [prepared] at valid
    cases valid
  | ok request =>
    obtain ⟨failing, transient⟩ :=
      @tryTool_outcome python network tool input request prepared start
    obtain ⟨result, more, retried, reached⟩ := @run_retry_attempts python network tool input request
      prepared maxRetries _ (start.attempted python tool input 1) transient
    rw [retried, attempted_attempted] at run
    have attempted (n : Nat) : n < 1 + more ↔
        n ≤ maxRetries ∧ ∀ k < n, network.Fails start.calls request k := by
      cases n with
      | zero =>
        constructor
        · intro _
          exact ⟨Nat.zero_le _, fun k below => absurd below (Nat.not_lt_zero k)⟩
        · intro _
          omega
      | succ n =>
        have calls := @attempted_calls python tool input request prepared start 1
        rw [Nat.add_comm 1, Nat.add_lt_add_iff_right, reached n, failing, calls, List.replicate_one,
          Nat.forall_lt_succ_left, Nat.succ_le_iff]
        simp only [Network.fails_succ]
    have calls := @attempted_calls python tool input request prepared start (1 + more)
    rw [timesPerformed, run, calls, List.drop_left, Network.performances_replicate]
    constructor
    · intro once tool' request' within' runnable' valid
      rw [runnable] at runnable'
      cases runnable'
      rw [prepared] at valid
      cases valid
      rintro ⟨first, second, before, few, performed, again, failed⟩
      exact once first second before ((attempted second).mpr ⟨few, failed⟩) performed again
    · intro never first second before made performed again
      obtain ⟨few, failed⟩ := (attempted second).mp made
      exact never tool request within runnable prepared
        ⟨first, second, before, few, performed, again, failed⟩

end Execution

def ticketInput : Dict Value :=
  [("org_id", .str "A"), ("subject", .str "Refund"), ("description", .str "Paid twice.")]

/-- The gateway performs every request; the answer to the first one takes too long. -/
def slowNetwork : Network := fun calls =>
  { performed := true
    answer :=
      if calls.length = 1 then .error ⟨"ReadTimeout", ""⟩
      else .ok (.dict [("id", .str "t2")]) }

/-- The customer has two tickets. -/
theorem created_twice :
    ¬timesPerformed (.reading (.dict [])) slowNetwork "create_ticket" ticketInput {} ≤ 1 := by
  decide +kernel

end HelpForge.Chatbot
