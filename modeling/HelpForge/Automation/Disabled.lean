import HelpForge.Automation.Augmentation

set_option autoImplicit false

namespace HelpForge.Automation

open Lib.Program (run_attempt run_bind run_outcome run_recover)

open Lib Tickets

/-- What reaches the provider. -/
inductive EntryPoint where
  | handleCommentAdded (payload : CommentPayload)
  | generateAgentSuggestion (ticketId : Nat)
  | generateTicketSummary (ticketId : Nat)
  | generateQuickAssist (abortReason : Option String) (ticketId : Nat)
  | generateController (orgId : Nat) (purpose : Purpose) (text : String)
  | generateStreamController (orgId : Nat) (text : String)

def discarding {α : Type} (call : AutomationCall α) : AutomationCall Unit := do
  let _ ← call

section Enter

variable (setup : Setup) (suggestionText : CommentedTicket → TicketComment → Nat → String)

def enter : EntryPoint → AutomationCall Unit
  | .handleCommentAdded payload => handleCommentAdded setup payload
  | .generateAgentSuggestion ticketId =>
    discarding (generateAgentSuggestion setup setup.provider suggestionText ticketId)
  | .generateTicketSummary ticketId =>
    discarding (Augmentation.generateTicketSummary setup setup.provider ticketId)
  | .generateQuickAssist abortReason ticketId =>
    discarding (generateQuickAssist setup setup.provider suggestionText abortReason ticketId)
  | .generateController orgId purpose text =>
    discarding (generateController setup orgId purpose text)
  | .generateStreamController orgId text => discarding (generateStreamController setup orgId text)

end Enter

def AIDisabled (organizationId : Nat) (state : AutomationWorld) : Prop :=
  ∃ config, state.configs.find? (fun config => config.organizationId == organizationId) =
    some config ∧ config.aiEnabled = false

def callsFor (organizationId : Nat) (state : AutomationWorld) : Nat :=
  state.served.countP fun call => call.organizationId == organizationId

def answering (state : AutomationWorld) : AutomationWorld :=
  -- The provider answers. A call that is made is one that is served then, and whether the first one
  -- is made does not depend on it.
  { state with down := fun dependency => dependency != .provider && state.down dependency }

def Unchecked (organizationId : Nat) (state : AutomationWorld) : EntryPoint → Prop
  -- The ways in that do not look at the configuration, where they get as far as the provider.
  | .generateQuickAssist abortReason ticketId =>
    abortReason = none ∧ state.down .database = false ∧
      ∃ ticket, state.db.findTicket ticketId = some ticket ∧ ticket.organizationId = organizationId
  | .generateStreamController orgId _ => orgId = organizationId
  | _ => False

variable {state : AutomationWorld} {α : Type} {inv : AutomationWorld → Prop}

section Disabled

variable {setup : Setup} {suggestionText : CommentedTicket → TicketComment → Nat → String}
  {organizationId count : Nat} {config : AIConfig}

structure Unserved (organizationId count : Nat) (state : AutomationWorld) : Prop where
  calls : callsFor organizationId state = count
  disabled : AIDisabled organizationId state

theorem Unserved.later {reached : AutomationWorld} (unserved : Unserved organizationId count state)
    (served : reached.served = state.served) (configs : reached.configs = state.configs) :
    Unserved organizationId count reached where
  calls := by
    rw [callsFor, served]
    exact unserved.calls
  disabled := by
    unfold AIDisabled
    rw [configs]
    exact unserved.disabled

theorem keeps_statement (body : AutomationWorld → Except ServiceError (α × Database)) :
    Program.Keeps (Unserved organizationId count) (statement body) := by
  refine Program.Keeps.attempt fun state value reached unserved outcome => ?_
  obtain ⟨db, -, rfl⟩ := statement_written outcome
  exact unserved.later rfl rfl

theorem keeps_query (view : AutomationWorld → α) :
    Program.Keeps (Unserved organizationId count) (query view) :=
  keeps_statement _

theorem keeps_cacheWrite {answer : AutomationWorld → Bool}
    {change : AutomationWorld → AutomationWorld}
    (served : ∀ state, (change state).served = state.served)
    (configs : ∀ state, (change state).configs = state.configs) :
    Program.Keeps (Unserved organizationId count) (cacheWrite answer change) := by
  refine Program.Keeps.attempt fun state value reached unserved outcome => ?_
  split_ifs at outcome <;> cases outcome
  · exact unserved
  · exact unserved
  · exact unserved.later (served state) (configs state)

theorem keeps_withRetry {fn : AutomationCall α} (kept : Program.Keeps inv fn) (retries : Nat) :
    Program.Keeps inv (withRetry fn retries) := by
  induction retries with
  | zero => exact kept
  | succ retries ih => exact kept.recover fun _ => ih

theorem keeps_execute {orgId : Nat} (other : orgId ≠ organizationId) (purpose : Purpose)
    (result : AIResult) (timeoutMessage : String) :
    Program.Keeps (Unserved organizationId count)
      (executeWithProviderGuards setup orgId purpose result timeoutMessage) := by
  -- A call on behalf of another organisation.
  refine keeps_withRetry (Program.Keeps.attempt fun state value reached unserved outcome => ?_) _
  split_ifs at outcome
  cases outcome
  refine ⟨?_, unserved.disabled⟩
  rw [callsFor, List.countP_cons_of_neg (by simpa using other)]
  exact unserved.calls

theorem keeps_checked (orgId : Nat) (body : Option AIConfig → AutomationCall α)
    (otherwise : AutomationCall α)
    (kept : orgId ≠ organizationId → ∀ orgConfig,
      Program.Keeps (Unserved organizationId count) (body orgConfig))
    (skipped : Program.Keeps (Unserved organizationId count) otherwise) :
    Program.Keeps (Unserved organizationId count) (do
      let orgConfig ← getAIConfigByOrg orgId
      if orgConfig.all (·.aiEnabled) then body orgConfig else otherwise) := by
  -- What follows a look at the configuration is done for other organisations only.
  intro state unserved
  unfold getAIConfigByOrg query
  rw [Program.wp_bind, statement, Program.wp_attempt]
  constructor
  · intro orgConfig reached outcome
    split_ifs at outcome
    cases outcome
    dsimp only
    by_cases own : orgId = organizationId
    · obtain ⟨config, found, off⟩ := unserved.disabled
      rw [own, found, if_neg (by simp [off])]
      exact skipped _ (unserved.later rfl rfl)
    · split_ifs
      · exact kept own _ _ (unserved.later rfl rfl)
      · exact skipped _ (unserved.later rfl rfl)
  · exact fun _ _ => unserved

theorem keeps_incrementHashValues {tokensUsed requests : AutomationWorld → AutomationWorld}
    (served : ∀ state, (tokensUsed state).served = state.served ∧
      (requests state).served = state.served)
    (configs : ∀ state, (tokensUsed state).configs = state.configs ∧
      (requests state).configs = state.configs) :
    Program.Keeps (Unserved organizationId count) (incrementHashValues tokensUsed requests) := by
  refine Program.Keeps.bind (keeps_cacheWrite (fun state => (served state).1) fun state =>
    (configs state).1) fun answered => ?_
  split_ifs
  · exact (keeps_cacheWrite (fun state => (served state).2) fun state => (configs state).2).bind
      fun _ => Program.Keeps.pure _
  · exact Program.Keeps.pure _

theorem keeps_logAIActivity (orgId ticketId : Nat) (aiUsage : AIUsage) :
    Program.Keeps (Unserved organizationId count) (logAIActivity orgId ticketId aiUsage) :=
  Program.Keeps.bind
    (keeps_incrementHashValues (fun _ => ⟨rfl, rfl⟩) fun _ => ⟨rfl, rfl⟩) fun _ =>
      keeps_incrementHashValues (fun _ => ⟨rfl, rfl⟩) fun _ => ⟨rfl, rfl⟩

theorem keeps_handleSmartAssign (ticket : Ticket) :
    Program.Keeps (Unserved organizationId count) (handleSmartAssign ticket) := by
  refine Program.Keeps.recover ?_ fun _ => Program.Keeps.pure _
  refine (keeps_query _).bind fun availableAgents => ?_
  cases selectBestAgent availableAgents with
  | none => exact Program.Keeps.pure _
  | some selectedAgent => exact (keeps_statement _).bind fun _ => Program.Keeps.pure _

variable (ticket : CommentedTicket)

theorem keeps_generateAndStore (latestComment : TicketComment) (orgConfig : Option AIConfig)
    (other : ticket.organizationId ≠ organizationId) :
    Program.Keeps (Unserved organizationId count)
      (generateAndStoreAIResponse setup ticket latestComment orgConfig) := by
  unfold generateAndStoreAIResponse
  refine (keeps_execute other _ _ _).bind fun aiResult => ?_
  refine (Program.Keeps.reads _).bind fun now => ?_
  refine (keeps_statement _).bind fun comment => ?_
  refine (keeps_logAIActivity _ _ _).bind fun _ => ?_
  have updated (ticketId : Nat) (patch : TicketPatch) :
      Program.Keeps (Unserved organizationId count) (do
        let _ ← updateTicket ticketId patch
        pure ()) :=
    (keeps_statement _).bind fun _ => Program.Keeps.pure _
  dsimp only
  split_ifs
  · exact (keeps_handleSmartAssign _).bind fun _ => updated _ _
  · exact updated _ _

variable (ticketId : Nat)

theorem keeps_processComment (commentId : Nat) :
    Program.Keeps (Unserved organizationId count) (processComment setup ticketId commentId) := by
  refine (keeps_query _).bind fun ticket => ?_
  cases ticket with
  | none => exact Program.Keeps.pure _
  | some ticket =>
    refine keeps_checked ticket.organizationId _ _ (fun other orgConfig => ?_)
      (Program.Keeps.pure _)
    cases ticket.comments.find? fun comment => comment.id == commentId with
    | none => exact Program.Keeps.pure _
    | some newComment =>
      dsimp only
      split_ifs
      · refine (Program.Keeps.reads _).bind fun now => ?_
        split_ifs
        · exact (keeps_generateAndStore ticket newComment orgConfig other).bind fun _ =>
            Program.Keeps.pure _
        · exact Program.Keeps.pure _
      · exact Program.Keeps.pure _

theorem keeps_handleCommentAdded (payload : CommentPayload) :
    Program.Keeps (Unserved organizationId count) (handleCommentAdded setup payload) := by
  unfold handleCommentAdded
  cases payload.commentId with
  | none => exact Program.Keeps.pure _
  | some commentId =>
    have released : Program.Keeps (Unserved organizationId count)
        (releaseCommentProcessingLock commentId) :=
      Program.Keeps.bind (keeps_cacheWrite (fun _ => rfl) fun _ => rfl) fun _ =>
        Program.Keeps.pure _
    have marked : Program.Keeps (Unserved organizationId count)
        (markCommentAsProcessed commentId) :=
      Program.Keeps.bind (keeps_cacheWrite (fun _ => rfl) fun _ => rfl) fun _ =>
        Program.Keeps.pure _
    refine (Program.Keeps.reads _).bind fun processed => ?_
    split_ifs
    · exact Program.Keeps.pure _
    · refine Program.Keeps.bind (keeps_cacheWrite (fun _ => rfl) fun _ => rfl) fun lockResult => ?_
      rcases lockResult with _ | _ | _
      · exact (keeps_processComment _ _).bind fun _ => Program.Keeps.pure _
      · exact Program.Keeps.pure _
      · refine Program.Keeps.ensuring ((keeps_processComment _ _).bind fun responded => ?_) released
        split_ifs
        · exact marked
        · exact Program.Keeps.pure _

theorem keeps_assisted (assist : CommentedTicket → AutomationCall (Option α))
    (kept : ∀ ticket, ticket.organizationId ≠ organizationId →
      Program.Keeps (Unserved organizationId count) (assist ticket)) (ticketId : Nat) :
    Program.Keeps (Unserved organizationId count) (assisted assist ticketId) := by
  -- The suggestion and the summary of the augmentation.
  refine Program.Keeps.recover ((keeps_query _).bind fun ticket => ?_) fun _ => Program.Keeps.pure _
  cases ticket with
  | none => exact Program.Keeps.pure _
  | some ticket =>
    exact keeps_checked ticket.organizationId _ _ (fun other _ => kept ticket other)
      (Program.Keeps.pure _)

theorem keeps_generateAgentSuggestionFromTicket (other : ticket.organizationId ≠ organizationId) :
    Program.Keeps (Unserved organizationId count)
      (generateAgentSuggestionFromTicket setup setup.provider suggestionText ticket) := by
  unfold generateAgentSuggestionFromTicket
  cases ticket.comments.reverse.find? fun comment => comment.authorType == .user with
  | none => exact Program.Keeps.pure _
  | some lastUserComment =>
    refine (Program.Keeps.reads _).bind fun now => ?_
    exact (keeps_execute other _ _ _).bind fun _ => Program.Keeps.pure _

theorem keeps_done (result : Except ServiceError α) :
    Program.Keeps inv (Program.done result : AutomationCall α) := by
  cases result with
  | error failure => exact Program.Keeps.fail failure
  | ok value => exact Program.Keeps.pure value

theorem keeps_generateTicketSummaryFromTicket (other : ticket.organizationId ≠ organizationId) :
    Program.Keeps (Unserved organizationId count)
      (generateTicketSummaryFromTicket setup setup.provider ticket) := by
  refine (keeps_execute other _ _ _).bind fun summary => ?_
  refine (keeps_done _).bind fun issue => ?_
  exact (Program.Keeps.reads _).bind fun now => Program.Keeps.pure _

theorem keeps_assistAtOnce (ticket : CommentedTicket)
    (other : ticket.organizationId ≠ organizationId) :
    Program.Keeps (Unserved organizationId count)
      (assistAtOnce setup setup.provider suggestionText ticketId ticket) := by
  unfold assistAtOnce
  refine (Program.Keeps.outcome (keeps_generateAgentSuggestionFromTicket ticket other)).bind
    fun suggestion => ?_
  refine (Program.Keeps.outcome (keeps_generateTicketSummaryFromTicket ticket other)).bind
    fun summary => ?_
  refine (keeps_done suggestion).bind fun suggestion => ?_
  refine (keeps_done summary).bind fun summary => ?_
  exact (Program.Keeps.reads _).bind fun now => Program.Keeps.pure _

theorem run_getTicketWithComments (state : AutomationWorld) :
    (getTicketWithComments ticketId).run state =
      if state.down .database then (.error (.unavailable "database"), state)
      else (.ok ((state.db.findTicket ticketId).map (commented state.db)), state) := by
  rw [getTicketWithComments, query, statement, run_attempt]
  split_ifs <;> rfl

theorem quickAssist_unserved (abortReason : Option String) (ticketId : Nat)
    (unserved : Unserved organizationId count state)
    (checked : ¬Unchecked organizationId state (.generateQuickAssist abortReason ticketId)) :
    Unserved organizationId count
      ((generateQuickAssist setup setup.provider suggestionText abortReason ticketId).run
        state).2 := by
  unfold generateQuickAssist
  rw [run_bind, run_getTicketWithComments]
  by_cases down : state.down .database = true
  · rw [if_pos down]
    exact unserved
  rw [if_neg down]
  cases found : state.db.findTicket ticketId with
  | none => exact unserved
  | some ticket =>
    cases abortReason with
    | some reason => exact unserved
    | none =>
      have other : (commented state.db ticket).organizationId ≠ organizationId := fun own =>
        checked ⟨rfl, by simpa using down, ticket, found, own⟩
      exact keeps_assistAtOnce ticketId _ other state unserved

theorem run_execute (up : state.down .provider = false) (orgId : Nat) (purpose : Purpose)
    (result : AIResult) (timeoutMessage : String) :
    (executeWithProviderGuards setup orgId purpose result timeoutMessage).run state =
      (.ok result, { state with
        served := ⟨orgId, purpose, result.aiUsage.tokensUsed⟩ :: state.served }) := by
  unfold executeWithProviderGuards
  cases setup.retries with
  | zero =>
    rw [withRetry, run_attempt, if_neg (by simp [up])]
  | succ retries =>
    rw [withRetry, run_recover, run_attempt, if_neg (by simp [up])]

variable (setup suggestionText) in
theorem suggestion_left {state : AutomationWorld} (up : state.down .provider = false)
    (ticket : CommentedTicket) : ∃ more,
      ((generateAgentSuggestionFromTicket setup setup.provider suggestionText ticket).run state).2 =
        { state with served := more ++ state.served } := by
  -- A suggestion leaves the provider as it is, and takes back no call.
  unfold generateAgentSuggestionFromTicket
  cases ticket.comments.reverse.find? fun comment => comment.authorType == .user with
  | none => exact ⟨[], rfl⟩
  | some lastUserComment =>
    dsimp only [currentTime, Setup.provider, generateAIResponse]
    rw [run_bind, Program.run_reads]
    dsimp only
    rw [run_bind, run_execute up]
    exact ⟨[_], rfl⟩

variable (setup) in
theorem summary_left (state : AutomationWorld) (up : state.down .provider = false)
    (ticket : CommentedTicket) :
    ∃ call : ProviderCall, call.organizationId = ticket.organizationId ∧
      ((generateTicketSummaryFromTicket setup setup.provider ticket).run state).2 =
        { state with served := call :: state.served } := by
  unfold generateTicketSummaryFromTicket
  dsimp only [Setup.provider, generateAISummary]
  rw [run_bind, run_execute up]
  exact ⟨_, rfl, rfl⟩

theorem assistAtOnce_serves (up : state.down .provider = false) (ticketId : Nat)
    (ticket : CommentedTicket) :
    callsFor ticket.organizationId state <
      callsFor ticket.organizationId
        ((assistAtOnce setup setup.provider suggestionText ticketId ticket).run state).2 := by
  obtain ⟨more, suggested⟩ := suggestion_left setup suggestionText up ticket
  obtain ⟨call, own, summarised⟩ :=
    summary_left setup { state with served := more ++ state.served } up ticket
  have served : ((assistAtOnce setup setup.provider suggestionText ticketId ticket).run
      state).2.served = call :: (more ++ state.served) := by
    unfold assistAtOnce
    rw [run_bind, run_outcome]
    dsimp only
    rw [suggested, run_bind, run_outcome]
    dsimp only
    rw [summarised]
    change Program.wp _ (fun _ (reached : AutomationWorld) =>
      reached.served = call :: (more ++ state.served)) _
    refine Program.Keeps.bind (keeps_done _) (fun _ => ?_) _ rfl
    refine Program.Keeps.bind (keeps_done _) fun _ => ?_
    exact Program.Keeps.bind (Program.Keeps.reads _) fun _ => Program.Keeps.pure _
  rw [callsFor, callsFor, served, List.countP_cons_of_pos (by simpa using own),
    List.countP_append]
  omega

variable (setup suggestionText) in
theorem quickAssist_serves {state : AutomationWorld} (up : state.down .provider = false)
    (abortReason : Option String) (ticketId : Nat)
    (unchecked : Unchecked organizationId state (.generateQuickAssist abortReason ticketId)) :
    callsFor organizationId state <
      callsFor organizationId
        ((generateQuickAssist setup setup.provider suggestionText abortReason ticketId).run
          state).2 := by
  obtain ⟨rfl, down, ticket, found, rfl⟩ := unchecked
  unfold generateQuickAssist
  rw [run_bind, run_getTicketWithComments, if_neg (by simp [down]), found]
  exact assistAtOnce_serves up ticketId (commented state.db ticket)

variable (setup) in
theorem stream_serves {state : AutomationWorld} (up : state.down .provider = false) (orgId : Nat)
    (text : String) :
    callsFor orgId state <
      callsFor orgId ((generateStreamController setup orgId text).run state).2 := by
  unfold generateStreamController
  rw [run_recover, run_bind, generateAIResponse, run_execute up]
  dsimp only
  rw [Program.run_pure]
  dsimp only [callsFor]
  rw [List.countP_cons_of_pos (by simp)]
  omega

theorem run_discarding (call : AutomationCall α) (state : AutomationWorld) :
    ((discarding call).run state).2 = (call.run state).2 := by
  rw [discarding, run_bind]
  rcases call.run state with ⟨_ | _, reached⟩ <;> rfl

theorem unserved_of_checked (entry : EntryPoint) (unserved : Unserved organizationId count state)
    (checked : ¬Unchecked organizationId state entry) :
    Unserved organizationId count ((enter setup suggestionText entry).run state).2 := by
  cases entry with
  | handleCommentAdded payload => exact keeps_handleCommentAdded payload state unserved
  | generateAgentSuggestion ticketId =>
    rw [enter, run_discarding]
    exact keeps_assisted _ (fun ticket => keeps_generateAgentSuggestionFromTicket ticket) ticketId
      state unserved
  | generateTicketSummary ticketId =>
    rw [enter, run_discarding]
    refine keeps_assisted _ (fun ticket other => ?_) ticketId state unserved
    exact (keeps_generateTicketSummaryFromTicket ticket other).bind fun _ => Program.Keeps.pure _
  | generateQuickAssist abortReason ticketId =>
    rw [enter, run_discarding]
    exact quickAssist_unserved abortReason ticketId unserved checked
  | generateController orgId purpose text =>
    rw [enter, run_discarding]
    refine Program.Keeps.recover ?_ (fun _ => Program.Keeps.pure _) state unserved
    refine keeps_checked orgId _ _ (fun other orgConfig => ?_) (Program.Keeps.pure _)
    exact (keeps_execute other _ _ _).bind fun _ => Program.Keeps.pure _
  | generateStreamController orgId text =>
    rw [enter, run_discarding]
    have kept : Program.Keeps (Unserved organizationId count)
        (generateStreamController setup orgId text) :=
      Program.Keeps.recover ((keeps_execute checked _ _ _).bind fun _ => Program.Keeps.pure _)
        fun _ => Program.Keeps.pure _
    exact kept state unserved

variable (setup suggestionText) in
/-- For an organisation that has disabled its AI, the provider is called by the ways in that do not
look at the configuration, and by no other. -/
theorem disabled_unserved_iff {state : AutomationWorld} (disabled : AIDisabled organizationId state)
    (entry : EntryPoint) :
    callsFor organizationId ((enter setup suggestionText entry).run (answering state)).2 =
        callsFor organizationId (answering state) ↔
      ¬Unchecked organizationId state entry := by
  have up : (answering state).down .provider = false := rfl
  have same : Unchecked organizationId (answering state) entry ↔
      Unchecked organizationId state entry := by
    cases entry <;> rfl
  rw [← same]
  constructor
  · intro unserved unchecked
    cases entry with
    | generateQuickAssist abortReason ticketId =>
      have served := quickAssist_serves setup suggestionText up abortReason
        ticketId unchecked
      rw [enter, run_discarding] at unserved
      omega
    | generateStreamController orgId text =>
      have served := stream_serves setup up orgId text
      rw [enter, run_discarding] at unserved
      obtain rfl : orgId = organizationId := unchecked
      omega
    | handleCommentAdded | generateAgentSuggestion | generateTicketSummary | generateController =>
      exact unchecked
  · intro checked
    have later : Unserved organizationId (callsFor organizationId (answering state))
        ((enter setup suggestionText entry).run (answering state)).2 :=
      unserved_of_checked entry ⟨rfl, disabled⟩ checked
    exact later.calls

end Disabled

def plainSetup : Setup where
  responseText := fun ticket comment => ticket.title ++ ": " ++ comment.message
  summaryText := fun comments => "\n".intercalate (comments.map (·.message))
  toLowerCase := String.toLower

def plainSuggestion (ticket : CommentedTicket) (comment : TicketComment) (_ : Nat) : String :=
  ticket.title ++ ": " ++ comment.message

/-- A shop that does without, and one of its tickets. -/
def quietShop : AutomationWorld where
  db :=
    { tickets := [{ id := 1, title := "Refund", organizationId := 1, createdById := 1 }]
      ticketComments :=
        [{ id := 2, ticketId := 1, authorId := some 1, authorType := .user, message := "Hello?" }] }
  configs := [{ organizationId := 1, aiEnabled := false }]

theorem disabled_unserved_suggestion :
    callsFor 1 ((enter plainSetup plainSuggestion (.generateAgentSuggestion 1)).run
      (answering quietShop)).2 = callsFor 1 (answering quietShop) :=
  (disabled_unserved_iff plainSetup plainSuggestion ⟨_, rfl, rfl⟩ (.generateAgentSuggestion 1)).mpr
    id

/-- A quick assist asks for a suggestion and for a summary. -/
theorem quick_assist_served : AIDisabled 1 quietShop ∧
    callsFor 1 ((enter plainSetup plainSuggestion (.generateQuickAssist none 1)).run
      quietShop).2 = 2 :=
  ⟨⟨_, rfl, rfl⟩, by decide +kernel⟩

end HelpForge.Automation
