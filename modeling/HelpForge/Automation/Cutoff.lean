import HelpForge.Automation.Assignees
import HelpForge.Automation.Budget

set_option autoImplicit false

namespace HelpForge.Automation

open Lib.Program (attempt_ok bind_ok pure_ok reads_bind_ok)

open Lib Tickets
open Lib.Program (Each)

variable {α : Type} {state : AutomationWorld} {result : Except ServiceError α}
  {program : AutomationCall α} {reached : AutomationWorld} {middle : AutomationWorld}

section Steps

variable {ticketId : Nat} {found left : AutomationWorld}

structure Besides (ticketId : Nat) (found left : AutomationWorld) : Prop where
  budget : Beside ticketId found left
  active : (left.db.findTicket ticketId).map (·.aiActive) =
    (found.db.findTicket ticketId).map (·.aiActive)

theorem Besides.refl (state : AutomationWorld) : Besides ticketId state state :=
  ⟨Beside.refl state, rfl⟩

theorem Besides.trans (one : Besides ticketId found middle) (other : Besides ticketId middle left) :
    Besides ticketId found left where
  budget :=
    { answers := other.budget.answers.trans one.budget.answers
      ticket := other.budget.ticket.trans one.budget.ticket
      limits := fun organizationId =>
        (other.budget.limits organizationId).trans (one.budget.limits organizationId) }
  active := other.active.trans one.active

theorem Quiet.besides (quiet : Quiet found left) : Besides ticketId found left :=
  ⟨quiet.beside, by rw [quiet.db]⟩

theorem Quiet.trans (one : Quiet found middle) (other : Quiet middle left) : Quiet found left :=
  ⟨other.db.trans one.db, other.now.trans one.now, other.configs.trans one.configs,
    other.locks.trans one.locks, other.client.trans one.client, other.up.trans one.up⟩

theorem run_quiet (quiet : StepsQuietly program) (ran : program.run state = (result, reached)) :
    Quiet state reached := by
  have whole := quiet.run Quiet.refl (fun _ _ _ => Quiet.trans) (fun _ _ step => step) state
  rwa [ran] at whole

abbrev StepsBesides {α : Type} (ticketId : Nat) (program : AutomationCall α) : Prop :=
  program.Each fun change state => Besides ticketId state (change state)

theorem run_besides (besides : StepsBesides ticketId program)
    (ran : program.run state = (result, reached)) : Besides ticketId state reached := by
  have whole :=
    besides.run Besides.refl (fun _ _ _ => Besides.trans) (fun _ _ step => step) state
  rwa [ran] at whole

theorem updateTicket_besides (patch : TicketPatch) (uncounted : patch.aiMessageCount = none)
    (untouched : patch.aiActive = none) : StepsBesides ticketId (updateTicket ticketId patch) := by
  refine updateTicket_stores Besides.refl patch fun state ticket db found same stored => ?_
  subst same
  refine ⟨⟨rfl, (congrArg _ stored).trans ?_, fun _ => rfl⟩, (congrArg _ stored).trans ?_⟩
  · simp [found, TicketPatch.apply, uncounted]
  · simp [found, TicketPatch.apply, untouched]

theorem handleSmartAssign_besides (ticket : Ticket) (own : ticket.id = ticketId) :
    StepsBesides ticketId (handleSmartAssign ticket) := by
  refine Each.recover ?_ fun _ => Each.pure ()
  refine ((query_quiet _).weaken fun _ _ quiet => quiet.besides).bind fun agents => ?_
  cases selectBestAgent agents with
  | none => exact Each.pure ()
  | some agent =>
    rw [own]
    exact (updateTicket_besides _ rfl rfl).bind fun _ => Each.pure ()

end Steps

theorem statement_ok (body : AutomationWorld → Except ServiceError (α × Database))
    (state reached : AutomationWorld) (value : α)
    (done : (statement body).run state = (.ok value, reached)) :
    ∃ db, body state = .ok (value, db) ∧
      reached = { state with toWorld := state.withDb fun _ => db } :=
  statement_written ((attempt_ok ..).mp done)

theorem query_ok (view : AutomationWorld → α) (state reached : AutomationWorld) (value : α)
    (read : (query view).run state = (.ok value, reached)) :
    value = view state ∧ reached = state := by
  obtain ⟨db, looked, rfl⟩ := statement_ok _ _ _ _ read
  cases looked
  exact ⟨rfl, rfl⟩

structure Standing (ticketId organizationId allowed counted answers : Nat) (active : Bool)
    (state : AutomationWorld) : Prop where
  ticket : (state.db.findTicket ticketId).map (fun ticket =>
    (ticket.organizationId, ticket.aiMessageCount)) = some (organizationId, counted)
  active : (state.db.findTicket ticketId).map (·.aiActive) = some active
  answers : answersOn ticketId state.db = answers
  limit : maxMessages state organizationId = allowed

section Standing

variable {ticketId organizationId allowed counted answers : Nat} {active : Bool}
  {found left : AutomationWorld}

section Standing

variable (standing : Standing ticketId organizationId allowed counted answers active found)

include standing

theorem Standing.besides (besides : Besides ticketId found left) :
    Standing ticketId organizationId allowed counted answers active left where
  ticket := besides.budget.ticket.trans standing.ticket
  active := besides.active.trans standing.active
  answers := besides.budget.answers.trans standing.answers
  limit := (besides.budget.limits _).trans standing.limit

theorem Standing.row (row : Ticket) (there : found.db.findTicket ticketId = some row) :
    row.organizationId = organizationId ∧ row.aiMessageCount = counted ∧ row.aiActive = active := by
  have counts := standing.ticket
  have activity := standing.active
  rw [there, Option.map_some, Option.some.injEq] at counts activity
  exact ⟨congrArg Prod.fst counts, congrArg Prod.snd counts, activity⟩

theorem Standing.stored (response : String) (action : ActionType) (comment : TicketComment)
    (done : (storeAIComment ticketId response action).run found = (.ok comment, left)) :
    Standing ticketId organizationId allowed counted (answers + 1) active left := by
  -- One more answer, which is not counted yet.
  obtain ⟨db, wrote, rfl⟩ := statement_ok _ _ _ _ done
  split_ifs at wrote
  cases wrote
  refine ⟨standing.ticket, standing.active, ?_, standing.limit⟩
  rw [← standing.answers]
  exact answersOn_insertComment _ _ rfl rfl

theorem Standing.updated (patch : TicketPatch) (ticket : Ticket)
    (done : (updateTicket ticketId patch).run found = (.ok ticket, left)) :
    Standing ticketId organizationId allowed (patch.aiMessageCount.getD counted) answers
      (patch.aiActive.getD active) left := by
  obtain ⟨old, there, rfl, -, -, rfl⟩ := updateTicket_ok ticketId patch ticket _ _ done
  obtain ⟨rfl, rfl, rfl⟩ := standing.row old there
  have stored := findTicket_stored found.db ticketId old
    { patch.apply old with updatedAt := found.now } there (findTicket_id _ ticketId old there)
  exact ⟨congrArg _ stored, congrArg _ stored, standing.answers, standing.limit⟩

end Standing

end Standing

section Answer

variable (setup : Setup)

def actionFor (state : AutomationWorld) (ticket : CommentedTicket) : ActionType :=
  -- The action that an answer leads to; its text does not depend on the ticket.
  let orgConfig := state.configs.find? fun config => config.organizationId == ticket.organizationId
  let context := confidenceContext setup ticket (callOpenAI "").content state.now
  (decideAction (calculateConfidence context).confidence
    (decisionOptions ticket.toTicket orgConfig)).type

/-- A comment is answered from start to end, and the answer does not resolve the ticket. -/
structure Answers (ticketId commentId : Nat) (before after : AutomationWorld) : Prop where
  answered : (processComment setup ticketId commentId).run before = (.ok true, after)
  unresolved : ∀ row, before.db.findTicket ticketId = some row →
    actionFor setup before (commented before.db row) ≠ .autoResolve

theorem processComment_answered (ticketId commentId : Nat) (before after : AutomationWorld)
    (answered : (processComment setup ticketId commentId).run before = (.ok true, after)) :
    ∃ row newComment, before.db.findTicket ticketId = some row ∧
      (shouldProcessAI (commented before.db row)
        (before.configs.find? fun config => config.organizationId == row.organizationId)
        before.now).canProcess = true ∧
      (generateAndStoreAIResponse setup (commented before.db row) newComment
        (before.configs.find? fun config => config.organizationId == row.organizationId)).run
          before = (.ok (), after) := by
  -- An answer that is given has found the AI enabled, and room.
  obtain ⟨found, reached, looked, answered⟩ := (bind_ok ..).mp answered
  obtain ⟨rfl, rfl⟩ := query_ok _ _ _ _ looked
  cases there : reached.db.findTicket ticketId with
  | none => simp [there] at answered
  | some row =>
    simp only [there, Option.map_some] at answered
    obtain ⟨orgConfig, reached, configured, answered⟩ := (bind_ok ..).mp answered
    obtain ⟨rfl, rfl⟩ := query_ok _ _ _ _ configured
    split_ifs at answered
    · cases sought : (commented reached.db row).comments.find? fun comment =>
          comment.id == commentId with
      | none => simp [sought] at answered
      | some newComment =>
        simp only [sought] at answered
        split_ifs at answered
        · rw [reads_bind_ok] at answered
          split_ifs at answered with canProcess
          · obtain ⟨_, middle, generated, done⟩ := (bind_ok ..).mp answered
            obtain ⟨-, rfl⟩ := (pure_ok ..).mp done
            exact ⟨row, newComment, rfl, canProcess, generated⟩
          · simp at answered
        · simp at answered
    · simp at answered

theorem withRetry_value (fn : AutomationCall α) (holds : α → Prop)
    (once : ∀ state value reached, fn.run state = (.ok value, reached) → holds value)
    (retries : Nat) (state reached : AutomationWorld) (value : α)
    (done : (withRetry fn retries).run state = (.ok value, reached)) : holds value := by
  induction retries generalizing state with
  | zero => exact once state value reached done
  | succ retries ih =>
    rw [withRetry, Program.run_recover] at done
    rcases ran : fn.run state with ⟨failure | first, middle⟩
    · rw [ran] at done
      exact ih middle done
    · rw [ran] at done
      cases done
      exact once state value reached ran

theorem generateAIResponse_ok (organizationId : Nat) (purpose : Purpose) (context : String)
    (state reached : AutomationWorld) (aiResult : AIResult)
    (done : (generateAIResponse setup organizationId purpose context).run state =
      (.ok aiResult, reached)) : aiResult = callOpenAI context := by
  refine withRetry_value _ (fun aiResult => aiResult = callOpenAI context) ?_ _ _ _ _ done
  intro state value reached once
  have outcome := (attempt_ok ..).mp once
  split_ifs at outcome
  cases outcome
  rfl

theorem canProcess_active {ticket : CommentedTicket} {orgConfig : Option AIConfig} {now : Nat}
    (canProcess : (shouldProcessAI ticket orgConfig now).canProcess = true) :
    ticket.aiActive = true := by
  by_contra disabled
  rw [Bool.not_eq_true] at disabled
  simp [shouldProcessAI, disabled] at canProcess

theorem countAIResponses_commented (db : Database) (row : Ticket) :
    countAIResponses (commented db row).comments = answersOn row.id db := by
  have sorted := List.perm_insertionSort (fun first second : TicketComment =>
    first.createdAt ≤ second.createdAt) (commentsOf db row.id)
  refine (sorted.countP_eq _).trans ?_
  rw [commentsOf, List.countP_filter]
  simp only [answersOn, Bool.and_comm]

theorem Standing.counted {ticketId organizationId allowed counted answers responses : Nat}
    {found left : AutomationWorld} {ticket written : Ticket} {action : ActionType}
    (standing : Standing ticketId organizationId allowed counted answers true found)
    (counts : ticket.aiMessageCount = counted) (unresolved : action ≠ .autoResolve)
    (done : (updateTicket ticketId (buildTicketUpdate ticket action responses)).run found =
      (.ok written, left)) :
    Standing ticketId organizationId allowed (counted + 1) answers
      (responses + 1 < aiMaxMessagesPerTicket) left := by
  -- The answer is counted, and if there are enough of them the AI is disabled.
  have updated := standing.updated _ written done
  subst counts
  by_cases full : aiMaxMessagesPerTicket ≤ responses + 1
  · simpa [buildTicketUpdate, unresolved, full, Nat.not_lt.mpr full] using updated
  · simpa [buildTicketUpdate, unresolved, full, Nat.lt_of_not_le full] using updated

theorem answer_standing {ticketId organizationId allowed counted answers : Nat}
    {before after : AutomationWorld}
    (standing : Standing ticketId organizationId allowed counted answers true before)
    (row : Ticket) (there : before.db.findTicket ticketId = some row)
    (newComment : TicketComment)
    (unresolved : actionFor setup before (commented before.db row) ≠ .autoResolve)
    (generated : (generateAndStoreAIResponse setup (commented before.db row) newComment
      (before.configs.find? fun config => config.organizationId == row.organizationId)).run
        before = (.ok (), after)) :
    Standing ticketId organizationId allowed (counted + 1) (answers + 1)
      (answers + 1 < aiMaxMessagesPerTicket) after := by
  -- An answer is stored and counted.
  obtain rfl : row.id = ticketId := findTicket_id _ ticketId row there
  obtain ⟨-, counts, -⟩ := standing.row row there
  have responses := countAIResponses_commented before.db row
  rw [standing.answers] at responses
  unfold generateAndStoreAIResponse at generated
  obtain ⟨aiResult, asked, provided, generated⟩ := (bind_ok ..).mp generated
  rw [reads_bind_ok] at generated
  obtain ⟨comment, stored, storing, generated⟩ := (bind_ok ..).mp generated
  obtain ⟨_, logged, logging, generated⟩ := (bind_ok ..).mp generated
  have quiet := run_quiet (generateAIResponse_quiet setup _ _ _) provided
  have content := generateAIResponse_ok setup _ _ _ _ _ _ provided
  have same : (decideAction
      (calculateConfidence (confidenceContext setup (commented before.db row) aiResult.content
        asked.now)).confidence
      (decisionOptions (commented before.db row).toTicket
        (before.configs.find? fun config => config.organizationId == row.organizationId))).type =
      actionFor setup before (commented before.db row) := by
    rw [content, quiet.now]
    rfl
  have answered := (standing.besides quiet.besides).stored _ _ comment storing
  have standing := answered.besides (run_quiet (logAIActivity_quiet _ _ _) logging).besides
  dsimp only at generated
  rw [same, responses] at generated
  split_ifs at generated
  · obtain ⟨_, assigned, assigning, generated⟩ := (bind_ok ..).mp generated
    obtain ⟨written, last, updating, ended⟩ := (bind_ok ..).mp generated
    obtain ⟨-, rfl⟩ := (pure_ok ..).mp ended
    have standing := standing.besides (run_besides (handleSmartAssign_besides row rfl) assigning)
    exact standing.counted counts unresolved updating
  · obtain ⟨written, last, updating, ended⟩ := (bind_ok ..).mp generated
    obtain ⟨-, rfl⟩ := (pure_ok ..).mp ended
    exact standing.counted counts unresolved updating

end Answer

section Runs

variable (setup : Setup) (ticketId organizationId allowed : Nat)

/-- A ticket from its creation on: `stored` comments have been answered, one after the other, in an
organisation that allows so many answers. Nobody has toggled the AI. -/
inductive AnsweredInTurn : Nat → AutomationWorld → Prop
  | created (state : AutomationWorld)
    (fresh : Standing ticketId organizationId allowed 0 0 true state) : AnsweredInTurn 0 state
  | answer (stored commentId : Nat) (before after : AutomationWorld)
    (run : AnsweredInTurn stored before)
    (answers : Answers setup ticketId commentId before after) : AnsweredInTurn (stored + 1) after
  | besides (stored : Nat) (before after : AutomationWorld) (run : AnsweredInTurn stored before)
    (besides : Besides ticketId before after) : AnsweredInTurn stored after

def MayAnswer (state : AutomationWorld) : Prop :=
  -- The ticket has the AI enabled, and the guard finds neither it disabled nor the budget used.
  ∃ row, state.db.findTicket ticketId = some row ∧ row.aiActive = true ∧
    ∀ now, (shouldProcessAI (commented state.db row)
      (state.configs.find? fun config => config.organizationId == row.organizationId) now).reason ∉
        [GuardReason.aiDisabled, .maxMessagesReached]

theorem guards_pass_iff (ticket : CommentedTicket) (orgConfig : Option AIConfig) (now : Nat) :
    (shouldProcessAI ticket orgConfig now).reason ∉
        [GuardReason.aiDisabled, .maxMessagesReached] ↔
      ticket.aiActive = true ∧
        ticket.aiMessageCount < (orgConfig.map (·.maxAIResponses)).getD aiMaxMessagesPerTicket := by
  unfold shouldProcessAI
  dsimp only
  split_ifs with disabled full <;> simp_all

variable {setup ticketId organizationId allowed}

section AnsweredInTurn

variable {stored : Nat} (run : AnsweredInTurn setup ticketId organizationId allowed stored state)

include run

theorem AnsweredInTurn.standing :
    Standing ticketId organizationId allowed stored stored (stored < aiMaxMessagesPerTicket)
        state ∧ stored ≤ aiMaxMessagesPerTicket := by
  induction run with
  | created state fresh => exact ⟨fresh, Nat.zero_le _⟩
  | besides stored before after _ besides ih => exact ⟨ih.1.besides besides, ih.2⟩
  | answer stored commentId before after _ answers ih =>
    obtain ⟨row, newComment, there, canProcess, generated⟩ :=
      processComment_answered setup ticketId commentId before after answers.answered
    -- The guard has found the AI enabled, so that fewer answers than the constant are stored.
    have few : stored < aiMaxMessagesPerTicket := by
      have active : row.aiActive = true := canProcess_active canProcess
      rw [(ih.1.row row there).2.2] at active
      exact of_decide_eq_true active
    have standing := ih.1
    rw [decide_eq_true few] at standing
    exact ⟨answer_standing setup standing row there newComment
      (answers.unresolved row there) generated, few⟩

theorem AnsweredInTurn.mayAnswer_iff :
    MayAnswer ticketId state ↔ stored < aiMaxMessagesPerTicket ∧ stored < allowed := by
  have standing := run.standing.1
  constructor
  · rintro ⟨row, there, active, pass⟩
    obtain ⟨rfl, rfl, enabled⟩ := standing.row row there
    rw [enabled] at active
    refine ⟨of_decide_eq_true active, ?_⟩
    rw [← standing.limit]
    exact ((guards_pass_iff ..).mp (pass 0)).2
  · rintro ⟨few, room⟩
    cases there : state.db.findTicket ticketId with
    | none => simpa [there] using standing.active
    | some row =>
      obtain ⟨rfl, rfl, enabled⟩ := standing.row row there
      rw [decide_eq_true few] at enabled
      rw [← standing.limit] at room
      exact ⟨row, there, enabled, fun now => (guards_pass_iff ..).mpr ⟨enabled, room⟩⟩

end AnsweredInTurn

/-- The ticket may be answered as long as the organisation has answers left: if it allows no more
than the constant, and before so many are stored. -/
theorem cutoff_agrees_iff (setup : Setup) (ticketId organizationId allowed stored : Nat)
    (state : AutomationWorld)
    (run : AnsweredInTurn setup ticketId organizationId allowed stored state) :
    (MayAnswer ticketId state ↔ stored < allowed) ↔
      allowed ≤ aiMaxMessagesPerTicket ∨ stored < aiMaxMessagesPerTicket := by
  rw [run.mayAnswer_iff]
  have few := run.standing.2
  omega

end Runs

def generous : AutomationWorld :=
  -- The organisation allows ten answers.
  { waiting with configs := [{ organizationId := 3, maxAIResponses := 10 }] }

def askedAgain (state : AutomationWorld) : AutomationWorld :=
  { state with
    toWorld := { state.withDb (insertComment { askedForHelp with
      id := state.db.nextId, createdAt := state.now + 60000 }) with now := state.now + 60000 } }

def afterAnswers : Nat → AutomationWorld
  | 0 => generous
  | stored + 1 =>
    ((processComment plainTexts 10 (afterAnswers stored).db.nextId).run
      (askedAgain (afterAnswers stored))).2

theorem askedAgain_besides (state : AutomationWorld) : Besides 10 state (askedAgain state) := by
  refine ⟨⟨?_, rfl, fun _ => rfl⟩, rfl⟩
  simp [askedAgain, answersOn, insertComment, World.withDb, askedForHelp]

def answersEach : Nat → AutomationWorld → Bool
  -- Asked as often as this, the assistant answers each time and closes nothing.
  | 0, _ => true
  | more + 1, state =>
    let asked := askedAgain state
    let answer := (processComment plainTexts 10 state.db.nextId).run asked
    decide (answer.1 = .ok true) &&
      (asked.db.findTicket 10).all (fun row =>
        actionFor plainTexts asked (commented asked.db row) ≠ .autoResolve) &&
      answersEach more answer.2

theorem answersEach_left (stored : Nat) (few : stored ≤ 5) :
    answersEach (5 - stored) (afterAnswers stored) = true := by
  induction stored with
  | zero => decide +kernel
  | succ stored ih =>
    have before := ih (by omega)
    have left : 5 - stored = 5 - (stored + 1) + 1 := by omega
    rw [left, answersEach, Bool.and_eq_true] at before
    exact before.2

theorem afterAnswers_answered (stored : Nat) (few : stored < 5) :
    ((processComment plainTexts 10 (afterAnswers stored).db.nextId).run
        (askedAgain (afterAnswers stored))).1 = .ok true ∧
      ((askedAgain (afterAnswers stored)).db.findTicket 10).all (fun row =>
        actionFor plainTexts (askedAgain (afterAnswers stored))
          (commented (askedAgain (afterAnswers stored)).db row) ≠ .autoResolve) = true := by
  have next := answersEach_left stored (by omega)
  have left : 5 - stored = 5 - (stored + 1) + 1 := by omega
  rw [left, answersEach, Bool.and_eq_true, Bool.and_eq_true, decide_eq_true_eq] at next
  exact next.1

theorem afterAnswers_inTurn (stored : Nat) (few : stored ≤ 5) :
    AnsweredInTurn plainTexts 10 3 10 stored (afterAnswers stored) := by
  induction stored with
  | zero => exact .created _ ⟨rfl, rfl, rfl, rfl⟩
  | succ stored ih =>
    obtain ⟨answered, unresolved⟩ := afterAnswers_answered stored few
    refine .answer stored (afterAnswers stored).db.nextId (askedAgain (afterAnswers stored)) _
      (.besides stored (afterAnswers stored) _ (ih (by omega)) (askedAgain_besides _)) ?_
    refine ⟨Prod.ext answered rfl, fun row there => ?_⟩
    simpa using (Option.all_eq_true ..).mp unresolved row there

theorem cutoff_agrees_early :
    (MayAnswer 10 (afterAnswers 2) ↔ 2 < 10) ↔
      10 ≤ aiMaxMessagesPerTicket ∨ 2 < aiMaxMessagesPerTicket :=
  cutoff_agrees_iff plainTexts 10 3 10 2 _ (afterAnswers_inTurn 2 (by decide))

/-- Half of the answers are left, and none is given. -/
theorem cutoff_too_early :
    AnsweredInTurn plainTexts 10 3 10 5 (afterAnswers 5) ∧
      ¬(MayAnswer 10 (afterAnswers 5) ↔ 5 < 10) := by
  have run := afterAnswers_inTurn 5 (by decide)
  refine ⟨run, fun agrees => ?_⟩
  have few := (run.mayAnswer_iff.mp (agrees.mpr (by decide))).1
  exact absurd few (by decide)

end HelpForge.Automation
