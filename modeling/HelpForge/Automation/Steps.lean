import HelpForge.Automation.Service
import HelpForge.Lib.Statements
import HelpForge.Tickets.Calls

set_option autoImplicit false

namespace HelpForge.Automation

open Lib Tickets
open Lib.Program (Each)

structure Quiet (found left : AutomationWorld) : Prop where
  db : left.db = found.db
  now : left.now = found.now
  configs : left.configs = found.configs
  locks : left.processing = found.processing
  client : left.cacheClient = found.cacheClient
  up : left.down = found.down

theorem Quiet.refl (state : AutomationWorld) : Quiet state state := ⟨rfl, rfl, rfl, rfl, rfl, rfl⟩

abbrev StepsQuietly {α : Type} (program : AutomationCall α) : Prop :=
  program.Each fun change state => Quiet state (change state)

variable {α : Type}

section Quiet

variable (setup : Setup) (rel : AutomationWorld → AutomationWorld → Prop)

theorem statement_each {body : AutomationWorld → Except ServiceError (α × Database)}
    (refl : ∀ state, rel state state)
    (writes : ∀ state value db, body state = .ok (value, db) →
      rel state { state with toWorld := state.withDb fun _ => db }) :
    (statement body).Each fun change state => rel state (change state) := by
  refine Each.attempt refl fun state value reached outcome => ?_
  obtain ⟨db, wrote, rfl⟩ := statement_written outcome
  exact writes state value db wrote

variable (view : AutomationWorld → α)

theorem query_quiet : StepsQuietly (query view) := by
  refine statement_each Quiet Quiet.refl fun state value db outcome => ?_
  cases outcome
  exact ⟨rfl, rfl, rfl, rfl, rfl, rfl⟩

theorem cacheWrite_each {answer : AutomationWorld → Bool}
    {change : AutomationWorld → AutomationWorld} (refl : ∀ state, rel state state) (writes : ∀ state, rel state (change state)) :
    (cacheWrite answer change).Each fun change state => rel state (change state) := by
  refine Each.attempt refl fun state value reached outcome => ?_
  split_ifs at outcome <;> cases outcome
  · exact refl state
  · exact refl state
  · exact writes state

theorem markCommentAsProcessed_quiet (commentId : Nat) :
    StepsQuietly (markCommentAsProcessed commentId) := by
  refine Each.bind (cacheWrite_each Quiet Quiet.refl fun _ => ?_) fun _ => Each.pure ()
  exact ⟨rfl, rfl, rfl, rfl, rfl, rfl⟩

theorem incrementHashValues_quiet {tokensUsed requests : AutomationWorld → AutomationWorld}
    (quiet : ∀ state, Quiet state (tokensUsed state) ∧ Quiet state (requests state)) :
    StepsQuietly (incrementHashValues tokensUsed requests) := by
  refine (cacheWrite_each Quiet Quiet.refl fun state => (quiet state).1).bind fun answered => ?_
  split_ifs
  · exact (cacheWrite_each Quiet Quiet.refl fun state => (quiet state).2).bind fun _ => Each.pure ()
  · exact Each.pure ()

theorem logAIActivity_quiet (organizationId ticketId : Nat) (aiUsage : AIUsage) :
    StepsQuietly (logAIActivity organizationId ticketId aiUsage) := by
  have counts (state left : AutomationWorld)
      (same : left = { state with
        ticketUsage := left.ticketUsage, organizationUsage := left.organizationUsage }) :
      Quiet state left := by
    rw [same]
    exact ⟨rfl, rfl, rfl, rfl, rfl, rfl⟩
  refine (incrementHashValues_quiet fun _ => ?_).bind fun _ => incrementHashValues_quiet fun _ => ?_
  · exact ⟨counts _ _ rfl, counts _ _ rfl⟩
  · exact ⟨counts _ _ rfl, counts _ _ rfl⟩

theorem withRetry_each {rule : (AutomationWorld → AutomationWorld) → AutomationWorld → Prop}
    {fn : AutomationCall α} (each : fn.Each rule) (retries : Nat) :
    (withRetry fn retries).Each rule := by
  induction retries with
  | zero => exact each
  | succ retries ih => exact each.recover fun _ => ih

theorem generateAIResponse_quiet (organizationId : Nat) (purpose : Purpose) (context : String) :
    StepsQuietly (generateAIResponse setup organizationId purpose context) := by
  refine withRetry_each (Each.attempt Quiet.refl fun state value reached outcome => ?_) _
  split_ifs at outcome
  cases outcome
  exact ⟨rfl, rfl, rfl, rfl, rfl, rfl⟩

theorem reads_quiet : StepsQuietly (Program.reads view : AutomationCall α) :=
  Each.reads Quiet.refl

end Quiet

section Writes

structure Spans (rel : AutomationWorld → AutomationWorld → Prop) (ticketId commentId : Nat) :
    Prop where
  quiet : ∀ state left, Quiet state left → rel state left
  locks : ∀ state held,
    rel state { state with processing := Function.update state.processing commentId held }
  answers : ∀ (state : AutomationWorld) comment, comment.ticketId = ticketId →
    comment.authorType = .ai →
    rel state { state with toWorld := state.withDb (insertComment comment) }
  updates : ∀ (state : AutomationWorld) (patch : TicketPatch) ticket,
    state.db.findTicket ticketId = some ticket →
    rel state { state with
      toWorld := state.withDb
        (storeTicket ticketId { patch.apply ticket with updatedAt := state.now }) }

variable (setup : Setup) {rel : AutomationWorld → AutomationWorld → Prop} {ticketId commentId : Nat}

theorem Spans.refl (spans : Spans rel ticketId commentId) (state : AutomationWorld) :
    rel state state :=
  spans.quiet state state (Quiet.refl state)

theorem Spans.quietly (spans : Spans rel ticketId commentId) {program : AutomationCall α}
    (quiet : StepsQuietly program) : program.Each fun change state => rel state (change state) :=
  quiet.weaken fun _ _ => spans.quiet _ _

theorem updateTicket_stores {related : AutomationWorld → AutomationWorld → Prop}
    (refl : ∀ state, related state state) (patch : TicketPatch)
    (stores : ∀ state ticket db, state.db.findTicket ticketId = some ticket →
      db = storeTicket ticketId { patch.apply ticket with updatedAt := state.now } state.db →
      db.findTicket ticketId = some { patch.apply ticket with updatedAt := state.now } →
      related state { state with toWorld := state.withDb fun _ => db }) :
    (updateTicket ticketId patch).Each fun change state => related state (change state) := by
  refine statement_each related refl fun state value db outcome => ?_
  cases found : state.db.findTicket ticketId with
  | none => simp [found] at outcome
  | some ticket =>
    simp only [found] at outcome
    split_ifs at outcome
    cases outcome
    have stored := findTicket_stored state.db ticketId ticket
      { patch.apply ticket with updatedAt := state.now } found
      (findTicket_id state.db ticketId ticket found)
    exact stores state ticket _ found rfl stored

section Spans

variable (spans : Spans rel ticketId commentId)

include spans

theorem updateTicket_each (patch : TicketPatch) :
    (updateTicket ticketId patch).Each fun change state => rel state (change state) := by
  refine updateTicket_stores spans.refl patch fun state ticket db found same _ => ?_
  subst same
  exact spans.updates state patch ticket found

theorem storeAIComment_each (response : String) (action : ActionType) :
    (storeAIComment ticketId response action).Each fun change state => rel state (change state) := by
  refine statement_each rel spans.refl fun state value db outcome => ?_
  split_ifs at outcome
  cases outcome
  exact spans.answers state _ rfl rfl

theorem handleSmartAssign_each (ticket : Ticket) (own : ticket.id = ticketId) :
    (handleSmartAssign ticket).Each fun change state => rel state (change state) := by
  refine Each.recover ?_ fun _ => Each.pure ()
  refine (spans.quietly (query_quiet _)).bind fun agents => ?_
  cases selectBestAgent agents with
  | none => exact Each.pure ()
  | some agent =>
    rw [own]
    exact (updateTicket_each spans _).bind fun _ => Each.pure ()

theorem generateAndStoreAIResponse_each (ticket : CommentedTicket) (own : ticket.id = ticketId)
    (latestComment : TicketComment) (orgConfig : Option AIConfig) :
    (generateAndStoreAIResponse setup ticket latestComment orgConfig).Each
      fun change state => rel state (change state) := by
  unfold generateAndStoreAIResponse
  rw [own]
  refine (spans.quietly (generateAIResponse_quiet setup _ _ _)).bind fun aiResult => ?_
  refine (spans.quietly (reads_quiet _)).bind fun now => ?_
  refine (storeAIComment_each spans _ _).bind fun _ => ?_
  refine (spans.quietly (logAIActivity_quiet _ _ _)).bind fun _ => ?_
  dsimp only
  split_ifs
  · refine (handleSmartAssign_each spans ticket.toTicket own).bind fun _ => ?_
    exact (updateTicket_each spans _).bind fun _ => Each.pure ()
  · exact (updateTicket_each spans _).bind fun _ => Each.pure ()

end Spans

theorem processComment_each (spans : ∀ ticketId, Spans rel ticketId commentId) :
    (processComment setup ticketId commentId).Each fun change state => rel state (change state) := by
  refine ((spans ticketId).quietly (query_quiet _)).bind fun ticket => ?_
  cases ticket with
  | none => exact Each.pure _
  | some ticket =>
    refine ((spans ticketId).quietly (query_quiet _)).bind fun orgConfig => ?_
    split_ifs
    · cases ticket.comments.find? fun comment => comment.id == commentId with
      | none => exact Each.pure _
      | some newComment =>
        dsimp only
        split_ifs
        · refine ((spans ticketId).quietly (reads_quiet _)).bind fun now => ?_
          split_ifs
          · exact (generateAndStoreAIResponse_each setup (spans ticket.id) ticket rfl _ _).bind
              fun _ => Each.pure _
          · exact Each.pure _
        · exact Each.pure _
    · exact Each.pure _

theorem handleCommentAdded_each (payload : CommentPayload)
    (spans : ∀ ticketId, ∀ commentId ∈ payload.commentId, Spans rel ticketId commentId) :
    (handleCommentAdded setup payload).Each fun change state => rel state (change state) := by
  unfold handleCommentAdded
  cases named : payload.commentId with
  | none => exact Each.pure ()
  | some commentId =>
    have all (ticketId : Nat) : Spans rel ticketId commentId := spans ticketId commentId named
    have span := all payload.ticketId
    have processes : (processComment setup payload.ticketId commentId).Each
        fun change state => rel state (change state) :=
      processComment_each setup all
    refine (span.quietly (reads_quiet _)).bind fun processed => ?_
    split_ifs
    · exact Each.pure ()
    · refine (cacheWrite_each rel span.refl fun state => span.locks state true).bind
        fun lockResult => ?_
      have releases : (releaseCommentProcessingLock commentId).Each
          fun change state => rel state (change state) :=
        (cacheWrite_each rel span.refl fun state => span.locks state false).bind
          fun _ => Each.pure ()
      cases lockResult with
      | none => exact processes.bind fun _ => Each.pure ()
      | some acquired =>
        cases acquired with
        | false => exact Each.pure ()
        | true =>
          have responds : (do
                let responded ← processComment setup payload.ticketId commentId
                if responded then markCommentAsProcessed commentId : AutomationCall Unit).Each
              fun change state => rel state (change state) := by
            refine processes.bind fun responded => ?_
            split_ifs
            · exact span.quietly (markCommentAsProcessed_quiet commentId)
            · exact Each.pure ()
          refine (responds.recover fun _ => releases.bind fun _ => ?_).bind fun _ => ?_
          · exact Each.done _
          · exact releases.bind fun _ => Each.pure ()

end Writes

end HelpForge.Automation
