import HelpForge.Automation.Service
import HelpForge.Lib.Watched
import HelpForge.Tickets.Assignees

set_option autoImplicit false

namespace HelpForge.Automation

open Lib Tickets
open Lib.Program (Upholds UpholdsWhere Answers Stable)

def HeldThrough (seen : List AutomationWorld) : Prop :=
  -- The tables, as they have gone through the states.
  Held (seen.map AutomationWorld.toWorld)

variable {past : List AutomationWorld} {α : Type}

section Statements

variable {seen : List AutomationWorld}

def Employed (seen : List AutomationWorld) (organizationId userId : Nat) : Prop :=
  Member (seen.map AutomationWorld.toWorld) organizationId userId

def Located (seen : List AutomationWorld) (ticketId organizationId : Nat) : Prop :=
  Placed (seen.map AutomationWorld.toWorld) ticketId organizationId

variable (ticketId : Nat)

theorem located_stable (organizationId : Nat) :
    Stable fun seen => Located seen ticketId organizationId :=
  fun _ _ grown => placed_stable _ _ _ _ (grown.map _)

abbrev Staffs {α : Type} (program : AutomationCall α) (seen : List AutomationWorld)
    (fact : List AutomationWorld → α → Prop) : Prop :=
  program.Upholds HeldThrough (Answers fact) seen

theorem inWorld_staffs {call : Call α} (mans : ∀ seen, Mans call seen fun _ _ => True) :
    Staffs (inWorld call) seen fun _ _ => True :=
  Upholds.zoom (fun _ _ => rfl) (mans (seen.map AutomationWorld.toWorld))

theorem HeldThrough.same {state reached : AutomationWorld} (held : HeldThrough (state :: past))
    (tables : reached.toWorld = state.toWorld) : HeldThrough (reached :: state :: past) := by
  -- A step of which the tables know nothing.
  unfold HeldThrough
  rw [List.map_cons, tables]
  exact Held.same held

theorem reads_staffs {α : Type} (view : AutomationWorld → α)
    (fact : List AutomationWorld → α → Prop)
    (holds : ∀ state past, HeldThrough (state :: past) → fact (state :: state :: past) (view state)) :
    Staffs (Program.reads view) seen fact := by
  refine Upholds.reads (fun state past _ held => held.same rfl) ?_
  rintro state past _ held _ ⟨⟩
  exact holds state past held

theorem cacheWrite_staffs (answer : AutomationWorld → Bool)
    (change : AutomationWorld → AutomationWorld)
    (tables : ∀ state, (change state).toWorld = state.toWorld) :
    Staffs (cacheWrite answer change) seen fun _ _ => True := by
  refine Upholds.attempt ?_ fun state past failure _ held _ => ⟨held.same rfl, fun _ _ => trivial⟩
  intro state past value reached _ held outcome
  refine ⟨held.same ?_, fun _ _ => trivial⟩
  split_ifs at outcome <;> cases outcome
  · rfl
  · rfl
  · exact tables state

theorem statement_staffs {body : AutomationWorld → Except ServiceError (α × Database)}
    {fact : List AutomationWorld → α → Prop}
    (kept : ∀ state past value db, seen <:+ state :: past → HeldThrough (state :: past) →
      body state = .ok (value, db) →
      let reached := { state with toWorld := state.withDb fun _ => db }
      HeldThrough (reached :: state :: past) ∧ fact (reached :: state :: past) value) :
    Staffs (statement body) seen fact := by
  refine Upholds.attempt ?_ fun state past failure _ held _ =>
    ⟨held.same rfl, by simp [Answers]⟩
  intro state past value reached grown held outcome
  obtain ⟨db, wrote, rfl⟩ := statement_written outcome
  obtain ⟨kept, holds⟩ := kept state past value db grown held wrote
  refine ⟨kept, ?_⟩
  rintro _ ⟨⟩
  exact holds

theorem query_staffs {α : Type} (view : AutomationWorld → α)
    (fact : List AutomationWorld → α → Prop)
    (holds : ∀ state past, HeldThrough (state :: past) → fact (state :: state :: past) (view state)) :
    Staffs (query view) seen fact := by
  refine statement_staffs fun state past value db _ held outcome => ?_
  cases outcome
  exact ⟨held.same rfl, holds state past held⟩

theorem createComment_staffs (data : CommentInput) :
    Staffs (createComment data) seen fun _ _ => True := by
  refine statement_staffs fun state past value db _ held outcome => ?_
  split_ifs at outcome
  cases outcome
  exact ⟨Held.aside held rfl rfl rfl (Nat.le_succ _) held.1.copies, trivial⟩

variable (patch : TicketPatch)

theorem updateTicket_ok (ticket : Ticket) (state reached : AutomationWorld)
    (done : (updateTicket ticketId patch).run state = (.ok ticket, reached)) :
    ∃ old, state.db.findTicket ticketId = some old ∧
      ticket = { patch.apply old with updatedAt := state.now } ∧
      keysResolve state.db ticket = true ∧ state.down .database = false ∧
      reached = { state with toWorld := state.withDb (storeTicket ticketId ticket) } := by
  have written := (Program.attempt_ok ..).mp done
  split_ifs at written with down
  cases found : state.db.findTicket ticketId with
  | none => simp [found, Except.map] at written
  | some old =>
    simp only [found] at written
    split_ifs at written with resolves
    · cases written
      exact ⟨old, rfl, rfl, resolves, by simpa using down, rfl⟩
    · cases written

theorem HeldThrough.patched {state reached : AutomationWorld} (held : HeldThrough (state :: past))
    (ticketId : Nat) (patch : TicketPatch) (ticket : Ticket)
    (done : (updateTicket ticketId patch).run state = (.ok ticket, reached))
    (assigns : ∀ old, state.db.findTicket ticketId = some old →
      ∀ userId ∈ patch.assignedToId, (state.db.findUser userId).isSome = true →
        state.down .database = false → HasMember state.db old.organizationId userId) :
    HeldThrough (reached :: state :: past) := by
  -- A patch that succeeds, and gives the ticket to nobody new but to a member.
  obtain ⟨old, found, rfl, resolves, up, rfl⟩ := updateTicket_ok ticketId patch ticket _ _ done
  let ticket := { patch.apply old with updatedAt := state.now }
  refine Held.stored held ticketId old ticket found rfl rfl ?_ rfl rfl held.1.workloads
    (Nat.le_refl _) rfl
  intro userId named
  simp only [keysResolve, Bool.and_eq_true] at resolves
  have known : (state.db.findUser userId).isSome = true :=
    (Option.all_eq_true ..).mp resolves.2 userId named
  change userId ∈ patch.assignedToId.or old.assignedToId at named
  cases given : patch.assignedToId with
  | none =>
    rw [given, Option.none_or] at named
    exact held.1.assignees old (List.mem_of_find?_eq_some found) userId named
  | some assignedToId =>
    rw [given, Option.some_or] at named
    exact assigns old found userId (by rw [given]; exact named) known up

theorem updateTicket_staffs
    (assigns : ∀ userId ∈ patch.assignedToId, ∃ organizationId,
      Located seen ticketId organizationId ∧ Employed seen organizationId userId) :
    Staffs (updateTicket ticketId patch) seen fun _ _ => True := by
  refine Upholds.attempt ?_ fun state past failure _ held _ => ⟨held.same rfl, fun _ _ => trivial⟩
  intro state past ticket reached grown held outcome
  have done : (updateTicket ticketId patch).run state = (.ok ticket, reached) :=
    (Program.attempt_ok ..).mpr outcome
  refine ⟨held.patched ticketId patch ticket done ?_, fun _ _ => trivial⟩
  intro old found userId named _ _
  obtain ⟨organizationId, located, employed⟩ := assigns userId named
  have longer := grown.map AutomationWorld.toWorld
  rw [Held.place held longer located old found]
  exact Held.member held longer employed

section Comments

variable (setup : Setup)

theorem withRetry_staffs {fn : AutomationCall α} (kept : ∀ seen, Staffs fn seen fun _ _ => True)
    (retries : Nat) (seen : List AutomationWorld) :
    Staffs (withRetry fn retries) seen fun _ _ => True := by
  induction retries generalizing seen with
  | zero => exact kept seen
  | succ retries ih =>
    exact (kept seen).recover (fun _ _ _ _ _ _ => trivial) fun failure later _ _ => ih later

theorem generateAIResponse_staffs (organizationId : Nat) (purpose : Purpose) (context : String) :
    Staffs (generateAIResponse setup organizationId purpose context) seen fun _ _ => True := by
  refine withRetry_staffs (fun seen => ?_) _ seen
  refine Upholds.attempt ?_ fun state past failure _ held _ => ⟨held.same rfl, fun _ _ => trivial⟩
  intro state past value reached _ held outcome
  split_ifs at outcome
  cases outcome
  exact ⟨held.same rfl, fun _ _ => trivial⟩

theorem incrementHashValues_staffs (tokensUsed requests : AutomationWorld → AutomationWorld)
    (tables : ∀ state, (tokensUsed state).toWorld = state.toWorld ∧
      (requests state).toWorld = state.toWorld) :
    Staffs (incrementHashValues tokensUsed requests) seen fun _ _ => True := by
  refine Answers.bind (cacheWrite_staffs _ _ fun state => (tables state).1) ?_
  intro answered later _ _
  split_ifs
  · exact Answers.bind (cacheWrite_staffs _ _ fun state => (tables state).2) fun _ _ _ _ =>
      Answers.pure trivial
  · exact Answers.pure trivial

theorem logAIActivity_staffs (organizationId ticketId : Nat) (aiUsage : AIUsage) :
    Staffs (logAIActivity organizationId ticketId aiUsage) seen fun _ _ => True := by
  refine Answers.bind (incrementHashValues_staffs _ _ fun _ => ⟨rfl, rfl⟩) fun _ _ _ _ => ?_
  exact incrementHashValues_staffs _ _ fun _ => ⟨rfl, rfl⟩

theorem handleSmartAssign_staffs (ticket : Ticket)
    (located : Located seen ticket.id ticket.organizationId) :
    Staffs (handleSmartAssign ticket) seen fun _ _ => True := by
  have looked : Staffs (getAvailableAgents ticket.organizationId) seen fun later agents =>
      ∀ agent ∈ agents, Employed later ticket.organizationId agent.userId := by
    refine query_staffs _ _ ?_
    intro state past held agent among
    obtain ⟨listed, here⟩ := List.mem_filter.mp among
    simp only [Bool.and_eq_true, beq_iff_eq] at here
    have there := held.1.workloads agent listed
    rw [here.1] at there
    exact ⟨state.toWorld, List.mem_cons_self .., there⟩
  have logged {body : AutomationCall Unit} (started : Staffs body seen fun _ _ => True) :
      Staffs (body.recover fun _ => pure ()) seen fun _ _ => True :=
    started.recover (fun _ _ _ _ _ _ => trivial) fun _ _ _ _ => Answers.pure trivial
  refine logged (Answers.bind looked fun agents later grown employed => ?_)
  cases selected : selectBestAgent agents with
  | none => exact Answers.pure trivial
  | some agent =>
    refine Answers.bind (updateTicket_staffs _ _ ?_) fun _ _ _ _ => Answers.pure trivial
    rintro userId ⟨⟩
    exact ⟨_, located_stable _ _ _ _ grown located,
      employed agent (mem_of_selectBestAgent agents agent selected)⟩

theorem generateAndStoreAIResponse_staffs (ticket : CommentedTicket)
    (latestComment : TicketComment) (orgConfig : Option AIConfig)
    (located : Located seen ticket.id ticket.organizationId) :
    Staffs (generateAndStoreAIResponse setup ticket latestComment orgConfig) seen
      fun _ _ => True := by
  refine Answers.bind (generateAIResponse_staffs setup _ _ _) fun aiResult first grown _ => ?_
  refine Answers.bind (reads_staffs _ (fun _ _ => True) fun _ _ _ => trivial) ?_
  intro now second read _
  refine Answers.bind (createComment_staffs _) fun _ third stored _ => ?_
  refine Answers.bind (logAIActivity_staffs _ _ _) fun _ fourth logged _ => ?_
  have still := located_stable _ _ _ _ (((grown.trans read).trans stored).trans logged) located
  have patched (action : ActionType) (later : List AutomationWorld) :
      Staffs (updateTicket ticket.id (buildTicketUpdate ticket.toTicket action
        (countAIResponses ticket.comments)) >>= fun _ => pure ()) later fun _ _ => True := by
    refine Answers.bind (updateTicket_staffs _ _ ?_) fun _ _ _ _ => Answers.pure trivial
    simp [buildTicketUpdate]
  dsimp only
  split_ifs
  · exact Answers.bind (handleSmartAssign_staffs ticket.toTicket still) fun _ last _ _ =>
      patched _ last
  · exact patched _ fourth

theorem processComment_staffs (ticketId commentId : Nat) :
    Staffs (processComment setup ticketId commentId) seen fun _ _ => True := by
  have looked : Staffs (getTicketWithComments ticketId) seen fun later found =>
      ∀ ticket, found = some ticket → Located later ticket.id ticket.organizationId := by
    refine query_staffs _ _ ?_
    intro state past _ ticket found
    obtain ⟨row, stored, rfl⟩ := Option.map_eq_some_iff.mp found
    exact ⟨state.toWorld, List.mem_cons_self .., row, List.mem_of_find?_eq_some stored, rfl, rfl⟩
  refine Answers.bind looked fun found later _ located => ?_
  cases found with
  | none => exact Answers.pure trivial
  | some ticket =>
    dsimp only
    refine Answers.bind (query_staffs _ (fun _ _ => True) fun _ _ _ => trivial) ?_
    intro orgConfig next grown _
    split_ifs
    · cases ticket.comments.find? fun comment => comment.id == commentId with
      | none => exact Answers.pure trivial
      | some newComment =>
        dsimp only
        split_ifs
        · refine Answers.bind (reads_staffs _ (fun _ _ => True) fun _ _ _ => trivial) ?_
          intro now last read _
          have still := located_stable _ _ _ _ (grown.trans read) (located ticket rfl)
          split_ifs
          · exact Answers.bind (generateAndStoreAIResponse_staffs setup _ _ _ still) fun _ _ _ _ =>
              Answers.pure trivial
          · exact Answers.pure trivial
        · exact Answers.pure trivial
    · exact Answers.pure trivial

theorem handleCommentAdded_staffs (payload : CommentPayload) :
    Staffs (handleCommentAdded setup payload) seen fun _ _ => True := by
  unfold handleCommentAdded
  cases payload.commentId with
  | none => exact Answers.pure trivial
  | some commentId =>
    dsimp only
    refine Answers.bind (reads_staffs _ (fun _ _ => True) fun _ _ _ => trivial) ?_
    intro processed first _ _
    split_ifs
    · exact Answers.pure trivial
    · refine Answers.bind (cacheWrite_staffs _ _ fun _ => rfl) fun lockResult second _ _ => ?_
      have marked (seen : List AutomationWorld) :
          Staffs (markCommentAsProcessed commentId) seen fun _ _ => True :=
        Answers.bind (cacheWrite_staffs _ _ fun _ => rfl) fun _ _ _ _ => Answers.pure trivial
      have released (seen : List AutomationWorld) :
          Staffs (releaseCommentProcessingLock commentId) seen fun _ _ => True :=
        Answers.bind (cacheWrite_staffs _ _ fun _ => rfl) fun _ _ _ _ => Answers.pure trivial
      rcases lockResult with - | - | -
      · exact Answers.bind (processComment_staffs setup _ _) fun _ _ _ _ => Answers.pure trivial
      · exact Answers.pure trivial
      · refine Answers.ensuring ?_ fun later _ => released later
        refine Answers.bind (processComment_staffs setup _ _) fun responded third _ _ => ?_
        split_ifs
        · exact marked third
        · exact Answers.pure trivial

end Comments

end Statements

/-- The calls that write assignees. -/
inductive AssigneeCall where
  | createTicket (ticketData : TicketData) (userId : Nat)
  | updateTicket (ticketId : Nat) (ticketData : TicketUpdates) (userId : Nat)
  | assignTicket (ticketId assignedToId userId : Nat)
  | autoAssignTicket (ticketId userId : Nat)
  | commentAdded (payload : CommentPayload)
  | overrideDecision (ticketId : Nat) (body : OverrideBody)
  deriving DecidableEq

section Calls

variable (setup : Setup) (locale : Tickets.Locale)

def AssigneeCall.program : AssigneeCall → AutomationCall Unit
  | createTicket ticketData userId =>
    inWorld (createTicketService locale ticketData userId >>= fun _ => pure ())
  | updateTicket ticketId ticketData userId =>
    inWorld (updateTicketService ticketId ticketData userId >>= fun _ => pure ())
  | assignTicket ticketId assignedToId userId =>
    inWorld (assignTicketService ticketId assignedToId userId >>= fun _ => pure ())
  | autoAssignTicket ticketId userId =>
    inWorld (autoAssignTicketService locale ticketId userId >>= fun _ => pure ())
  | commentAdded payload => handleCommentAdded setup payload
  | overrideDecision ticketId body =>
    Automation.overrideDecision ticketId body >>= fun _ => pure ()

def NamesMember (call : AssigneeCall) (met : List AutomationWorld) (state _ : AutomationWorld) :
    Prop :=
  -- What an override writes, once it has found its ticket: whom it names is a member, unless the
  -- write fails for want of the user or of the database.
  ∀ ticketId body, call = .overrideDecision ticketId body → met ≠ [] →
    ∀ ticket, state.db.findTicket ticketId = some ticket →
      ∀ userId ∈ (overridePatch body).assignedToId, (state.db.findUser userId).isSome = true →
        state.down .database = false → HasMember state.db ticket.organizationId userId

/-- Other operations remove no membership, and give no ticket to anyone. -/
structure Outside (state reached : AutomationWorld) : Prop where
  members : ∀ organizationId userId, HasMember state.db organizationId userId →
    HasMember reached.db organizationId userId
  tickets : ∀ ticket ∈ reached.db.tickets, ∃ old ∈ state.db.tickets,
    old.id = ticket.id ∧ old.organizationId = ticket.organizationId ∧
      ∀ userId ∈ ticket.assignedToId, userId ∈ old.assignedToId
  workloads : ∀ row ∈ reached.db.agentWorkloads, ∃ old ∈ state.db.agentWorkloads,
    old.organizationId = row.organizationId ∧ old.userId = row.userId
  copies : ∀ organizationId userId copy,
    reached.membershipCache organizationId userId = some copy →
      HasMember reached.db organizationId userId
  nextId : state.db.nextId ≤ reached.db.nextId

def assigneeCalls :
    Pool.System (AssigneeCall × Nat) AutomationWorld (Watched AutomationWorld ServiceError Unit) :=
  Pool.watching (fun _ call program => program = call.1.program setup locale) Outside

theorem HeldThrough.outside {state reached : AutomationWorld} (held : HeldThrough (state :: past))
    (moved : Outside state reached) : HeldThrough (reached :: state :: past) := by
  refine Held.next held ⟨?_, ?_, moved.copies⟩ moved.members moved.nextId 0 ?_
  · intro ticket member userId named
    obtain ⟨old, before, -, place, same⟩ := moved.tickets ticket member
    rw [← place]
    exact moved.members _ _ (held.1.assignees old before userId (same userId named))
  · intro row member
    obtain ⟨old, before, place, owner⟩ := moved.workloads row member
    rw [← place, ← owner]
    exact moved.members _ _ (held.1.workloads old before)
  · intro ticket member
    obtain ⟨old, before, id, place, -⟩ := moved.tickets ticket member
    exact .inl ⟨old, before, id, place⟩

theorem overrideDecision_staffs (ticketId : Nat) (body : OverrideBody)
    (seen : List AutomationWorld) :
    (overrideDecision ticketId body).UpholdsWhere HeldThrough
      (NamesMember (.overrideDecision ticketId body)) Program.anyEnd [] seen := by
  have looked : (getTicket ticketId).UpholdsWhere HeldThrough
      (NamesMember (.overrideDecision ticketId body)) (fun met _ _ => met ≠ []) [] seen := by
    refine UpholdsWhere.attempt ?_ fun state past failure _ held => ⟨held.same rfl, by simp⟩
    intro state past value reached _ held _ outcome
    split_ifs at outcome
    cases outcome
    exact ⟨held.same rfl, by simp⟩
  refine UpholdsWhere.bind looked ?_ fun _ _ _ _ _ => trivial
  intro found met later _ afterwards
  cases found with
  | none => trivial
  | some ticket =>
    refine UpholdsWhere.attempt ?_ fun state past failure _ held => ⟨held.same rfl, trivial⟩
    intro state past written reached _ held names outcome
    have done : (updateTicket ticketId (overridePatch body)).run state = (.ok written, reached) :=
      (Program.attempt_ok ..).mpr outcome
    refine ⟨held.patched ticketId (overridePatch body) written done ?_, trivial⟩
    exact names ticketId body rfl afterwards

theorem call_staffs (call : AssigneeCall) (seen : List AutomationWorld) :
    (call.program setup locale).UpholdsWhere HeldThrough (NamesMember call) Program.anyEnd []
      seen := by
  have unrestricted {program : AutomationCall Unit}
      (staffs : Staffs program seen fun _ _ => True) :
      program.UpholdsWhere HeldThrough (NamesMember call) Program.anyEnd [] seen :=
    (Upholds.anywhere [] staffs).weaken fun _ _ _ _ => trivial
  have service {α : Type} {called : Call α} (mans : ∀ seen, Mans called seen fun _ _ => True)
      (seen : List World) : Mans (called >>= fun _ => pure ()) seen fun _ _ => True :=
    Answers.bind (mans seen) fun _ _ _ _ => Answers.pure trivial
  cases call with
  | createTicket ticketData userId =>
    exact unrestricted (inWorld_staffs
      (service fun _ => createTicketService_mans locale ticketData userId))
  | updateTicket ticketId ticketData userId =>
    exact unrestricted (inWorld_staffs
      (service fun _ => updateTicketService_mans ticketId ticketData userId))
  | assignTicket ticketId assignedToId userId =>
    exact unrestricted (inWorld_staffs
      (service fun _ => assignTicketService_mans ticketId assignedToId userId))
  | autoAssignTicket ticketId userId =>
    exact unrestricted (inWorld_staffs
      (service fun _ => autoAssignTicketService_mans locale ticketId userId))
  | commentAdded payload => exact unrestricted (handleCommentAdded_staffs setup payload)
  | overrideDecision ticketId body =>
    exact UpholdsWhere.bind (overrideDecision_staffs ticketId body seen) (fun _ _ _ _ _ => trivial)
      fun _ _ _ _ _ => trivial

/-- The identifiers of the tickets are their own, and below those to come. -/
structure Numbered (db : Database) : Prop where
  below : ∀ ticket ∈ db.tickets, ticket.id < db.nextId
  unique : ∀ first ∈ db.tickets, ∀ second ∈ db.tickets, first.id = second.id → first = second

/-- In every run of interleaved calls where overrides name members, every assignee is a member. -/
theorem assignees_are_members (start : AutomationWorld) (manned : Manned start.toWorld)
    (numbered : Numbered start.db)
    (pool : Pool (AssigneeCall × Nat) AutomationWorld
      (Watched AutomationWorld ServiceError Unit))
    (run : Pool.Run (assigneeCalls setup locale)
      (Pool.permitting fun call => NamesMember call.1) (Pool.idle start) pool) :
    AssignedMembers pool.state.db := by
  have before : HeldThrough [start] := by
    refine ⟨manned, fun earlier member => ?_⟩
    rw [List.mem_singleton.mp member]
    refine ⟨fun _ _ there => there, numbered.below, fun first here second there same => ?_⟩
    rw [numbered.unique first here second there same]
  have held : HeldThrough pool.seen := by
    refine Pool.Run.upheldWhere (fun _ _ _ held moved => held.outside moved) ?_ run before
    rintro seen call _ _ rfl
    exact call_staffs setup locale call.1 seen
  exact held.1.assignees

end Calls

def helpTicket : Ticket := { id := 10, title := "Printer", organizationId := 3, createdById := 1 }

def staffRole : OrgRole where
  id := 4
  organizationId := 3
  name := "MEMBER"
  level := 10
  isSystem := true
  permissions := [.orgViewMembers]

def helpDesk : AutomationWorld where
  db :=
    { users := [{ id := 1, email := "member@a.example", password := "" },
        { id := 2, email := "user@b.example", password := "" }]
      organizations := [{ id := 3, name := "A" }]
      orgRoles := [staffRole]
      memberships := [{ id := 5, userId := 1, organizationId := 3, roleId := 4 }]
      tickets := [helpTicket]
      nextId := 11 }

theorem helpDesk_manned : Manned helpDesk.toWorld := by
  refine ⟨?_, by simp [helpDesk], by simp [helpDesk]⟩
  intro ticket member userId named
  rw [List.mem_singleton.mp member] at named
  cases named

theorem helpDesk_numbered : Numbered helpDesk.db := by
  refine ⟨by decide, ?_⟩
  intro first here second there _
  rw [List.mem_singleton.mp here, List.mem_singleton.mp there]

/-- An override asks for no answer and writes no date. -/
def anySetup : Setup where
  responseText _ _ := ""
  summaryText _ := ""
  toLowerCase := id

def numberLocale : Tickets.Locale where
  startOfDay := id
  startOfWeek := id

def overrideTo (userId : Nat) : AssigneeCall × Nat :=
  (.overrideDecision 10 { action := some .assign, assignToId := some userId }, 0)

def overridden (userId turns : Nat) :
    Pool (AssigneeCall × Nat) AutomationWorld (Watched AutomationWorld ServiceError Unit) :=
  Pool.play Watched.advance (fun call => { program := call.1.program anySetup numberLocale })
    (List.replicate turns (.turn (overrideTo userId))) (Pool.idle helpDesk)

theorem overridden_run (userId : Nat)
    (allowed : Pool (AssigneeCall × Nat) AutomationWorld
      (Watched AutomationWorld ServiceError Unit) → AssigneeCall × Nat →
        Watched AutomationWorld ServiceError Unit → Prop)
    (permitted : ∀ before < 3, ∀ watched, (overridden userId before).calls (overrideTo userId) =
      some watched → allowed (overridden userId before) (overrideTo userId) watched) :
    Pool.Run (assigneeCalls anySetup numberLocale) allowed (Pool.idle helpDesk)
      (overridden userId 3) := by
  refine Pool.play_runs _ ?_ (by simp) _ (Pool.permits_turns _ _ _ permitted)
  intro call _ seen
  exact ⟨rfl, rfl⟩

theorem member_override_holds : AssignedMembers (overridden 1 3).state.db := by
  refine assignees_are_members anySetup numberLocale helpDesk helpDesk_manned helpDesk_numbered _
    (overridden_run 1 _ ?_)
  rintro before earlier watched _ next reached _ ticketId body ⟨⟩ _ ticket found userId named _ _
  have member : ∀ before < 3, (overridden 1 before).state.db.findTicket 10 = some helpTicket ∧
      ∃ membership ∈ (overridden 1 before).state.db.memberships,
        membership.organizationId = 3 ∧ membership.userId = 1 := by
    decide +kernel
  obtain ⟨same, here⟩ := member before earlier
  cases same.symm.trans found
  cases named
  exact here

/-- The ticket goes to a user who has no membership in its organisation. -/
theorem outsider_assigned :
    Manned helpDesk.toWorld ∧ Numbered helpDesk.db ∧
      Pool.Run (assigneeCalls anySetup numberLocale) Pool.anyStatement (Pool.idle helpDesk)
        (overridden 2 3) ∧
      ¬ AssignedMembers (overridden 2 3).state.db := by
  refine ⟨helpDesk_manned, helpDesk_numbered,
    overridden_run 2 _ fun _ _ _ _ => trivial, fun members => ?_⟩
  have given : ∃ ticket ∈ (overridden 2 3).state.db.tickets,
      ticket.organizationId = 3 ∧ ticket.assignedToId = some 2 := by decide +kernel
  obtain ⟨ticket, here, place, named⟩ := given
  have member := members ticket here 2 named
  rw [place] at member
  have absent : ∀ membership ∈ (overridden 2 3).state.db.memberships, membership.userId ≠ 2 := by
    decide +kernel
  obtain ⟨membership, listed, -, owner⟩ := member
  exact absent membership listed owner

end HelpForge.Automation
