import HelpForge.Automation.Tally

set_option autoImplicit false

namespace HelpForge.Automation

open Lib Tickets
open Lib.Program (Relies Each)

def budget (ticketId organizationId allowed : Nat) : Regime Delivery AutomationWorld where
  inv := Tallied ticketId organizationId allowed
  rely _ before after := before.deeds <:+ after.deeds
  refl _ _ := List.suffix_rfl
  trans _ _ _ _ one other := one.trans other

variable {α : Type} {program : AutomationCall α}

section Steps

variable {ticketId organizationId allowed : Nat} {call : Delivery}
  {now last : Recorded Delivery AutomationWorld} {left : AutomationWorld}

abbrev Budgets {α : Type} (ticketId organizationId allowed : Nat) (program : AutomationCall α)
    (call : Delivery) (post : Recorded Delivery AutomationWorld → Except ServiceError α → Prop)
    (last : Recorded Delivery AutomationWorld) : Prop :=
  -- A run keeps the tally.
  program.Relies (budget ticketId organizationId allowed) (fun _ => True) call post last

theorem owed_of_tallied (tallied : Tallied ticketId organizationId allowed (now.add call left)) :
    (budget ticketId organizationId allowed).Owed call now (now.add call left) :=
  ⟨tallied, fun _ _ => List.suffix_cons ..⟩

structure Follows (ticketId : Nat) (call : Delivery)
    (before after : Recorded Delivery AutomationWorld) : Prop where
  found : ∀ count, foundCount ticketId (before.own call) = some count →
    foundCount ticketId (after.own call) = some count
  owes : owes ticketId (after.own call) = owes ticketId (before.own call)
  deeds : before.deeds <:+ after.deeds

theorem Follows.refl (recorded : Recorded Delivery AutomationWorld) :
    Follows ticketId call recorded recorded :=
  ⟨fun _ found => found, rfl, List.suffix_rfl⟩

theorem Follows.trans {first second third : Recorded Delivery AutomationWorld}
    (one : Follows ticketId call first second) (other : Follows ticketId call second third) :
    Follows ticketId call first third :=
  ⟨fun count found => other.found count (one.found count found), other.owes.trans one.owes,
    one.deeds.trans other.deeds⟩

theorem Beside.follows (beside : Beside ticketId now.state left)
    (since : (budget ticketId organizationId allowed).Since call last now) :
    Follows ticketId call last (now.add call left) := by
  refine ⟨fun count found => ?_, ?_, since.relied.trans (List.suffix_cons ..)⟩
  · rw [since.own_add]
    exact foundCount_stays _ found
  · rw [since.own_add]
    exact owes_beside beside

theorem Settled.later {before after : Recorded Delivery AutomationWorld}
    (settled : Settled ticketId call before) (follows : Follows ticketId call before after) :
    Settled ticketId call after :=
  fun inTurn => follows.owes.trans (settled (inTurn.of_suffix follows.deeds))

abbrev StepsBeside {α : Type} (ticketId : Nat) (program : AutomationCall α) : Prop :=
  program.Each fun change state => Beside ticketId state (change state)

theorem beside_of_quiet (quiet : StepsQuietly program) : StepsBeside ticketId program :=
  quiet.weaken fun _ _ quiet => quiet.beside

theorem beside_budgets (beside : StepsBeside ticketId program) :
    Budgets ticketId organizationId allowed program call
      (fun reached _ => Follows ticketId call last reached) last := by
  induction program generalizing last with
  | done result => exact Follows.refl _
  | atomic change next ih =>
    intro now since tallied _
    obtain ⟨step, later⟩ := beside now.state
    refine ⟨owed_of_tallied (tallied.beside step), (ih now.state later).weaken ?_⟩
    intro reached _ follows
    exact (step.follows since).trans follows

structure Looks (ticketId organizationId allowed : Nat) (call : Delivery)
    (last reached : Recorded Delivery AutomationWorld) (deed : Deed Delivery AutomationWorld) :
    Prop where
  own : reached.own call = deed :: last.own call
  follows : Follows ticketId call last reached
  placed : (deed.found.db.findTicket ticketId).map (·.organizationId) = some organizationId
  limit : maxMessages deed.found organizationId = allowed

theorem looks (since : (budget ticketId organizationId allowed).Since call last now)
    (tallied : Tallied ticketId organizationId allowed now) (beside : Beside ticketId now.state left) :
    Looks ticketId organizationId allowed call last (now.add call left)
      { call, found := now.state, left } :=
  ⟨since.own_add left, beside.follows since, tallied.placed, tallied.limit⟩

theorem attempt_budgets {body : AutomationWorld → Except ServiceError (α × AutomationWorld)}
    (beside : StepsBeside ticketId (Program.attempt body)) :
    Budgets ticketId organizationId allowed (Program.attempt body) call
      (fun reached result => ∃ deed, Looks ticketId organizationId allowed call last reached deed ∧
        ∀ value, result = .ok value → ∃ left, body deed.found = .ok (value, left)) last := by
  refine Relies.attempt ?_ ?_
  · intro now value left since tallied _ outcome
    have step : Beside ticketId now.state left := by
      have each := (beside now.state).1
      dsimp only at each
      rwa [outcome] at each
    refine ⟨owed_of_tallied (tallied.beside step), _, looks since tallied step, ?_⟩
    rintro _ ⟨⟩
    exact ⟨left, outcome⟩
  · intro now failure since tallied _ _
    have step : Beside ticketId now.state now.state := Beside.refl now.state
    exact ⟨owed_of_tallied (tallied.beside step), _, looks since tallied step, by simp⟩

theorem query_budgets (view : AutomationWorld → α) :
    Budgets ticketId organizationId allowed (query view) call
      (fun reached result => ∃ deed, Looks ticketId organizationId allowed call last reached deed ∧
        ∀ value, result = .ok value → value = view deed.found) last := by
  refine Relies.weaken (attempt_budgets (beside_of_quiet (query_quiet view))) ?_
  rintro reached result ⟨deed, look, seen⟩
  refine ⟨deed, look, fun value same => ?_⟩
  obtain ⟨left, outcome⟩ := seen value same
  split_ifs at outcome
  cases outcome
  rfl

end Steps

variable {count : Nat}

section Runs

variable (setup : Setup) {ticketId organizationId allowed : Nat} {call : Delivery}
  {last : Recorded Delivery AutomationWorld}

theorem others_beside (other commentId : Nat) (ne : other ≠ ticketId) :
    Spans (Beside ticketId) other commentId where
  quiet _ _ quiet := quiet.beside
  locks _ _ := ⟨rfl, rfl, fun _ => rfl⟩
  answers state comment of _ := by
    refine ⟨?_, rfl, fun _ => rfl⟩
    simp [answersOn, World.withDb, insertComment, of, ne]
  updates state patch ticket found := by
    have own := findTicket_id state.db other ticket found
    have stored := findTicket_storeTicket state.db other ticketId
      { patch.apply ticket with updatedAt := state.now } own
    have kept : (state.db.findTicket ticketId).map (fun row =>
        if row.id == other then { patch.apply ticket with updatedAt := state.now } else row) =
        state.db.findTicket ticketId := by
      cases there : state.db.findTicket ticketId with
      | none => rfl
      | some row => simp [findTicket_id state.db ticketId row there, ne.symm]
    exact ⟨rfl, congrArg _ (stored.trans kept), fun _ => rfl⟩

theorem canProcess_within {ticket : CommentedTicket} {orgConfig : Option AIConfig} {now : Nat}
    (canProcess : (shouldProcessAI ticket orgConfig now).canProcess = true) :
    ticket.aiMessageCount < (orgConfig.map (·.maxAIResponses)).getD aiMaxMessagesPerTicket := by
  by_contra reached
  have blocked := Nat.le_of_not_lt reached
  unfold shouldProcessAI at canProcess
  simp only [blocked, if_true] at canProcess
  split_ifs at canProcess

theorem updateTicket_beside (patch : TicketPatch) (uncounted : patch.aiMessageCount = none) :
    StepsBeside ticketId (updateTicket ticketId patch) := by
  -- A patch that leaves the count leaves the ticket as the tally sees it.
  refine updateTicket_stores Beside.refl patch fun state ticket db found same stored => ?_
  subst same
  refine ⟨rfl, (congrArg _ stored).trans ?_, fun _ => rfl⟩
  simp [found, TicketPatch.apply, uncounted]

theorem handleSmartAssign_beside (ticket : Ticket) (own : ticket.id = ticketId) :
    StepsBeside ticketId (handleSmartAssign ticket) := by
  refine Each.recover ?_ fun _ => Each.pure ()
  refine (beside_of_quiet (query_quiet _)).bind fun agents => ?_
  cases selectBestAgent agents with
  | none => exact Each.pure ()
  | some agent =>
    rw [own]
    exact (updateTicket_beside _ rfl).bind fun _ => Each.pure ()

structure HasRoom (ticketId allowed : Nat) (call : Delivery)
    (recorded : Recorded Delivery AutomationWorld) (count : Nat) : Prop where
  found : foundCount ticketId (recorded.own call) = some count
  clear : owes ticketId (recorded.own call) = false
  room : count < allowed

theorem HasRoom.later {before after : Recorded Delivery AutomationWorld}
    (room : HasRoom ticketId allowed call before count)
    (follows : Follows ticketId call before after) : HasRoom ticketId allowed call after count :=
  ⟨follows.found count room.found, follows.owes.trans room.clear, room.room⟩

theorem InDebt.later {before after : Recorded Delivery AutomationWorld}
    (debt : InDebt ticketId call before count) (follows : Follows ticketId call before after) :
    InDebt ticketId call after count :=
  ⟨follows.found count debt.found, follows.owes.trans debt.owing⟩

theorem statement_budgets {body : AutomationWorld → Except ServiceError (α × Database)}
    (post : Recorded Delivery AutomationWorld → Prop)
    (writes : ∀ now value db, now.own call = last.own call →
      Tallied ticketId organizationId allowed now → body now.state = .ok (value, db) →
      Tallied ticketId organizationId allowed
          (now.add call { now.state with toWorld := now.state.withDb fun _ => db }) ∧
        post (now.add call { now.state with toWorld := now.state.withDb fun _ => db })) :
    Budgets ticketId organizationId allowed (statement body) call
      (fun reached result => ∀ value, result = .ok value → post reached) last := by
  refine Relies.attempt ?_ ?_
  · intro now value left since tallied _ outcome
    obtain ⟨db, wrote, rfl⟩ := statement_written outcome
    obtain ⟨kept, holds⟩ := writes now value db since.own tallied wrote
    exact ⟨owed_of_tallied kept, fun _ _ => holds⟩
  · intro now failure since tallied _ _
    exact ⟨owed_of_tallied (tallied.beside (Beside.refl now.state)), by simp⟩

theorem answersOn_insertComment (db : Database) (comment : TicketComment)
    (own : comment.ticketId = ticketId) (answer : comment.authorType = .ai) :
    answersOn ticketId (insertComment comment db) = answersOn ticketId db + 1 := by
  simp [answersOn, insertComment, own, answer]

theorem storeAIComment_budgets (room : HasRoom ticketId allowed call last count) (response : String)
    (action : ActionType) :
    Budgets ticketId organizationId allowed (storeAIComment ticketId response action) call
      (fun reached result => ∀ value, result = .ok value → InDebt ticketId call reached count)
      last := by
  refine statement_budgets (fun reached => InDebt ticketId call reached count)
    fun now value db same tallied outcome => ?_
  split_ifs at outcome
  cases outcome
  have found : foundCount ticketId (now.own call) = some count := same ▸ room.found
  refine ⟨tallied.stored (answersOn_insertComment _ _ rfl rfl) rfl rfl fun other found' => ?_, ?_, ?_⟩
  · cases found.symm.trans found'
    exact room.room
  · rw [Recorded.own_add_self]
    exact foundCount_stays _ found
  · rw [Recorded.own_add_self]
    refine if_pos (Nat.lt_of_lt_of_eq (Nat.lt_succ_self _) (Eq.symm ?_))
    exact answersOn_insertComment _ _ rfl rfl

theorem counted_budgets (debt : InDebt ticketId call last count) (patch : TicketPatch)
    (counts : patch.aiMessageCount = some (count + 1)) :
    Budgets ticketId organizationId allowed (updateTicket ticketId patch) call
      (fun reached result => ∀ value, result = .ok value → Settled ticketId call reached) last := by
  -- The run counts the answer that it has stored.
  refine statement_budgets (Settled ticketId call) fun now value db same tallied outcome => ?_
  cases there : now.state.db.findTicket ticketId with
  | none => simp [there] at outcome
  | some ticket =>
    simp only [there] at outcome
    split_ifs at outcome
    cases outcome
    have stored := findTicket_stored now.state.db ticketId ticket
      { patch.apply ticket with updatedAt := now.state.now } there
      (findTicket_id now.state.db ticketId ticket there)
    have row : (ticket.organizationId, (patch.apply ticket).aiMessageCount) =
        (organizationId, count + 1) := by
      have placed := tallied.placed
      rw [there, Option.map_some, Option.some.injEq] at placed
      simp [TicketPatch.apply, counts, placed]
    exact tallied.counted ⟨same ▸ debt.found, same ▸ debt.owing⟩ rfl
      ((congrArg _ stored).trans (congrArg some row)) rfl

abbrev Settles {α : Type} (ticketId organizationId allowed : Nat) (program : AutomationCall α)
    (call : Delivery) (last : Recorded Delivery AutomationWorld) : Prop :=
  Budgets ticketId organizationId allowed program call
    (fun reached result => ∀ value, result = .ok value → Settled ticketId call reached) last

theorem Settles.pure (value : α) (settled : Settled ticketId call last) :
    Settles ticketId organizationId allowed (pure value) call last :=
  fun _ _ => settled

theorem settles_of_beside (beside : StepsBeside ticketId program)
    (settled : Settled ticketId call last) :
    Settles ticketId organizationId allowed program call last :=
  (beside_budgets beside).weaken fun _ _ follows _ _ => settled.later follows

theorem update_settles (debt : InDebt ticketId call last count) (patch : TicketPatch)
    (counts : patch.aiMessageCount = some (count + 1)) :
    Settles ticketId organizationId allowed
      (do let _ ← updateTicket ticketId patch; pure () : AutomationCall Unit) call last :=
  -- A run that has stored its answer counts it last.
  (counted_budgets debt patch counts).bind
    (fun ticket _ settled => Settles.pure () (settled ticket rfl)) fun _ _ _ => by simp

theorem generateAndStoreAIResponse_settles (ticket : CommentedTicket) (own : ticket.id = ticketId)
    (latestComment : TicketComment) (orgConfig : Option AIConfig)
    (room : HasRoom ticketId allowed call last ticket.aiMessageCount) :
    Settles ticketId organizationId allowed
      (generateAndStoreAIResponse setup ticket latestComment orgConfig) call last := by
  unfold generateAndStoreAIResponse
  rw [own]
  refine (beside_budgets (beside_of_quiet (generateAIResponse_quiet setup _ _ _))).bind ?_
    fun _ _ _ => by simp
  intro aiResult asked follows
  have room := room.later follows
  refine (beside_budgets (beside_of_quiet (reads_quiet _))).bind ?_ fun _ _ _ => by simp
  intro now timed follows
  have room := room.later follows
  refine (storeAIComment_budgets room _ _).bind ?_ fun _ _ _ => by simp
  intro comment stored debt
  have debt := debt comment rfl
  refine (beside_budgets (beside_of_quiet (logAIActivity_quiet _ _ _))).bind ?_
    fun _ _ _ => by simp
  intro _ logged follows
  have debt := debt.later follows
  dsimp only
  split_ifs
  · refine (beside_budgets (handleSmartAssign_beside ticket.toTicket own)).bind ?_
      fun _ _ _ => by simp
    intro _ assigned follows
    exact update_settles (debt.later follows) _ rfl
  · exact update_settles debt _ rfl

/-- What a run has found in the database, of a ticket that it tallies. -/
structure Found (ticketId organizationId : Nat) (call : Delivery) (ticket : CommentedTicket)
    (recorded : Recorded Delivery AutomationWorld) : Prop where
  seen : foundCount ticketId (recorded.own call) = some ticket.aiMessageCount
  placed : ticket.organizationId = organizationId

variable (sought : Nat)

theorem getTicketWithComments_budgets (second : (last.own call).length = 2) :
    Budgets ticketId organizationId allowed (getTicketWithComments sought) call
      (fun reached result => Follows ticketId call last reached ∧
        ∀ ticket, result = .ok (some ticket) → ticket.id = sought ∧
          (sought = ticketId → Found ticketId organizationId call ticket reached)) last := by
  refine (query_budgets _).weaken ?_
  rintro reached result ⟨deed, looks, seen⟩
  refine ⟨looks.follows, fun ticket same => ?_⟩
  have found := seen _ same
  obtain ⟨row, there, rfl⟩ := Option.map_eq_some_iff.mp found.symm
  refine ⟨findTicket_id _ sought row there, fun own => ?_⟩
  subst own
  have placed := looks.placed
  rw [there, Option.map_some, Option.some.injEq] at placed
  refine ⟨?_, placed⟩
  rw [looks.own, foundCount_cons, if_pos second, messageCount, there]
  rfl

theorem getAIConfigByOrg_budgets :
    Budgets ticketId organizationId allowed (getAIConfigByOrg sought) call
      (fun reached result => Follows ticketId call last reached ∧
        ∀ orgConfig, result = .ok orgConfig → sought = organizationId →
          (orgConfig.map (·.maxAIResponses)).getD aiMaxMessagesPerTicket = allowed) last := by
  refine (query_budgets _).weaken ?_
  rintro reached result ⟨deed, looks, seen⟩
  refine ⟨looks.follows, fun orgConfig same own => ?_⟩
  rw [seen orgConfig same, own]
  exact looks.limit

variable (commentId : Nat)

theorem processComment_settles (second : (last.own call).length = 2)
    (clear : owes ticketId (last.own call) = false) :
    Settles ticketId organizationId allowed (processComment setup sought commentId) call last := by
  have settled (reached : Recorded Delivery AutomationWorld)
      (follows : Follows ticketId call last reached) : Settled ticketId call reached :=
    fun _ => follows.owes.trans clear
  refine (getTicketWithComments_budgets sought second).bind ?_ fun _ _ _ => by simp
  rintro looked reached ⟨looks, found⟩
  cases looked with
  | none => exact Settles.pure _ (settled _ looks)
  | some ticket =>
    obtain ⟨same, found⟩ := found ticket rfl
    refine (getAIConfigByOrg_budgets ticket.organizationId).bind ?_ fun _ _ _ => by simp
    rintro orgConfig configured ⟨reads, limit⟩
    have follows := looks.trans reads
    split_ifs
    · cases ticket.comments.find? fun comment => comment.id == commentId with
      | none => exact Settles.pure _ (settled _ follows)
      | some newComment =>
        dsimp only
        split_ifs
        · refine (beside_budgets (beside_of_quiet (reads_quiet _))).bind ?_ fun _ _ _ => by simp
          intro now timed ticks
          have follows := follows.trans ticks
          split_ifs with canProcess
          · have answers : Settles ticketId organizationId allowed
                (generateAndStoreAIResponse setup ticket newComment orgConfig) call timed := by
              by_cases own : sought = ticketId
              · have found := found own
                have room := canProcess_within canProcess
                rw [limit orgConfig rfl found.placed] at room
                refine generateAndStoreAIResponse_settles setup ticket (same.trans own) _ _ ?_
                exact ⟨(reads.trans ticks).found _ found.seen, follows.owes.trans clear, room⟩
              · refine settles_of_beside ?_ (settled _ follows)
                exact generateAndStoreAIResponse_each setup
                  (others_beside ticket.id commentId (same ▸ own)) ticket rfl _ _
            exact answers.bind (fun _ _ settled => Settles.pure _ (settled _ rfl))
              fun _ _ _ => by simp
          · exact Settles.pure _ (settled _ follows)
        · exact Settles.pure _ (settled _ follows)
    · exact Settles.pure _ (settled _ follows)

theorem acquireCommentProcessingLock_beside :
    StepsBeside ticketId (acquireCommentProcessingLock commentId) :=
  cacheWrite_each (Beside ticketId) Beside.refl fun _ => ⟨rfl, rfl, fun _ => rfl⟩

theorem releaseCommentProcessingLock_beside :
    StepsBeside ticketId (releaseCommentProcessingLock commentId) := by
  refine Each.bind (cacheWrite_each (Beside ticketId) Beside.refl fun _ => ?_) fun _ => Each.pure ()
  exact ⟨rfl, rfl, fun _ => rfl⟩

theorem handleCommentAdded_settles (fresh : last.own call = []) :
    Settles ticketId organizationId allowed (handleCommentAdded setup call.1) call last := by
  have settled (reached : Recorded Delivery AutomationWorld)
      (follows : Follows ticketId call last reached) : Settled ticketId call reached := by
    intro _
    rw [follows.owes, fresh]
    rfl
  unfold handleCommentAdded
  cases call.1.commentId with
  | none => exact Settles.pure () (settled _ (Follows.refl last))
  | some commentId =>
    have checks : Budgets ticketId organizationId allowed (hasCommentBeenProcessed commentId) call
        (fun reached _ => Follows ticketId call last reached ∧ (reached.own call).length = 1)
        last := by
      refine Relies.reads fun now since tallied _ => ?_
      have step : Beside ticketId now.state now.state := Beside.refl now.state
      refine ⟨owed_of_tallied (tallied.beside step), step.follows since, ?_⟩
      rw [since.own_add, fresh]
      rfl
    refine checks.bind ?_ fun _ _ _ => by simp
    rintro processed checked ⟨looks, one⟩
    split_ifs
    · exact Settles.pure () (settled _ looks)
    · have acquires : Budgets ticketId organizationId allowed
          (acquireCommentProcessingLock commentId) call
          (fun reached _ => Follows ticketId call checked reached ∧ (reached.own call).length = 2)
          checked := by
        refine (attempt_budgets (acquireCommentProcessingLock_beside commentId)).weaken ?_
        rintro reached result ⟨deed, looks, -⟩
        exact ⟨looks.follows, by rw [looks.own, List.length_cons, one]⟩
      refine acquires.bind ?_ fun _ _ _ => by simp
      rintro lockResult locked ⟨takes, two⟩
      have follows := looks.trans takes
      have clear : owes ticketId (locked.own call) = false := by
        rw [follows.owes, fresh]
        rfl
      have processes : Settles ticketId organizationId allowed
          (processComment setup call.1.ticketId commentId) call locked :=
        processComment_settles setup call.1.ticketId commentId two clear
      cases lockResult with
      | none =>
        exact processes.bind (fun _ _ settled => Settles.pure () (settled _ rfl))
          fun _ _ _ => by simp
      | some acquired =>
        cases acquired with
        | false => exact Settles.pure () (settled _ follows)
        | true =>
          have body : Settles ticketId organizationId allowed (do
                let responded ← processComment setup call.1.ticketId commentId
                if responded then markCommentAsProcessed commentId) call locked := by
            refine processes.bind ?_ fun _ _ _ => by simp
            intro responded reached settled
            have settled := settled responded rfl
            split_ifs
            · exact settles_of_beside (beside_of_quiet (markCommentAsProcessed_quiet _)) settled
            · exact Settles.pure () settled
          refine Relies.ensuring_ok body fun reached => ?_
          exact (beside_budgets (releaseCommentProcessingLock_beside commentId)).weaken
            fun _ _ follows settled => settled.later follows

end Runs

/-- The runs of `handleCommentAdded`, while nothing else answers on the ticket or counts, and the
limits stay. -/
def ticketRuns (setup : Setup) (ticketId : Nat) :
    Pool.System Delivery (Recorded Delivery AutomationWorld)
      (Program (Recorded Delivery AutomationWorld) ServiceError Unit) :=
  Pool.recording (fun call => handleCommentAdded setup call.1) (Beside ticketId)

def FailClear (ticketId : Nat) (pool : Pool Delivery (Recorded Delivery AutomationWorld)
    (Program (Recorded Delivery AutomationWorld) ServiceError Unit)) : Prop :=
  -- No run has failed between storing its answer and counting it.
  ∀ call failure, pool.calls call = some (.done (.error failure)) →
    owes ticketId (pool.state.own call) = false

/-- If each run that stores an answer has found as many counted as there are, the answers stay
within the limit. Once all runs have finished, and none has failed owing one, all are counted. -/
theorem budget_kept (setup : Setup) (start : AutomationWorld) (ticket : Ticket)
    (there : start.db.findTicket ticket.id = some ticket)
    (balanced : answersOn ticket.id start.db = ticket.aiMessageCount)
    (within : answersOn ticket.id start.db ≤ maxMessages start ticket.organizationId)
    (pool : Pool Delivery (Recorded Delivery AutomationWorld)
      (Program (Recorded Delivery AutomationWorld) ServiceError Unit))
    (run : Pool.Run (ticketRuns setup ticket.id) Pool.anyStatement (Pool.idle { state := start })
      pool)
    (inTurn : EachDeed (InTurn ticket.id) pool.state.deeds) :
    answersOn ticket.id pool.state.state.db ≤ maxMessages start ticket.organizationId ∧
      (Pool.Finished pool → FailClear ticket.id pool →
        messageCount ticket.id pool.state.state.db =
          some (answersOn ticket.id pool.state.state.db)) := by
  let allowed := maxMessages start ticket.organizationId
  have counted : messageCount ticket.id start.db = some ticket.aiMessageCount := by
    rw [messageCount, there]
    rfl
  have initial : Tallied ticket.id ticket.organizationId allowed { state := start } := by
    refine ⟨by rw [there]; rfl, rfl, fun _ => ⟨_, ⟨counted, ?_, .inl ⟨?_, balanced⟩, within⟩⟩⟩
    · intro call before found
      cases found
    · exact fun call => rfl
  have reliable : Pool.Reliable (budget ticket.id ticket.organizationId allowed)
      (fun _ _ => True) (fun call reached result => ∀ value, result = .ok value →
        Settled ticket.id call reached) pool := by
    refine Pool.Run.reliable ?_ (fun call last fresh => handleCommentAdded_settles setup fresh)
      initial (run.permit fun _ _ _ _ => trivial)
    intro before after tallied deeds beside
    refine ⟨tallied.moved deeds beside, fun call => ?_⟩
    change before.deeds <:+ after.deeds
    rw [deeds]
  obtain ⟨count, tally⟩ := reliable.1.tally inTurn
  refine ⟨tally.within, fun finished clear => ?_⟩
  have settled (call : Delivery) : owes ticket.id (pool.state.own call) = false := by
    have own := reliable.2 call
    cases running : pool.calls call with
    | none =>
      rw [running] at own
      have nothing : pool.state.own call = [] := own
      rw [nothing]
      rfl
    | some program =>
      obtain ⟨result, rfl⟩ := finished call program running
      cases result with
      | error failure => exact clear call failure running
      | ok value =>
        obtain ⟨last, since, settles⟩ := reliable.done running
        rw [since.own]
        exact settles value rfl (inTurn.of_suffix since.relied)
  rcases tally.answers with ⟨-, all⟩ | ⟨call, owing, -⟩
  · rw [all]
    exact tally.counted
  · rw [settled call] at owing
    cases owing

def oneAllowed : AutomationWorld :=
  -- The organisation allows one answer.
  { waiting with
    db :=
      { waiting.db with
        ticketComments := [askedForHelp, { askedForHelp with id := 21, message := "Still jammed" }]
        nextId := 22 }
    configs := [{ organizationId := 3, maxAIResponses := 1 }] }

def about (commentId : Nat) : Delivery := ({ ticketId := 10, commentId := some commentId }, 0)

def goesOn (commentId count : Nat) : List DeliveryMove :=
  List.replicate count (.turn (about commentId))

def twoRuns (before : Nat) : Pool Delivery (Recorded Delivery AutomationWorld)
    (Program (Recorded Delivery AutomationWorld) ServiceError Unit) :=
  -- The first run takes some turns before the second one comes, and the rest after it.
  Pool.play Program.advance (fun call => (handleCommentAdded plainTexts call.1).recorded call)
    (goesOn 20 before ++ goesOn 21 17 ++ goesOn 20 17) (Pool.idle { state := oneAllowed })

def succeeded (pool : Pool Delivery (Recorded Delivery AutomationWorld)
    (Program (Recorded Delivery AutomationWorld) ServiceError Unit)) (call : Delivery) : Bool :=
  match pool.calls call with
  | some (.done (.ok ())) => true
  | _ => false

theorem twoRuns_run (before : Nat) :
    Pool.Run (ticketRuns plainTexts 10) Pool.anyStatement (Pool.idle { state := oneAllowed })
      (twoRuns before) := by
  refine Pool.play_runs _ (fun call _ seen => rfl) ?_ _ (Pool.permits_any ..)
  intro change member
  simp [goesOn] at member

theorem twoRuns_succeed (before : Nat)
    (both : ∀ commentId ∈ [20, 21], succeeded (twoRuns before) (about commentId) = true)
    {call : Delivery} {program : Program (Recorded Delivery AutomationWorld) ServiceError Unit}
    (called : (twoRuns before).calls call = some program) : program = .done (.ok ()) := by
  have member := Pool.play_called _ _ rfl called
  have named : ∃ commentId ∈ [20, 21], call = about commentId := by
    simp only [goesOn, List.mem_append, List.mem_replicate, Pool.Move.turn.injEq] at member
    rcases member with (⟨-, same⟩ | ⟨-, same⟩) | ⟨-, same⟩
    · exact ⟨20, by simp, same⟩
    · exact ⟨21, by simp, same⟩
    · exact ⟨20, by simp, same⟩
  obtain ⟨commentId, listed, rfl⟩ := named
  have done := both commentId listed
  unfold succeeded at done
  rw [called] at done
  split at done
  · rename_i same
    exact Option.some.inj same
  · cases done

/-- The first run is through when the second one comes, which finds that the limit is reached. -/
theorem one_by_one_kept :
    answersOn 10 (twoRuns 17).state.state.db ≤ 1 ∧
      messageCount 10 (twoRuns 17).state.state.db =
        some (answersOn 10 (twoRuns 17).state.state.db) := by
  have ended := @twoRuns_succeed 17 (by decide +kernel)
  obtain ⟨within, counted⟩ := budget_kept plainTexts oneAllowed brokenPrinter (by decide)
    (by decide) (by decide) _ (twoRuns_run 17) (by decide +kernel)
  refine ⟨within, counted ?_ ?_⟩
  · intro call program called
    exact ⟨_, ended called⟩
  · intro call failure called
    cases ended called

/-- The first run has looked before the second one stores its answer, and stores another. -/
theorem interleaved_exceeds :
    Pool.Run (ticketRuns plainTexts 10) Pool.anyStatement (Pool.idle { state := oneAllowed })
        (twoRuns 6) ∧
      messageCount 10 oneAllowed.db = some (answersOn 10 oneAllowed.db) ∧
      maxMessages oneAllowed 3 = 1 ∧
      (∀ commentId ∈ [20, 21], succeeded (twoRuns 6) (about commentId) = true) ∧
      answersOn 10 (twoRuns 6).state.state.db = 2 ∧
      messageCount 10 (twoRuns 6).state.state.db = some 1 :=
  ⟨twoRuns_run 6, by decide, by decide, by decide +kernel⟩

end HelpForge.Automation
