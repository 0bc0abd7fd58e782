import HelpForge.Automation.Steps
import HelpForge.Lib.RelyGuarantee

set_option autoImplicit false

namespace HelpForge.Automation

open Lib Tickets
open Lib.Program (Relies Each)

abbrev Delivery := CommentPayload × Nat

section Deeds

def aiComments (found left : AutomationWorld) : List TicketComment :=
  (left.db.ticketComments.drop found.db.ticketComments.length).filter fun comment =>
    comment.authorType == .ai

def answersTo (commentId : Nat) (deeds : List (Deed Delivery AutomationWorld)) :
    List TicketComment :=
  -- The answers that deliveries of the comment have stored.
  deeds.flatMap fun deed =>
    if deed.call.1.commentId = some commentId then aiComments deed.found deed.left else []

def lockHolder (commentId : Nat) : List (Deed Delivery AutomationWorld) → Option Delivery
  -- The delivery that has taken the lock of the comment and not given it back.
  | [] => none
  | deed :: earlier =>
    if deed.left.processing commentId = deed.found.processing commentId then
      lockHolder commentId earlier
    else if deed.left.processing commentId then some deed.call
    else none

variable (recorded : Recorded Delivery AutomationWorld) (call : Delivery) (left : AutomationWorld)
  (commentId : Nat)

theorem answersTo_add :
    answersTo commentId (recorded.add call left).deeds =
      (if call.1.commentId = some commentId then aiComments recorded.state left else []) ++
        answersTo commentId recorded.deeds :=
  List.flatMap_cons ..

theorem lockHolder_same (same : left.processing commentId = recorded.state.processing commentId) :
    lockHolder commentId (recorded.add call left).deeds = lockHolder commentId recorded.deeds :=
  if_pos same

theorem lockHolder_taken (free : recorded.state.processing commentId = false)
    (taken : left.processing commentId = true) :
    lockHolder commentId (recorded.add call left).deeds = some call := by
  simp [Recorded.add, lockHolder, free, taken]

theorem lockHolder_released (taken : recorded.state.processing commentId = true)
    (free : left.processing commentId = false) :
    lockHolder commentId (recorded.add call left).deeds = none := by
  simp [Recorded.add, lockHolder, free, taken]

end Deeds

structure Orderly (recorded : Recorded Delivery AutomationWorld) : Prop where
  client : recorded.state.cacheClient = true
  up : recorded.state.down .cache = false
  locked : ∀ commentId holder, lockHolder commentId recorded.deeds = some holder →
    recorded.state.processing commentId = true
  once : ∀ commentId, (answersTo commentId recorded.deeds).length ≤ 1

def oneAnswer : Regime Delivery AutomationWorld where
  inv := Orderly
  rely call last now := ∀ commentId, lockHolder commentId last.deeds = some call →
    lockHolder commentId now.deeds = some call ∧
      answersTo commentId now.deeds = answersTo commentId last.deeds
  refl _ _ _ held := ⟨held, rfl⟩
  trans call first second third one other commentId held := by
    obtain ⟨still, same⟩ := one commentId held
    obtain ⟨again, same'⟩ := other commentId still
    exact ⟨again, same'.trans same⟩

structure Aside (found left : AutomationWorld) : Prop where
  client : left.cacheClient = found.cacheClient
  up : left.down = found.down
  locks : left.processing = found.processing
  comments : left.db.ticketComments = found.db.ticketComments

theorem Aside.refl (state : AutomationWorld) : Aside state state := ⟨rfl, rfl, rfl, rfl⟩

section Steps

variable {now last : Recorded Delivery AutomationWorld} {call : Delivery} {left : AutomationWorld}
  {commentId : Nat}

section Aside

variable (aside : Aside now.state left)

include aside

theorem Aside.aiComments_eq : aiComments now.state left = [] := by
  simp [aiComments, aside.comments]

theorem Aside.answersTo_eq (commentId : Nat) :
    answersTo commentId (now.add call left).deeds = answersTo commentId now.deeds := by
  rw [answersTo_add, aside.aiComments_eq]
  simp

theorem Aside.lockHolder_eq (commentId : Nat) :
    lockHolder commentId (now.add call left).deeds = lockHolder commentId now.deeds :=
  lockHolder_same now call left commentId (by rw [aside.locks])

theorem Aside.owed (orderly : Orderly now) : oneAnswer.Owed call now (now.add call left) := by
  refine ⟨⟨aside.client.trans orderly.client, ?_, ?_, ?_⟩, ?_⟩
  · change left.down .cache = false
    rw [aside.up]
    exact orderly.up
  · intro commentId holder held
    rw [aside.lockHolder_eq] at held
    change left.processing commentId = true
    rw [aside.locks]
    exact orderly.locked commentId holder held
  · intro commentId
    rw [aside.answersTo_eq]
    exact orderly.once commentId
  · intro other _ commentId held
    exact ⟨(aside.lockHolder_eq commentId).trans held, aside.answersTo_eq commentId⟩

end Aside

theorem taken_owed (orderly : Orderly now) (free : now.state.processing commentId = false)
    (lock : left = { now.state with
      processing := Function.update now.state.processing commentId true }) :
    oneAnswer.Owed call now (now.add call left) := by
  have others (other : Nat) (ne : other ≠ commentId) :
      left.processing other = now.state.processing other := by
    rw [lock]
    exact Function.update_of_ne ne ..
  have answers (other : Nat) :
      answersTo other (now.add call left).deeds = answersTo other now.deeds := by
    simp [answersTo_add, aiComments, lock]
  refine ⟨⟨?_, ?_, ?_, fun other => by rw [answers]; exact orderly.once other⟩, ?_⟩
  · rw [lock]
    exact orderly.client
  · rw [lock]
    exact orderly.up
  · intro other holder held
    by_cases same : other = commentId
    · rw [same, lock]
      exact Function.update_self ..
    · rw [lockHolder_same now call left other (others other same)] at held
      exact (others other same).trans (orderly.locked other holder held)
  · intro holder _ other held
    refine ⟨?_, answers other⟩
    by_cases same : other = commentId
    · subst same
      rw [orderly.locked other holder held] at free
      cases free
    · rw [lockHolder_same now call left other (others other same)]
      exact held

theorem released_owed (orderly : Orderly now) (held : lockHolder commentId now.deeds = some call)
    (release : left = { now.state with
      processing := Function.update now.state.processing commentId false }) :
    oneAnswer.Owed call now (now.add call left) := by
  have others (other : Nat) (ne : other ≠ commentId) :
      left.processing other = now.state.processing other := by
    rw [release]
    exact Function.update_of_ne ne ..
  have answers (other : Nat) :
      answersTo other (now.add call left).deeds = answersTo other now.deeds := by
    simp [answersTo_add, aiComments, release]
  have free : left.processing commentId = false := by
    rw [release]
    exact Function.update_self ..
  refine ⟨⟨?_, ?_, ?_, fun other => by rw [answers]; exact orderly.once other⟩, ?_⟩
  · rw [release]
    exact orderly.client
  · rw [release]
    exact orderly.up
  · intro other holder there
    by_cases same : other = commentId
    · subst same
      rw [lockHolder_released now call left other (orderly.locked other call held) free] at there
      cases there
    · rw [lockHolder_same now call left other (others other same)] at there
      exact (others other same).trans (orderly.locked other holder there)
  · intro holder ne other there
    refine ⟨?_, answers other⟩
    by_cases same : other = commentId
    · subst same
      rw [held] at there
      exact absurd (Option.some.inj there).symm ne
    · rw [lockHolder_same now call left other (others other same)]
      exact there

theorem answered_owed (orderly : Orderly now) (held : lockHolder commentId now.deeds = some call)
    (own : call.1.commentId = some commentId) (first : answersTo commentId now.deeds = [])
    (comment : TicketComment)
    (store : left = { now.state with toWorld := now.state.withDb (insertComment comment) }) :
    oneAnswer.Owed call now (now.add call left) := by
  have locks (other : Nat) : left.processing other = now.state.processing other := by rw [store]
  have holders (other : Nat) : lockHolder other (now.add call left).deeds =
      lockHolder other now.deeds := lockHolder_same now call left other (locks other)
  have others (other : Nat) (ne : other ≠ commentId) :
      answersTo other (now.add call left).deeds = answersTo other now.deeds := by
    rw [answersTo_add, own, if_neg (by simpa using ne.symm)]
    rfl
  refine ⟨⟨?_, ?_, ?_, ?_⟩, ?_⟩
  · rw [store]
    exact orderly.client
  · rw [store]
    exact orderly.up
  · intro other holder there
    rw [holders] at there
    exact (locks other).trans (orderly.locked other holder there)
  · intro other
    by_cases same : other = commentId
    · subst same
      have added : (aiComments now.state left).length ≤ 1 := by
        refine (List.length_filter_le _ _).trans ?_
        simp [store, World.withDb, insertComment]
      rw [answersTo_add, if_pos own, first, List.append_nil]
      exact added
    · rw [others other same]
      exact orderly.once other
  · intro holder ne other there
    refine ⟨(holders other).trans there, ?_⟩
    by_cases same : other = commentId
    · subst same
      rw [held] at there
      exact absurd (Option.some.inj there).symm ne
    · exact others other same

end Steps

variable {α : Type} {program : AutomationCall α}

section Aside

variable (setup : Setup)

abbrev StepsAside {α : Type} (program : AutomationCall α) : Prop :=
  program.Each fun change state => Aside state (change state)

theorem aside_of_quiet (quiet : StepsQuietly program) : StepsAside program :=
  quiet.weaken fun _ _ quiet => ⟨quiet.client, quiet.up, quiet.locks, by rw [quiet.db]⟩

theorem updateTicket_aside (ticketId : Nat) (patch : TicketPatch) :
    StepsAside (updateTicket ticketId patch) := by
  refine statement_each Aside Aside.refl fun state value db outcome => ?_
  cases found : state.db.findTicket ticketId with
  | none => simp [found] at outcome
  | some ticket =>
    simp only [found] at outcome
    split_ifs at outcome
    cases outcome
    exact ⟨rfl, rfl, rfl, rfl⟩

theorem handleSmartAssign_aside (ticket : Ticket) : StepsAside (handleSmartAssign ticket) := by
  refine Each.recover ?_ fun _ => Each.pure ()
  refine (aside_of_quiet (query_quiet _)).bind fun agents => ?_
  split
  · exact Each.pure ()
  · exact (updateTicket_aside _ _).bind fun _ => Each.pure ()

end Aside

structure Considered (payload : CommentPayload) (commentId : Nat) (looked configured : AutomationWorld)
    (ticket : CommentedTicket) (comment : TicketComment) : Prop where
  found : looked.down .database = false ∧
    (looked.db.findTicket payload.ticketId).map (commented looked.db) = some ticket
  enabled : configured.down .database = false ∧
    (configured.configs.find? fun config => config.organizationId == ticket.organizationId).all
      (·.aiEnabled) = true
  named : (ticket.comments.find? fun comment => comment.id == commentId) = some comment
  user : comment.authorType = .user

def GuardsRefuse (call : Delivery) (recorded : Recorded Delivery AutomationWorld) : Prop :=
  -- If the comment has its answer when a delivery comes to the guards, they refuse.
  ∀ commentId, call.1.commentId = some commentId → answersTo commentId recorded.deeds ≠ [] →
    ∀ checked locked looked configured,
      recorded.own call = [configured, looked, locked, checked] →
      ∀ ticket comment,
        Considered call.1 commentId looked.found configured.found ticket comment →
        (shouldProcessAI ticket
          (configured.found.configs.find? fun config =>
            config.organizationId == ticket.organizationId)
          recorded.state.now).canProcess = false

section Deliveries

variable (setup : Setup) {call : Delivery} {commentId : Nat}
  {last : Recorded Delivery AutomationWorld}

abbrev Delivers {α : Type} (program : AutomationCall α) (call : Delivery)
    (post : Recorded Delivery AutomationWorld → Except ServiceError α → Prop)
    (last : Recorded Delivery AutomationWorld) : Prop :=
  program.Relies oneAnswer (GuardsRefuse call) call post last

def Holding (call : Delivery) (commentId : Nat)
    (recorded : Recorded Delivery AutomationWorld) : Prop :=
  lockHolder commentId recorded.deeds = some call

theorem Aside.holding {now : Recorded Delivery AutomationWorld} {left : AutomationWorld}
    (aside : Aside now.state left) (since : oneAnswer.Since call last now)
    (holding : Holding call commentId last) :
    Holding call commentId (now.add call left) ∧
      answersTo commentId (now.add call left).deeds = answersTo commentId last.deeds := by
  -- The holder finds the lock and the answers as it has left them, and leaves them so.
  obtain ⟨still, same⟩ := since.relied commentId holding
  exact ⟨(aside.lockHolder_eq commentId).trans still, (aside.answersTo_eq commentId).trans same⟩

theorem aside_delivers (aside : StepsAside program) (holding : Holding call commentId last) :
    Delivers program call (fun reached _ => Holding call commentId reached ∧
      answersTo commentId reached.deeds = answersTo commentId last.deeds) last := by
  induction program generalizing last with
  | done result => exact ⟨holding, rfl⟩
  | atomic change next ih =>
    intro now since orderly _
    obtain ⟨step, later⟩ := aside now.state
    obtain ⟨still, same⟩ := step.holding since holding
    refine ⟨step.owed orderly, (ih now.state later still).weaken ?_⟩
    rintro reached _ ⟨held, answers⟩
    exact ⟨held, answers.trans same⟩

theorem query_delivers (view : AutomationWorld → α) (holding : Holding call commentId last) :
    Delivers (query view) call (fun reached result => Holding call commentId reached ∧
      ∀ value, result = .ok value → ∃ deed, reached.own call = deed :: last.own call ∧
        deed.found.down .database = false ∧ value = view deed.found) last := by
  refine Relies.attempt ?_ ?_
  · intro now value left since orderly _ outcome
    split_ifs at outcome with down
    cases outcome
    refine ⟨(Aside.refl _).owed orderly, ((Aside.refl _).holding since holding).1, ?_⟩
    rintro _ ⟨⟩
    exact ⟨_, since.own_add now.state, by simpa using down, rfl⟩
  · intro now failure since orderly _ _
    exact ⟨(Aside.refl _).owed orderly, ((Aside.refl _).holding since holding).1, by simp⟩

theorem createComment_delivers (data : CommentInput) (own : call.1.commentId = some commentId)
    (holding : Holding call commentId last) (first : answersTo commentId last.deeds = []) :
    Delivers (createComment data) call (fun reached _ => Holding call commentId reached) last := by
  refine Relies.attempt ?_ ?_
  · intro now value left since orderly _ outcome
    obtain ⟨still, same⟩ := since.relied commentId holding
    split_ifs at outcome with down
    dsimp only at outcome
    split_ifs at outcome with known
    · cases outcome
      refine ⟨answered_owed orderly still own (same.trans first) _ rfl, ?_⟩
      exact (lockHolder_same now call _ commentId rfl).trans still
    · cases outcome
  · intro now failure since orderly _ _
    exact ⟨(Aside.refl _).owed orderly, ((Aside.refl _).holding since holding).1⟩

theorem generateAndStoreAIResponse_delivers (ticket : CommentedTicket)
    (latestComment : TicketComment) (orgConfig : Option AIConfig)
    (own : call.1.commentId = some commentId) (holding : Holding call commentId last)
    (first : answersTo commentId last.deeds = []) :
    Delivers (generateAndStoreAIResponse setup ticket latestComment orgConfig) call
      (fun reached _ => Holding call commentId reached) last := by
  refine (aside_delivers (aside_of_quiet (generateAIResponse_quiet setup _ _ _)) holding).bind ?_ fun _ _ held => held.1
  rintro aiResult generated ⟨holding, same⟩
  rw [first] at same
  have read : StepsAside (Program.reads fun state : AutomationWorld => state.now) :=
    Each.reads Aside.refl
  refine (aside_delivers read holding).bind ?_ fun _ _ held => held.1
  rintro now timed ⟨holding, same'⟩
  refine (createComment_delivers _ own holding (same'.trans same)).bind ?_ fun _ _ held => held
  intro _ stored holding
  have rest : StepsAside (do
      logAIActivity ticket.organizationId ticket.id aiResult.aiUsage
      let action := decideAction
        (calculateConfidence (confidenceContext setup ticket aiResult.content now)).confidence
        (decisionOptions ticket.toTicket orgConfig)
      if action.type = .smartAssign then handleSmartAssign ticket.toTicket
      let _ ← updateTicket ticket.id
        (buildTicketUpdate ticket.toTicket action.type (countAIResponses ticket.comments))
      pure ()) := by
    refine (aside_of_quiet (logAIActivity_quiet _ _ _)).bind fun _ => ?_
    dsimp only
    split_ifs
    · refine (handleSmartAssign_aside _).bind fun _ => ?_
      exact (updateTicket_aside _ _).bind fun _ => Each.pure ()
    · exact (updateTicket_aside _ _).bind fun _ => Each.pure ()
  exact (aside_delivers rest holding).weaken fun _ _ held => held.1

theorem processComment_delivers (own : call.1.commentId = some commentId)
    (holding : Holding call commentId last) (checked locked : Deed Delivery AutomationWorld)
    (before : last.own call = [locked, checked]) :
    Delivers (processComment setup call.1.ticketId commentId) call
      (fun reached _ => Holding call commentId reached) last := by
  refine (query_delivers _ holding).bind ?_ fun _ _ held => held.1
  rintro found read ⟨holding, answer⟩
  obtain ⟨looked, deeds, up, here⟩ := answer found rfl
  rw [before] at deeds
  cases found with
  | none => exact holding
  | some ticket =>
    refine (query_delivers _ holding).bind ?_ fun _ _ held => held.1
    rintro orgConfig read' ⟨holding, answer'⟩
    obtain ⟨configured, deeds', up', there⟩ := answer' orgConfig rfl
    rw [deeds] at deeds'
    split_ifs with enabled
    · cases named : ticket.comments.find? fun comment => comment.id == commentId with
      | none => exact holding
      | some newComment =>
        dsimp only
        split_ifs with user
        · have considered : Considered call.1 commentId looked.found configured.found ticket
              newComment := ⟨⟨up, here.symm⟩, ⟨up', there ▸ enabled⟩, named, user⟩
          have timed : Delivers (Program.reads fun state : AutomationWorld => state.now) call
              (fun reached result => Holding call commentId reached ∧ ∀ now, result = .ok now →
                (shouldProcessAI ticket orgConfig now).canProcess = true →
                answersTo commentId reached.deeds = []) read' := by
            refine Relies.reads fun now since orderly refuse => ?_
            obtain ⟨still, same⟩ := (Aside.refl now.state).holding since holding
            refine ⟨(Aside.refl _).owed orderly, still, ?_⟩
            rintro _ ⟨⟩ passes
            by_contra answered
            rw [(Aside.refl now.state).answersTo_eq commentId] at answered
            have refused := refuse commentId own answered checked locked looked configured
              (since.own.trans deeds') ticket newComment considered
            rw [there, refused] at passes
            cases passes
          refine timed.bind ?_ fun _ _ held => held.1
          rintro now read'' ⟨holding, first⟩
          split_ifs with passes
          · refine (generateAndStoreAIResponse_delivers setup ticket newComment orgConfig own
              holding (first now rfl passes)).bind ?_ fun _ _ held => held
            exact fun _ _ held => held
          · exact holding
        · exact holding
    · exact holding

theorem acquireCommentProcessingLock_delivers {checked : Deed Delivery AutomationWorld}
    (own : last.own call = [checked]) :
    Delivers (acquireCommentProcessingLock commentId) call (fun reached result =>
      result = .ok (some false) ∨ result = .ok (some true) ∧ Holding call commentId reached ∧
        ∃ locked, reached.own call = [locked, checked]) last := by
  refine Relies.attempt ?_ ?_
  · intro now value left since orderly _ outcome
    rw [orderly.client, if_neg (by simp), orderly.up, if_neg (by simp)] at outcome
    cases outcome
    cases free : now.state.processing commentId with
    | true =>
      have same : Function.update now.state.processing commentId true = now.state.processing := by
        rw [← free]
        exact Function.update_eq_self ..
      have aside : Aside now.state { now.state with
          processing := Function.update now.state.processing commentId true } :=
        ⟨rfl, rfl, same, rfl⟩
      exact ⟨aside.owed orderly, .inl (by simp [free])⟩
    | false =>
      refine ⟨taken_owed orderly free rfl, .inr ⟨by simp [free], ?_, ?_⟩⟩
      · exact lockHolder_taken now call _ commentId free (Function.update_self ..)
      · have deeds := since.own_add { now.state with
          processing := Function.update now.state.processing commentId true }
        rw [own] at deeds
        exact ⟨_, deeds⟩
  · intro now failure since orderly _ outcome
    rw [orderly.client, if_neg (by simp), orderly.up, if_neg (by simp)] at outcome
    cases outcome

theorem releaseCommentProcessingLock_delivers (holding : Holding call commentId last) :
    Delivers (releaseCommentProcessingLock commentId) call (fun _ _ => True) last := by
  have deleted : Delivers (cacheWrite (fun _ => true) fun state =>
      { state with processing := Function.update state.processing commentId false }) call
      (fun _ _ => True) last := by
    refine Relies.attempt ?_ ?_
    · intro now value left since orderly _ outcome
      rw [orderly.client, if_neg (by simp), orderly.up, if_neg (by simp)] at outcome
      cases outcome
      exact ⟨released_owed orderly (since.relied commentId holding).1 rfl, trivial⟩
    · intro now failure since orderly _ _
      exact ⟨(Aside.refl _).owed orderly, trivial⟩
  exact deleted.bind (fun _ _ _ => trivial) fun _ _ _ => trivial

theorem handleCommentAdded_delivers (fresh : last.own call = []) :
    Delivers (handleCommentAdded setup call.1) call (fun _ _ => True) last := by
  unfold handleCommentAdded
  cases own : call.1.commentId with
  | none => trivial
  | some commentId =>
    have checks : Delivers (hasCommentBeenProcessed commentId) call
        (fun reached _ => ∃ checked, reached.own call = [checked]) last := by
      refine Relies.reads fun now since orderly _ => ⟨(Aside.refl _).owed orderly, ?_⟩
      have deeds := since.own_add now.state
      rw [fresh] at deeds
      exact ⟨_, deeds⟩
    refine checks.bind ?_ fun _ _ _ => trivial
    rintro processed read ⟨checked, deeds⟩
    split_ifs
    · trivial
    · refine (acquireCommentProcessingLock_delivers deeds).bind ?_ fun _ _ _ => trivial
      rintro lockResult locking (same | ⟨same, holding, locked, deeds'⟩)
      · cases same
        trivial
      · cases same
        have body : Delivers (do
              let responded ← processComment setup call.1.ticketId commentId
              if responded then markCommentAsProcessed commentId) call
            (fun reached _ => Holding call commentId reached) locking := by
          refine (processComment_delivers setup own holding checked locked deeds').bind ?_
            fun _ _ held => held
          intro responded reached held
          split_ifs
          · exact (aside_delivers (aside_of_quiet (markCommentAsProcessed_quiet commentId)) held).weaken
              fun _ _ still => still.1
          · exact held
        exact body.ensuring fun reached held => releaseCommentProcessingLock_delivers held

end Deliveries

structure LocksStay (state reached : AutomationWorld) : Prop where
  client : reached.cacheClient = state.cacheClient
  up : reached.down .cache = state.down .cache
  processing : reached.processing = state.processing
  processed : reached.processed = state.processed

def deliveries (setup : Setup) : Pool.System Delivery (Recorded Delivery AutomationWorld)
    (Program (Recorded Delivery AutomationWorld) ServiceError Unit) :=
  Pool.recording (fun call => handleCommentAdded setup call.1) LocksStay

/-- If the guards refuse whenever a delivery comes to them with a comment that has its answer, then
no comment ever has a second one, however deliveries interleave and wherever they fail. -/
theorem at_most_one_answer (setup : Setup) (start : AutomationWorld)
    (client : start.cacheClient = true) (up : start.down .cache = false)
    (pool : Pool Delivery (Recorded Delivery AutomationWorld)
      (Program (Recorded Delivery AutomationWorld) ServiceError Unit))
    (run : Pool.Run (deliveries setup) (Pool.permittedSteps GuardsRefuse)
      (Pool.idle { state := start }) pool) (commentId : Nat) :
    (answersTo commentId pool.state.deeds).length ≤ 1 := by
  have before : Orderly { state := start } := ⟨client, up, by simp [lockHolder], by simp [answersTo]⟩
  have outside : ∀ before after : Recorded Delivery AutomationWorld, Orderly before →
      after.deeds = before.deeds → LocksStay before.state after.state →
      Orderly after ∧ ∀ call, oneAnswer.rely call before after := by
    intro before after orderly deeds moved
    refine ⟨⟨moved.client.trans orderly.client, moved.up.trans orderly.up, ?_, ?_⟩, ?_⟩
    · intro commentId holder held
      rw [deeds] at held
      rw [moved.processing]
      exact orderly.locked commentId holder held
    · intro commentId
      rw [deeds]
      exact orderly.once commentId
    · intro call commentId held
      rw [deeds]
      exact ⟨held, rfl⟩
  have orderly : Orderly pool.state :=
    Pool.Run.relied outside (fun call last fresh => handleCommentAdded_delivers setup fresh) before run
  exact orderly.once commentId

def brokenPrinter : Ticket :=
  { id := 10, title := "Printer", organizationId := 3, createdById := 1 }

def askedForHelp : TicketComment :=
  { id := 20, ticketId := 10, authorId := some 1, authorType := .user, message := "It is jammed" }

def waiting : AutomationWorld where
  db :=
    { users := [{ id := 1, email := "user@a.example", password := "" }]
      organizations := [{ id := 3, name := "A" }]
      tickets := [brokenPrinter]
      ticketComments := [askedForHelp]
      nextId := 21 }
  now := 1000

def plainTexts : Setup where
  responseText _ comment := comment.message
  summaryText _ := ""
  toLowerCase := id

def delivery (number : Nat) : Delivery := ({ ticketId := 10, commentId := some 20 }, number)

abbrev DeliveryMove := Pool.Move Delivery (Recorded Delivery AutomationWorld)

def turns (number count : Nat) : List DeliveryMove := List.replicate count (.turn (delivery number))

def meanwhile (change : AutomationWorld → AutomationWorld) : DeliveryMove :=
  .outside fun recorded => { recorded with state := change recorded.state }

def delivered (moves : List DeliveryMove) : Pool Delivery (Recorded Delivery AutomationWorld)
    (Program (Recorded Delivery AutomationWorld) ServiceError Unit) :=
  Pool.play Program.advance
    (fun call => (handleCommentAdded plainTexts call.1).recorded call) moves
    (Pool.idle { state := waiting })

def databaseDown (state : AutomationWorld) : AutomationWorld :=
  { state with down := Function.update state.down .database true }

def databaseUp (delay : Nat) (state : AutomationWorld) : AutomationWorld :=
  { state with down := Function.update state.down .database false, now := state.now + delay }

def retriedAfter (delay : Nat) : List DeliveryMove :=
  -- The database fails once the answer has been stored, and the job is delivered again after the
  -- delay.
  turns 0 13 ++ [meanwhile databaseDown] ++ turns 0 3 ++ [meanwhile (databaseUp delay)] ++ turns 1 10

theorem retriedAfter_run (delay : Nat)
    (allowed : Pool Delivery (Recorded Delivery AutomationWorld)
      (Program (Recorded Delivery AutomationWorld) ServiceError Unit) → Delivery →
        Program (Recorded Delivery AutomationWorld) ServiceError Unit → Prop)
    (permitted : Pool.Permits allowed Program.advance
      (fun call => (handleCommentAdded plainTexts call.1).recorded call) (retriedAfter delay)
      (Pool.idle { state := waiting })) :
    Pool.Run (deliveries plainTexts) allowed (Pool.idle { state := waiting })
      (delivered (retriedAfter delay)) := by
  refine Pool.play_runs _ ?_ ?_ _ permitted
  · intro call _ seen
    rfl
  · intro change member recorded
    simp only [retriedAfter, turns, List.mem_append, List.mem_replicate, List.mem_singleton,
      reduceCtorEq, and_false, false_or, or_false, meanwhile, Pool.Move.outside.injEq] at member
    rcases member with rfl | rfl
    · exact ⟨rfl, rfl, rfl, rfl, rfl⟩
    · exact ⟨rfl, rfl, rfl, rfl, rfl⟩

/-- `GuardsRefuse`, computed. -/
def refuses (call : Delivery) (commentId : Nat) (recorded : Recorded Delivery AutomationWorld) :
    Bool :=
  (answersTo commentId recorded.deeds).isEmpty ||
    match recorded.own call with
    | [configured, looked, _, _] =>
      ((looked.found.db.findTicket call.1.ticketId).map (commented looked.found.db)).all
        fun ticket =>
          !(shouldProcessAI ticket
            (configured.found.configs.find? fun config =>
              config.organizationId == ticket.organizationId)
            recorded.state.now).canProcess
    | _ => true

theorem guardsRefuse_of_refuses (call : Delivery) (commentId : Nat)
    (own : call.1.commentId = some commentId) (recorded : Recorded Delivery AutomationWorld)
    (refused : refuses call commentId recorded = true) : GuardsRefuse call recorded := by
  intro other same answered checked locked looked configured deeds ticket comment considered
  cases own.symm.trans same
  simp only [refuses, deeds, considered.found.2, Option.all_some, Bool.or_eq_true,
    List.isEmpty_iff, Bool.not_eq_true'] at refused
  exact refused.resolve_left answered

/-- Within the cooldown the second delivery finds that it is too early. -/
theorem early_retry_answers_once :
    (answersTo 20 (delivered (retriedAfter 1000)).state.deeds).length ≤ 1 := by
  refine at_most_one_answer plainTexts waiting rfl rfl _ (retriedAfter_run 1000 _ ?_) 20
  refine Pool.permits_prefixes _ _ fun before call there process _ => ?_
  have refused : ∀ before < (retriedAfter 1000).length,
      ((retriedAfter 1000)[before]?).all (fun move => match move with
        | .turn call => call.1.commentId = some 20 &&
          refuses call 20 (delivered ((retriedAfter 1000).take before)).state
        | .outside _ => true) = true := by
    decide +kernel
  have within : before < (retriedAfter 1000).length := (List.getElem?_eq_some_iff.mp there).1
  have now := refused before within
  simp only [there, Option.all_some, Bool.and_eq_true, decide_eq_true_eq] at now
  exact guardsRefuse_of_refuses call 20 now.1 _ now.2

/-- After the cooldown it stores a second answer. -/
theorem late_retry_answers_twice :
    waiting.cacheClient = true ∧ waiting.down .cache = false ∧
      Pool.Run (deliveries plainTexts) Pool.anyStatement (Pool.idle { state := waiting })
        (delivered (retriedAfter 31000)) ∧
      (answersTo 20 (delivered (retriedAfter 31000)).state.deeds).length = 2 :=
  ⟨rfl, rfl, retriedAfter_run 31000 _ (Pool.permits_any ..), by decide +kernel⟩

end HelpForge.Automation
