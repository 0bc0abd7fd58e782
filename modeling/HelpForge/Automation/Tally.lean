import HelpForge.Automation.OneAnswer

set_option autoImplicit false

namespace HelpForge.Automation

open Lib.Recorded (own_add_of_ne own_add_self)

open Lib Tickets
open Lib.Program (Relies Each)

section Deeds

variable (ticketId : Nat)

def answersOn (db : Database) : Nat :=
  -- How many comments of the AI the ticket has.
  db.ticketComments.countP fun comment =>
    comment.ticketId == ticketId && comment.authorType == .ai

def messageCount (db : Database) : Option Nat := (db.findTicket ticketId).map (·.aiMessageCount)

def maxMessages (state : AutomationWorld) (organizationId : Nat) : Nat :=
  ((state.configs.find? fun config => config.organizationId == organizationId).map
    (·.maxAIResponses)).getD aiMaxMessagesPerTicket

def Stores (deed : Deed Delivery AutomationWorld) : Prop :=
  answersOn ticketId deed.found.db < answersOn ticketId deed.left.db

instance (deed : Deed Delivery AutomationWorld) : Decidable (Stores ticketId deed) :=
  inferInstanceAs (Decidable (_ < _))

def Counts (deed : Deed Delivery AutomationWorld) : Prop :=
  messageCount ticketId deed.left.db ≠ messageCount ticketId deed.found.db

instance (deed : Deed Delivery AutomationWorld) : Decidable (Counts ticketId deed) :=
  inferInstanceAs (Decidable (_ ≠ _))

def foundCount (own : List (Deed Delivery AutomationWorld)) : Option Nat :=
  -- The count that a run has found: it looks the ticket up in its third step.
  own.reverse[2]?.bind fun deed => messageCount ticketId deed.found.db

def owes : List (Deed Delivery AutomationWorld) → Bool
  -- Whether a run with these steps has stored an answer and not counted it.
  | [] => false
  | deed :: earlier =>
    if Stores ticketId deed then true
    else if Counts ticketId deed then false
    else owes earlier

def InTurn (earlier : List (Deed Delivery AutomationWorld)) (deed : Deed Delivery AutomationWorld) :
    Prop :=
  -- If the step stores an answer, the ticket has as many as the run has found counted.
  Stores ticketId deed →
    foundCount ticketId (earlier.filter fun other => other.call = deed.call) =
      some (answersOn ticketId deed.found.db)

instance (earlier : List (Deed Delivery AutomationWorld)) (deed : Deed Delivery AutomationWorld) :
    Decidable (InTurn ticketId earlier deed) :=
  inferInstanceAs (Decidable (_ → _))

structure Beside (found left : AutomationWorld) : Prop where
  answers : answersOn ticketId left.db = answersOn ticketId found.db
  ticket : (left.db.findTicket ticketId).map (fun ticket =>
      (ticket.organizationId, ticket.aiMessageCount)) =
    (found.db.findTicket ticketId).map fun ticket => (ticket.organizationId, ticket.aiMessageCount)
  limits : ∀ organizationId, maxMessages left organizationId = maxMessages found organizationId

end Deeds

section Account

variable {ticketId : Nat} {found left : AutomationWorld}

theorem Beside.refl (state : AutomationWorld) : Beside ticketId state state :=
  ⟨rfl, rfl, fun _ => rfl⟩

theorem Beside.count (beside : Beside ticketId found left) :
    messageCount ticketId left.db = messageCount ticketId found.db := by
  have same := congrArg (Option.map Prod.snd) beside.ticket
  simpa [messageCount, Option.map_map, Function.comp_def] using same

theorem Quiet.beside (quiet : Quiet found left) : Beside ticketId found left := by
  refine ⟨by rw [quiet.db], by rw [quiet.db], fun organizationId => ?_⟩
  unfold maxMessages
  rw [quiet.configs]

section Own

variable {own : List (Deed Delivery AutomationWorld)} {deed : Deed Delivery AutomationWorld}

theorem foundCount_cons (deed : Deed Delivery AutomationWorld)
    (own : List (Deed Delivery AutomationWorld)) :
    foundCount ticketId (deed :: own) =
      if own.length = 2 then messageCount ticketId deed.found.db else foundCount ticketId own := by
  unfold foundCount
  rw [List.reverse_cons]
  by_cases third : own.length = 2
  · have last : (own.reverse ++ [deed])[2]? = some deed := by
      rw [← third, ← List.length_reverse, List.getElem?_concat_length]
    rw [if_pos third, last]
    rfl
  · rw [if_neg third]
    by_cases short : own.length < 2
    · have later : (own.reverse ++ [deed])[2]? = none := by
        simp only [List.getElem?_eq_none_iff, List.length_append, List.length_reverse,
          List.length_singleton]
        omega
      have before : own.reverse[2]? = none := by
        simp only [List.getElem?_eq_none_iff, List.length_reverse]
        omega
      rw [later, before]
    · have long : 2 < own.reverse.length := by
        rw [List.length_reverse]
        omega
      rw [List.getElem?_append_left long]

theorem foundCount_stays (deed : Deed Delivery AutomationWorld) {count : Nat}
    (seen : foundCount ticketId own = some count) :
    foundCount ticketId (deed :: own) = some count := by
  -- What a run has found stays what it has found.
  have long : own.length ≠ 2 := by
    intro short
    have nothing : own.reverse[2]? = none := by simp [short]
    simp [foundCount, nothing] at seen
  rw [foundCount_cons, if_neg long, seen]

theorem owes_beside (beside : Beside ticketId deed.found deed.left) :
    owes ticketId (deed :: own) = owes ticketId own := by
  have stores : ¬Stores ticketId deed := by
    unfold Stores
    rw [beside.answers]
    exact Nat.lt_irrefl _
  have counts : ¬Counts ticketId deed := fun counts => counts beside.count
  simp [owes, stores, counts]

end Own

/-- The answers are those that are counted, and one more while a run owes it. -/
structure Tally (ticketId allowed : Nat) (recorded : Recorded Delivery AutomationWorld)
    (count : Nat) : Prop where
  counted : messageCount ticketId recorded.state.db = some count
  seen : ∀ call before, foundCount ticketId (recorded.own call) = some before → before ≤ count
  answers :
    (∀ call, owes ticketId (recorded.own call) = false) ∧
        answersOn ticketId recorded.state.db = count ∨
      ∃ call, owes ticketId (recorded.own call) = true ∧
        (∀ other, owes ticketId (recorded.own other) = true → other = call) ∧
        foundCount ticketId (recorded.own call) = some count ∧
        answersOn ticketId recorded.state.db = count + 1
  within : answersOn ticketId recorded.state.db ≤ allowed

structure Tallied (ticketId organizationId allowed : Nat)
    (recorded : Recorded Delivery AutomationWorld) : Prop where
  placed : (recorded.state.db.findTicket ticketId).map (·.organizationId) = some organizationId
  limit : maxMessages recorded.state organizationId = allowed
  tally : EachDeed (InTurn ticketId) recorded.deeds → ∃ count, Tally ticketId allowed recorded count

variable {organizationId allowed : Nat} {recorded : Recorded Delivery AutomationWorld}
  {call : Delivery}

theorem Beside.placed (beside : Beside ticketId found left)
    (placed : (found.db.findTicket ticketId).map (·.organizationId) = some organizationId) :
    (left.db.findTicket ticketId).map (·.organizationId) = some organizationId := by
  have same := congrArg (Option.map Prod.fst) beside.ticket
  simp only [Option.map_map, Function.comp_def] at same
  exact same.trans placed

section Tallied

variable (tallied : Tallied ticketId organizationId allowed recorded)

include tallied

theorem Tallied.moved {after : Recorded Delivery AutomationWorld}
    (deeds : after.deeds = recorded.deeds) (beside : Beside ticketId recorded.state after.state) :
    Tallied ticketId organizationId allowed after := by
  have own (call : Delivery) : after.own call = recorded.own call := by
    simp only [Recorded.own, deeds]
  refine ⟨beside.placed tallied.placed, (beside.limits _).trans tallied.limit, fun inTurn => ?_⟩
  rw [deeds] at inTurn
  obtain ⟨count, tally⟩ := tallied.tally inTurn
  refine ⟨count, ⟨beside.count.trans tally.counted, ?_, ?_, ?_⟩⟩
  · simpa only [own] using tally.seen
  · simpa only [own, beside.answers] using tally.answers
  · rw [beside.answers]
    exact tally.within

theorem Tallied.beside (beside : Beside ticketId recorded.state left) :
    Tallied ticketId organizationId allowed (recorded.add call left) := by
  -- A step besides leaves the tally as it is.
  have owed (other : Delivery) : owes ticketId ((recorded.add call left).own other) =
      owes ticketId (recorded.own other) := by
    by_cases same : other = call
    · subst same
      rw [own_add_self]
      exact owes_beside beside
    · rw [own_add_of_ne _ _ _ _ same]
  refine ⟨beside.placed tallied.placed, (beside.limits _).trans tallied.limit, fun inTurn => ?_⟩
  obtain ⟨count, tally⟩ := tallied.tally inTurn.2
  refine ⟨count, ⟨beside.count.trans tally.counted, ?_, ?_, ?_⟩⟩
  · intro other before seen
    by_cases same : other = call
    · subst same
      rw [own_add_self, foundCount_cons] at seen
      split_ifs at seen with third
      · have now : some before = some count := seen.symm.trans tally.counted
        exact (Option.some.inj now).le
      · exact tally.seen other before seen
    · rw [own_add_of_ne _ _ _ _ same] at seen
      exact tally.seen other before seen
  · simp only [owed]
    change _ ∧ answersOn ticketId left.db = count ∨ ∃ other, _ ∧ _ ∧ _ ∧
      answersOn ticketId left.db = count + 1
    rw [beside.answers]
    rcases tally.answers with none | ⟨owing, owes_, only, seen, answers⟩
    · exact .inl none
    · refine .inr ⟨owing, owes_, only, ?_, answers⟩
      by_cases same : owing = call
      · subst same
        rw [own_add_self]
        exact foundCount_stays _ seen
      · rw [own_add_of_ne _ _ _ _ same]
        exact seen
  · change answersOn ticketId left.db ≤ allowed
    rw [beside.answers]
    exact tally.within

theorem Tallied.stored
    (answers : answersOn ticketId left.db = answersOn ticketId recorded.state.db + 1)
    (ticket : left.db.findTicket ticketId = recorded.state.db.findTicket ticketId)
    (limits : maxMessages left organizationId = maxMessages recorded.state organizationId)
    (room : ∀ count, foundCount ticketId (recorded.own call) = some count → count < allowed) :
    Tallied ticketId organizationId allowed (recorded.add call left) := by
  -- A run stores an answer, for which the count that it has found leaves room.
  have stores : Stores ticketId { call, found := recorded.state, left } := by
    unfold Stores
    rw [answers]
    exact Nat.lt_succ_self _
  refine ⟨by rw [← tallied.placed, ← ticket]; rfl, limits.trans tallied.limit, fun inTurn => ?_⟩
  obtain ⟨count, tally⟩ := tallied.tally inTurn.2
  have own : foundCount ticketId (recorded.own call) =
      some (answersOn ticketId recorded.state.db) := inTurn.1 stores
  have early := tally.seen call _ own
  -- No run owes an answer, as the one that stores it would have found fewer counted.
  have none : (∀ other, owes ticketId (recorded.own other) = false) ∧
      answersOn ticketId recorded.state.db = count := by
    rcases tally.answers with none | ⟨owing, -, -, -, more⟩
    · exact none
    · omega
  have messages : messageCount ticketId left.db = some count := by
    rw [← tally.counted, messageCount, messageCount, ticket]
  refine ⟨count, ⟨messages, ?_, .inr ⟨call, ?_, ?_, ?_, ?_⟩, ?_⟩⟩
  · intro other before seen
    by_cases same : other = call
    · subst same
      rw [own_add_self, foundCount_stays _ own] at seen
      rw [← Option.some.inj seen]
      exact early
    · rw [own_add_of_ne _ _ _ _ same] at seen
      exact tally.seen other before seen
  · rw [own_add_self]
    exact if_pos stores
  · intro other owing
    by_contra different
    rw [own_add_of_ne _ _ _ _ different, none.1 other] at owing
    cases owing
  · rw [own_add_self, foundCount_stays _ own, none.2]
  · exact answers.trans (by rw [none.2])
  · have room := room _ own
    change answersOn ticketId left.db ≤ allowed
    omega

end Tallied

def Settled (ticketId : Nat) (call : Delivery) (recorded : Recorded Delivery AutomationWorld) :
    Prop :=
  -- If the runs take turns, the run owes nothing.
  EachDeed (InTurn ticketId) recorded.deeds → owes ticketId (recorded.own call) = false

structure InDebt (ticketId : Nat) (call : Delivery) (recorded : Recorded Delivery AutomationWorld)
    (count : Nat) : Prop where
  found : foundCount ticketId (recorded.own call) = some count
  owing : owes ticketId (recorded.own call) = true

theorem Tally.paid {count seen : Nat} (tally : Tally ticketId allowed recorded count)
    (debt : InDebt ticketId call recorded seen)
    (answers : answersOn ticketId left.db = answersOn ticketId recorded.state.db)
    (messages : messageCount ticketId left.db = some (seen + 1)) :
    Tally ticketId allowed (recorded.add call left) (seen + 1) ∧
      owes ticketId ((recorded.add call left).own call) = false := by
  -- No other run has counted since the run that owes an answer looked.
  rcases tally.answers with ⟨none, -⟩ | ⟨owner, -, only, found, more⟩
  · have owing := debt.owing
    rw [none call] at owing
    cases owing
  · obtain rfl := only call debt.owing
    obtain rfl : seen = count := Option.some.inj (debt.found.symm.trans found)
    have stores : ¬Stores ticketId { call, found := recorded.state, left } := by
      unfold Stores
      rw [answers]
      exact Nat.lt_irrefl _
    have counts : Counts ticketId { call, found := recorded.state, left } := by
      intro unchanged
      have now : some (seen + 1) = some seen := messages.symm.trans (unchanged.trans tally.counted)
      exact absurd (Option.some.inj now) (Nat.succ_ne_self seen)
    have paid : owes ticketId ((recorded.add call left).own call) = false := by
      rw [own_add_self]
      simp [owes, stores, counts]
    refine ⟨⟨messages, ?_, .inl ⟨?_, answers.trans more⟩, ?_⟩, paid⟩
    · intro other before looked
      by_cases same : other = call
      · subst same
        rw [own_add_self, foundCount_stays _ debt.found] at looked
        have equal := Option.some.inj looked
        omega
      · rw [own_add_of_ne _ _ _ _ same] at looked
        exact (tally.seen other before looked).trans (Nat.le_succ _)
    · intro other
      by_cases same : other = call
      · rw [same]
        exact paid
      · rw [own_add_of_ne _ _ _ _ same]
        by_contra owed
        exact same (only other (by simpa using owed))
    · change answersOn ticketId left.db ≤ allowed
      rw [answers]
      exact tally.within

theorem Tallied.counted (tallied : Tallied ticketId organizationId allowed recorded) {seen : Nat}
    (debt : InDebt ticketId call recorded seen)
    (answers : answersOn ticketId left.db = answersOn ticketId recorded.state.db)
    (ticket : (left.db.findTicket ticketId).map (fun ticket =>
      (ticket.organizationId, ticket.aiMessageCount)) = some (organizationId, seen + 1))
    (limits : maxMessages left organizationId = maxMessages recorded.state organizationId) :
    Tallied ticketId organizationId allowed (recorded.add call left) ∧
      Settled ticketId call (recorded.add call left) := by
  -- A run that owes an answer counts it.
  have placed := congrArg (Option.map Prod.fst) ticket
  have messages := congrArg (Option.map Prod.snd) ticket
  simp only [Option.map_map, Function.comp_def, Option.map_some] at placed messages
  have after (inTurn : EachDeed (InTurn ticketId) recorded.deeds) :
      Tally ticketId allowed (recorded.add call left) (seen + 1) ∧
        owes ticketId ((recorded.add call left).own call) = false := by
    obtain ⟨count, tally⟩ := tallied.tally inTurn
    exact tally.paid debt answers messages
  exact ⟨⟨placed, limits.trans tallied.limit, fun inTurn => ⟨_, (after inTurn.2).1⟩⟩,
    fun inTurn => (after inTurn.2).2⟩

end Account

end HelpForge.Automation
