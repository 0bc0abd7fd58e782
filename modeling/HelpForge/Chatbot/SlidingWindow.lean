import HelpForge.Chatbot.RateLimiter
import Mathlib.Data.Finset.Card

set_option autoImplicit false

namespace HelpForge.Chatbot

open Lib

structure WidgetCall where
  number : Nat
  org_id : String
  client_ip : String
  -- What `time.time()` returns to the call.
  now : Rat
  deriving DecidableEq

inductive Scope where
  | org
  | ip
  deriving DecidableEq, Repr

def WidgetCall.key (call : WidgetCall) : Scope → String
  | .org => orgKey call.org_id
  | .ip => ipKey call.org_id call.client_ip

def Scope.limit : Scope → Nat
  | .org => orgLimit
  | .ip => ipOrgLimit

/-- The next pipeline of a call, or how it has ended. -/
inductive CallPhase where
  | count (call : WidgetCall) (scope : Scope)
  | record (call : WidgetCall) (scope : Scope)
  | rejected (call : WidgetCall) (scope : Scope)
  | allowed (call : WidgetCall)
  -- Let through because the cache did not answer.
  | unchecked (call : WidgetCall)
  deriving DecidableEq

namespace CallPhase

def call : CallPhase → WidgetCall
  | count call _ => call
  | record call _ => call
  | rejected call _ => call
  | allowed call => call
  | unchecked call => call

def recorded : CallPhase → Scope → Prop
  | count _ scope, other => scope = .ip ∧ other = .org
  | record _ scope, other => scope = .ip ∧ other = .org
  | rejected _ scope, other => scope = .ip ∧ other = .org
  | allowed _, _ => True
  | unchecked _, _ => False

def afterRecord (call : WidgetCall) : Scope → CallPhase
  | .org => count call .ip
  | .ip => allowed call

def advance : CallPhase → LimiterState → Option (CallPhase × LimiterState)
  | count call scope, state =>
    match trimAndCount (call.key scope) (call.now - windowSeconds) state with
    | .error _ => some (unchecked call, state)
    | .ok (current_count, trimmed) =>
      if current_count ≥ scope.limit then some (rejected call scope, trimmed)
      else some (record call scope, trimmed)
  | record call scope, state =>
    match addEntry (call.key scope) call.now state with
    | .error _ => some (unchecked call, state)
    | .ok (_, added) => some (afterRecord call scope, added)
  | rejected _ _, _ => none
  | allowed _, _ => none
  | unchecked _, _ => none

def checkIpWindow (call : WidgetCall) : LimiterCall Bool := do
  let inIp ← checkAndRecord (call.key .ip) (call.now - windowSeconds) call.now ipOrgLimit
  if !inIp then pure false else pure true

def afterScope (call : WidgetCall) (scope : Scope) (inScope : Bool) : LimiterCall Bool :=
  match scope with
  | .org => if !inScope then pure false else checkIpWindow call
  | .ip => if !inScope then pure false else pure true

def program : CallPhase → LimiterCall Bool
  | count call scope =>
    (checkAndRecord (call.key scope) (call.now - windowSeconds) call.now scope.limit >>=
      afterScope call scope).recover fun _ => pure true
  | record call scope =>
    ((do
      Program.attempt (addEntry (call.key scope) call.now)
      pure true) >>= afterScope call scope).recover fun _ => pure true
  | rejected _ _ => pure false
  | allowed _ => pure true
  | unchecked _ => pure true

theorem program_start (call : WidgetCall) :
    (count call .org).program = isAllowed true call.org_id call.client_ip call.now := rfl

theorem program_count (call : WidgetCall) (scope : Scope) :
    (count call scope).program =
      (Program.attempt (trimAndCount (call.key scope) (call.now - windowSeconds)) >>=
        fun current_count =>
          (if current_count ≥ scope.limit then pure false
            else do
              Program.attempt (addEntry (call.key scope) call.now)
              pure true) >>= afterScope call scope).recover fun _ => pure true := by
  rw [program, checkAndRecord, bind_assoc]

theorem program_record (call : WidgetCall) (scope : Scope) :
    (record call scope).program =
      (Program.attempt (addEntry (call.key scope) call.now) >>=
        fun _ => afterScope call scope true).recover fun _ => pure true := by
  rw [program, bind_assoc]
  rfl

theorem advance_program (phase : CallPhase) (state : LimiterState) :
    phase.program.advance state =
      (phase.advance state).map fun step => (step.1.program, step.2) := by
  cases phase with
  | rejected call scope => rfl
  | allowed call => rfl
  | unchecked call => rfl
  | count call scope =>
    rw [program_count, Program.advance_recover_attempt, advance]
    cases trimAndCount (call.key scope) (call.now - windowSeconds) state with
    | error failure => rfl
    | ok outcome =>
      obtain ⟨current_count, trimmed⟩ := outcome
      by_cases full : current_count ≥ scope.limit
      · simp only [full, if_true]
        cases scope <;> rfl
      · simp only [full, if_false]
        rfl
  | record call scope =>
    rw [program_record, Program.advance_recover_attempt, advance]
    cases addEntry (call.key scope) call.now state with
    | error failure => rfl
    | ok outcome => cases scope <;> rfl

end CallPhase

theorem key_ne (first second : WidgetCall) : first.key .org ≠ second.key .ip := by
  intro same
  have chars := congrArg String.toList same
  simp only [WidgetCall.key, orgKey, ipKey, String.toList_append, List.append_assoc] at chars
  have first_letter := congrArg List.head? (List.append_cancel_left chars)
  have org : ("org:".toList ++ first.org_id.toList).head? = some 'o' := rfl
  rw [org] at first_letter
  cases first_letter

theorem key_scope (first second : WidgetCall) (scope scope' : Scope)
    (same : first.key scope = second.key scope') : scope = scope' := by
  cases scope <;> cases scope'
  · rfl
  · exact absurd same (key_ne first second)
  · exact absurd same.symm (key_ne second first)
  · rfl

theorem timeMember_bounds (now : Rat) :
    now * 1000000 - 1 / 2 ≤ timeMember now ∧ (timeMember now : Rat) ≤ now * 1000000 + 1 / 2 := by
  have below : ((now * 1000000).floor : Rat) ≤ now * 1000000 := Int.floor_le _
  have above : now * 1000000 < ((now * 1000000).floor : Rat) + 1 := Int.lt_floor_add_one _
  unfold timeMember
  simp only
  split_ifs with down up even
  · constructor <;> linarith
  · push_cast
    constructor <;> linarith
  · constructor <;> linarith
  · push_cast
    constructor <;> linarith

theorem timeMember_lt (first second : Rat) (apart : first + windowSeconds ≤ second) :
    timeMember first < timeMember second := by
  have one := timeMember_bounds first
  have other := timeMember_bounds second
  unfold windowSeconds at apart
  have less : (timeMember first : Rat) < timeMember second := by linarith
  exact_mod_cast less

def limiterOutside (state reached : LimiterState) : Prop :=
  reached.sets = state.sets ∧ reached.redisUp = state.redisUp ∧ state.clock ≤ reached.clock

def limiter : Pool.System WidgetCall LimiterState CallPhase :=
  -- Any number of calls, each with the time stamp it has read.
  { advance := CallPhase.advance
    begins := fun _ call phase => phase = .count call .org
    environment := limiterOutside }

def limiterCalls : Pool.System WidgetCall LimiterState (LimiterCall Bool) :=
  Pool.ofPrograms
    (fun _ call program => program = isAllowed true call.org_id call.client_ip call.now)
    limiterOutside

theorem limiterCalls_described (state : LimiterState)
    (final : Pool WidgetCall LimiterState (LimiterCall Bool))
    (run : Pool.Run limiterCalls Pool.anyStatement (Pool.idle state) final) :
    ∃ reached, final = reached.map CallPhase.program ∧
      Pool.Run limiter Pool.anyStatement (Pool.idle state) reached := by
  have begins : ∀ seen call program, limiterCalls.begins seen call program →
      ∃ phase, limiter.begins seen call phase ∧ phase.program = program := by
    rintro seen call program rfl
    exact ⟨.count call .org, rfl, CallPhase.program_start call⟩
  exact Pool.Run.lift begins CallPhase.advance_program (fun _ _ moved => moved) run

def Recorded (pool : Pool WidgetCall LimiterState CallPhase) (call : WidgetCall)
    (scope : Scope) : Prop :=
  ∃ phase, pool.calls call = some phase ∧ phase.recorded scope

def Remembers (pool : Pool WidgetCall LimiterState CallPhase) (call : WidgetCall)
    (scope : Scope) : Prop :=
  -- The set still holds every call of the last minute that has recorded itself.
  ∀ other, Recorded pool other scope → other.key scope = call.key scope →
    call.now - windowSeconds < other.now →
    (timeMember other.now, other.now) ∈ pool.state.live (call.key scope)

/-- No call counts a key between the count and the record of another; and when a call
records itself, the set has lost no call of its window and has no entry of the same
time stamp. -/
def Orderly (pool : Pool WidgetCall LimiterState CallPhase) (_ : WidgetCall) :
    CallPhase → Prop
  | .count call scope =>
    ∀ other, pool.calls other = some (.record other scope) → other.key scope ≠ call.key scope
  | .record call scope =>
    Remembers pool call scope ∧
      ∀ entry ∈ pool.state.live (call.key scope), entry.1 ≠ timeMember call.now
  | _ => True

def InWindow (time : Rat) (calls : Finset WidgetCall) : Prop :=
  ∀ call ∈ calls, time - windowSeconds < call.now ∧ call.now ≤ time

structure Windows (pool : Pool WidgetCall LimiterState CallPhase) : Prop where
  up : pool.state.redisUp = true
  named : ∀ call phase, pool.calls call = some phase → phase.call = call
  alone : ∀ scope first second, pool.calls first = some (.record first scope) →
    pool.calls second = some (.record second scope) → first.key scope = second.key scope →
    first = second
  room : ∀ call scope, pool.calls call = some (.record call scope) →
    (pool.state.sets (call.key scope)).entries.length < scope.limit
  distinct : ∀ scope first second, Recorded pool first scope → Recorded pool second scope →
    first.key scope = second.key scope → timeMember first.now = timeMember second.now →
    first = second
  bounded : ∀ scope key time (calls : Finset WidgetCall), InWindow time calls →
    (∀ call ∈ calls, Recorded pool call scope ∧ call.key scope = key) →
    calls.card ≤ scope.limit

theorem live_length (state : LimiterState) (key : String) :
    (state.live key).length ≤ (state.sets key).entries.length := by
  unfold LimiterState.live
  split
  · exact Nat.le_refl _
  · split_ifs
    · exact Nat.zero_le _
    · exact Nat.le_refl _

variable (pool : Pool WidgetCall LimiterState CallPhase) (state : LimiterState)
  (past : List LimiterState)

theorem recorded_put (call other : WidgetCall) (next : CallPhase) (scope : Scope) :
    Recorded { state, past, calls := pool.put call next } other scope ↔
      (other = call ∧ next.recorded scope) ∨ (other ≠ call ∧ Recorded pool other scope) := by
  unfold Recorded
  constructor
  · rintro ⟨phase, found, recorded⟩
    rcases (pool.put_eq_some ..).mp found with ⟨same, rfl⟩ | ⟨differs, found⟩
    · exact .inl ⟨same, recorded⟩
    · exact .inr ⟨differs, phase, found, recorded⟩
  · rintro (⟨rfl, recorded⟩ | ⟨differs, phase, found, recorded⟩)
    · exact ⟨next, pool.put_self _ _, recorded⟩
    · exact ⟨phase, (pool.put_eq_some ..).mpr (.inr ⟨differs, found⟩), recorded⟩

theorem recorded_put_same (call other : WidgetCall) (process next : CallPhase) (scope : Scope)
    (running : pool.calls call = some process)
    (alike : next.recorded scope ↔ process.recorded scope) :
    Recorded { state, past, calls := pool.put call next } other scope ↔
      Recorded pool other scope := by
  rw [recorded_put]
  constructor
  · rintro (⟨rfl, recorded⟩ | ⟨_, recorded⟩)
    · exact ⟨process, running, alike.mp recorded⟩
    · exact recorded
  · rintro ⟨phase, found, recorded⟩
    by_cases same : other = call
    · subst same
      rw [running] at found
      cases found
      exact .inl ⟨rfl, alike.mpr recorded⟩
    · exact .inr ⟨same, phase, found, recorded⟩

theorem Windows.unrecorded (windows : Windows pool) (state : LimiterState)
    (past : List LimiterState) (call : WidgetCall) (next : CallPhase) (up : state.redisUp = true)
    (named : next.call = call)
    (shorter : ∀ key, (state.sets key).entries.length ≤ (pool.state.sets key).entries.length)
    (recorded : ∀ other scope,
      Recorded { state, past, calls := pool.put call next } other scope → Recorded pool other scope)
    (fits : ∀ scope, next = .record call scope →
      (state.sets (call.key scope)).entries.length < scope.limit ∧
        ∀ other, pool.calls other = some (.record other scope) →
          other.key scope ≠ call.key scope) :
    Windows { state, past, calls := pool.put call next } := by
  -- If a step changes neither who has recorded itself nor lengthens a set, what remains to be seen
  -- is the call that takes it.
  refine
    { up
      named := ?_
      alone := ?_
      room := ?_
      distinct := ?_
      bounded := ?_ }
  · exact pool.put_forall named windows.named
  · intro scope first second one other same
    rcases (pool.put_eq_some ..).mp one with ⟨here, starts⟩ | ⟨_, before⟩ <;>
      rcases (pool.put_eq_some ..).mp other with ⟨here', starts'⟩ | ⟨_, before'⟩
    · exact here.trans here'.symm
    · subst here
      exact absurd same.symm ((fits scope starts.symm).2 second before')
    · subst here'
      exact absurd same ((fits scope starts'.symm).2 first before)
    · exact windows.alone scope first second before before' same
  · intro other scope found
    rcases (pool.put_eq_some ..).mp found with ⟨rfl, starts⟩ | ⟨_, found⟩
    · exact (fits scope starts.symm).1
    · exact Nat.lt_of_le_of_lt (shorter _) (windows.room other scope found)
  · intro scope first second one other
    exact windows.distinct scope first second (recorded _ _ one) (recorded _ _ other)
  · intro scope key time calls inside all
    refine windows.bounded scope key time calls inside fun other member => ?_
    exact ⟨recorded _ _ (all other member).1, (all other member).2⟩

theorem trimAndCount_up (key : String) (window_start : Rat) (state : LimiterState)
    (up : state.redisUp = true) :
    ∃ trimmed : LimiterState, ∃ entries,
      trimAndCount key window_start state = .ok (entries.length, trimmed) ∧
      trimmed = state.put key { (state.sets key) with entries } ∧
      entries.length ≤ (state.sets key).entries.length := by
  refine ⟨_, (state.live key).filter fun entry => window_start < entry.2, ?_, rfl, ?_⟩
  · simp [trimAndCount, up]
  · exact Nat.le_trans (List.length_filter_le ..) (live_length state key)

theorem put_length (key other : String) (set : SortedSet)
    (shorter : set.entries.length ≤ (state.sets key).entries.length) :
    ((state.put key set).sets other).entries.length ≤ (state.sets other).entries.length := by
  unfold LimiterState.put
  by_cases same : other = key
  · subst same
    simpa using shorter
  · simp [same]

section Scope

variable (windows : Windows pool) (call : WidgetCall) (scope : Scope)

include windows

variable (next : CallPhase)

theorem Windows.count (state : LimiterState) (running : pool.calls call = some (.count call scope))
    (permitted : Orderly pool call (.count call scope))
    (advanced : (CallPhase.count call scope).advance pool.state = some (next, state)) :
    Windows { state, past := pool.seen, calls := pool.put call next } := by
  obtain ⟨trimmed, entries, counted, rfl, shorter⟩ :=
    trimAndCount_up (call.key scope) (call.now - windowSeconds) pool.state windows.up
  simp only [CallPhase.advance, counted] at advanced
  split_ifs at advanced with full
  · cases advanced
    refine windows.unrecorded pool _ _ call _ windows.up rfl
      (fun key => put_length _ _ _ _ shorter) ?_ nofun
    intro other scope'
    have alike : (CallPhase.rejected call scope).recorded scope' ↔
        (CallPhase.count call scope).recorded scope' := Iff.rfl
    exact (recorded_put_same pool _ _ call other _ _ scope' running alike).mp
  · cases advanced
    refine windows.unrecorded pool _ _ call _ windows.up rfl
      (fun key => put_length _ _ _ _ shorter) ?_ ?_
    · intro other scope'
      have alike : (CallPhase.record call scope).recorded scope' ↔
          (CallPhase.count call scope).recorded scope' := Iff.rfl
      exact (recorded_put_same pool _ _ call other _ _ scope' running alike).mp
    · rintro scope' ⟨⟩
      refine ⟨?_, permitted⟩
      simp only [LimiterState.put, Function.update_self]
      omega

theorem Windows.earlier (time : Rat) (calls : Finset WidgetCall)
    (remembers : Remembers pool call scope) (latest : call.now ≤ time)
    (inside : InWindow time calls)
    (all : ∀ other ∈ calls, Recorded pool other scope ∧ other.key scope = call.key scope) :
    calls.card ≤ (pool.state.sets (call.key scope)).entries.length := by
  -- The calls of a window that have recorded themselves are fewer than the entries of the set, as
  -- long as the set has lost none of them.
  have stored : ∀ other ∈ calls,
      (timeMember other.now, other.now) ∈ pool.state.live (call.key scope) := by
    intro other member
    obtain ⟨recorded, same⟩ := all other member
    have after := (inside other member).1
    exact remembers other recorded same (by linarith)
  have injective : Set.InjOn (fun other : WidgetCall => timeMember other.now) calls := by
    intro first member second member' same
    exact windows.distinct scope first second (all first member).1 (all second member').1
      ((all first member).2.trans (all second member').2.symm) same
  have listed : (calls.image fun other => timeMember other.now) ⊆
      ((pool.state.live (call.key scope)).map Prod.fst).toFinset := by
    intro value member
    obtain ⟨other, there, rfl⟩ := Finset.mem_image.mp member
    exact List.mem_toFinset.mpr (List.mem_map.mpr ⟨_, stored other there, rfl⟩)
  calc
    calls.card = (calls.image fun other => timeMember other.now).card :=
      (Finset.card_image_of_injOn injective).symm
    _ ≤ ((pool.state.live (call.key scope)).map Prod.fst).toFinset.card :=
      Finset.card_le_card listed
    _ ≤ ((pool.state.live (call.key scope)).map Prod.fst).length := List.toFinset_card_le _
    _ = (pool.state.live (call.key scope)).length := List.length_map _
    _ ≤ (pool.state.sets (call.key scope)).entries.length := live_length _ _

theorem Windows.record (state : LimiterState)
    (running : pool.calls call = some (.record call scope))
    (permitted : Orderly pool call (.record call scope))
    (advanced : (CallPhase.record call scope).advance pool.state = some (next, state)) :
    Windows { state, past := pool.seen, calls := pool.put call next } := by
  obtain ⟨remembers, fresh⟩ := permitted
  have added : ∃ set, addEntry (call.key scope) call.now pool.state =
      .ok ((), pool.state.put (call.key scope) set) := by
    exact ⟨_, by simp [addEntry, windows.up]; rfl⟩
  obtain ⟨set, added⟩ := added
  simp only [CallPhase.advance, added, Option.some.injEq, Prod.mk.injEq] at advanced
  obtain ⟨rfl, rfl⟩ := advanced
  -- the call itself is new in the set of this scope, and nobody else is
  have recorded : ∀ other scope',
      Recorded { state := pool.state.put (call.key scope) set, past := pool.seen,
                 calls := pool.put call (CallPhase.afterRecord call scope) } other scope' →
      (other = call ∧ scope' = scope) ∨ Recorded pool other scope' := by
    intro other scope' after
    rcases (recorded_put ..).mp after with ⟨rfl, phase⟩ | ⟨_, before⟩
    · cases scope with
      | org => exact .inl ⟨rfl, phase.2⟩
      | ip =>
        cases scope' with
        | org => exact .inr ⟨_, running, rfl, rfl⟩
        | ip => exact .inl ⟨rfl, rfl⟩
    · exact .inr before
  have elsewhere : ∀ other scope', pool.put call (CallPhase.afterRecord call scope) other =
      some (.record other scope') → other ≠ call ∧ pool.calls other = some (.record other scope') := by
    intro other scope' found
    rcases (pool.put_eq_some ..).mp found with ⟨_, next⟩ | before
    · cases scope <;> cases next
    · exact before
  have newcomer : ∀ other, Recorded pool other scope → other.key scope = call.key scope →
      timeMember other.now ≠ timeMember call.now := by
    intro other before same
    by_cases recent : call.now - windowSeconds < other.now
    · exact fresh _ (remembers other before same recent)
    · exact Int.ne_of_lt (timeMember_lt other.now call.now (by linarith))
  refine
    { up := windows.up
      named := ?_
      alone := ?_
      room := ?_
      distinct := ?_
      bounded := ?_ }
  · exact pool.put_forall (by cases scope <;> rfl) windows.named
  · intro scope' first second one other same
    exact windows.alone scope' first second (elsewhere _ _ one).2 (elsewhere _ _ other).2 same
  · intro other scope' found
    obtain ⟨differs, before⟩ := elsewhere other scope' found
    have apart : other.key scope' ≠ call.key scope := by
      intro same
      have scopes := key_scope other call scope' scope same
      subst scopes
      exact differs (windows.alone scope' other call before running same)
    simp only [LimiterState.put, Function.update_of_ne apart]
    exact windows.room other scope' before
  · intro scope' first second one other same members
    rcases recorded first scope' one with ⟨here, scopes⟩ | before <;>
      rcases recorded second scope' other with ⟨here', scopes'⟩ | before'
    · exact here.trans here'.symm
    · subst here scopes
      exact absurd members.symm (newcomer second before' same.symm)
    · subst here' scopes'
      exact absurd members (newcomer first before same)
    · exact windows.distinct scope' first second before before' same members
  · intro scope' key time calls inside all
    by_cases joins : call ∈ calls ∧ scope' = scope
    · obtain ⟨member, rfl⟩ := joins
      have keys : ∀ other ∈ calls, other.key scope' = call.key scope' := fun other there =>
        (all other there).2.trans (all call member).2.symm
      have others : (calls.erase call).card ≤
          (pool.state.sets (call.key scope')).entries.length := by
        refine windows.earlier pool call scope' time _ remembers (inside call member).2
          (fun other there => inside other (Finset.mem_of_mem_erase there)) ?_
        intro other there
        have old := recorded other scope' (all other (Finset.mem_of_mem_erase there)).1
        refine ⟨old.resolve_left fun same => Finset.ne_of_mem_erase there same.1, ?_⟩
        exact keys other (Finset.mem_of_mem_erase there)
      have room := windows.room call scope' running
      have one_more := Finset.card_erase_add_one member
      omega
    · refine windows.bounded scope' key time calls inside fun other there => ?_
      refine ⟨(recorded other scope' (all other there).1).resolve_left ?_, (all other there).2⟩
      rintro ⟨rfl, scopes⟩
      exact joins ⟨there, scopes⟩

end Scope

theorem Windows.step (reached : Pool WidgetCall LimiterState CallPhase) (windows : Windows pool)
    (stepped : Pool.Step limiter Orderly pool reached) : Windows reached := by
  cases stepped with
  | start call process unused begun =>
    cases begun
    refine windows.unrecorded pool pool.state pool.past call _ windows.up rfl
      (fun _ => Nat.le_refl _) ?_ nofun
    intro other scope recorded
    rcases (recorded_put ..).mp recorded with ⟨_, phase⟩ | ⟨_, before⟩
    · exact absurd phase.1 (by decide)
    · exact before
  | statement call process next state running permitted advanced =>
    have same := windows.named call process running
    cases process with
    | count other scope =>
      cases same
      exact windows.count pool other scope next state running permitted advanced
    | record other scope =>
      cases same
      exact windows.record pool other scope next state running permitted advanced
    | rejected other scope => cases advanced
    | allowed other => cases advanced
    | unchecked other => cases advanced
  | outside state moved =>
    obtain ⟨sets, up, _⟩ := moved
    refine
      { up := up.trans windows.up
        named := windows.named
        alone := windows.alone
        room := ?_
        distinct := windows.distinct
        bounded := windows.bounded }
    intro call scope found
    have room := windows.room call scope found
    exact sets ▸ room

/-- If the calls on a key do not overlap between count and record, and no time stamp comes
twice or is forgotten too early, each window admits at most 30 calls of an address and
200 of an organisation. -/
theorem sliding_window_limits (state : LimiterState) (up : state.redisUp = true)
    (final : Pool WidgetCall LimiterState CallPhase)
    (run : Pool.Run limiter Orderly (Pool.idle state) final) (time : Rat)
    (calls : Finset WidgetCall) (inside : InWindow time calls)
    (allowed : ∀ call ∈ calls, final.calls call = some (.allowed call)) (org_id : String)
    (organisation : ∀ call ∈ calls, call.org_id = org_id) :
    calls.card ≤ 200 ∧
      ∀ client_ip, (∀ call ∈ calls, call.client_ip = client_ip) → calls.card ≤ 30 := by
  have idle : Windows (Pool.idle state) :=
    { up
      named := nofun
      alone := nofun
      room := nofun
      distinct := fun _ _ _ ⟨_, there, _⟩ => nomatch there
      bounded := fun scope _ _ calls _ all => by
        have empty : calls = ∅ := Finset.eq_empty_of_forall_notMem fun call member => by
          obtain ⟨_, there, _⟩ := (all call member).1
          cases there
        rw [empty]
        exact Nat.zero_le _ }
  have windows : Windows final := run.invariant Windows.step idle
  have recorded : ∀ scope, ∀ call ∈ calls, Recorded final call scope := fun scope call member =>
    ⟨.allowed call, allowed call member, trivial⟩
  constructor
  · refine windows.bounded .org (orgKey org_id) time calls inside fun call member => ?_
    exact ⟨recorded .org call member, by rw [WidgetCall.key, organisation call member]⟩
  · intro client_ip address
    refine windows.bounded .ip (ipKey org_id client_ip) time calls inside fun call member => ?_
    exact ⟨recorded .ip call member, by
      rw [WidgetCall.key, organisation call member, address call member]⟩

def visit (number : Nat) : WidgetCall := { number, org_id := "org", client_ip := "ip", now := 0 }

def visits : List (Pool.Move WidgetCall LimiterState) := List.replicate 5 (.turn (visit 0))

theorem visits_described :
    let final := Pool.play Program.advance
      (fun call : WidgetCall => isAllowed true call.org_id call.client_ip call.now) visits
      (Pool.idle {})
    ∃ reached, final = reached.map CallPhase.program ∧
      Pool.Run limiter Pool.anyStatement (Pool.idle {}) reached :=
  limiterCalls_described {} _
    (Pool.play_run (fun _ _ => rfl) visits (by simp [visits]) _ (Pool.permits_any ..))

def visited : Pool WidgetCall LimiterState CallPhase :=
  Pool.play CallPhase.advance (fun call => .count call .org) visits (Pool.idle {})

theorem orderly_alone (call : WidgetCall) (phase : CallPhase)
    (running : pool.calls call = some phase) (named : phase.call = call)
    (alone : ∀ other, other ≠ call → pool.calls other = none)
    (empty : ∀ scope, phase = .record call scope → pool.state.live (call.key scope) = []) :
    Orderly pool call phase := by
  have mine : ∀ other found, pool.calls other = some found → found = phase := by
    intro other found there
    by_cases same : other = call
    · rw [same, running] at there
      exact (Option.some.inj there).symm
    · rw [alone other same] at there
      cases there
  cases phase with
  | count own scope =>
    intro other there
    cases mine other _ there
  | record own scope =>
    cases named
    refine ⟨?_, ?_⟩
    · rintro other ⟨found, there, recorded⟩
      cases mine other found there
      cases scope <;> simp [CallPhase.recorded] at recorded
    · have nothing : pool.state.live (own.key scope) = [] := empty scope rfl
      rw [nothing]
      nofun
  | rejected own scope => trivial
  | allowed own => trivial
  | unchecked own => trivial

theorem single_visit_within_limits :
    ({visit 0} : Finset WidgetCall).card ≤ 200 ∧
      ∀ client_ip, (∀ call ∈ ({visit 0} : Finset WidgetCall), call.client_ip = client_ip) →
        ({visit 0} : Finset WidgetCall).card ≤ 30 := by
  have run : Pool.Run limiter Orderly (Pool.idle {}) visited := by
    refine Pool.play_run (fun _ _ => rfl) visits (by simp [visits]) _ ?_
    have alone : ∀ pool : Pool WidgetCall LimiterState CallPhase,
        (∀ other, other ≠ visit 0 → pool.calls other = none) → ∀ other, other ≠ visit 0 →
          (Pool.turn CallPhase.advance (fun call => .count call .org) pool (visit 0)).calls other =
            none := fun pool none other differs =>
      (Pool.turn_other _ _ pool (visit 0) other differs).trans (none other differs)
    have idle : ∀ other, other ≠ visit 0 →
        (Pool.idle {} : Pool WidgetCall LimiterState CallPhase).calls other = none :=
      fun _ _ => rfl
    refine ⟨nofun, ?_, ?_, ?_, ?_, trivial⟩ <;> intro process running <;> cases running
    · exact orderly_alone _ _ _ rfl rfl (alone _ idle) nofun
    · refine orderly_alone _ _ _ rfl rfl (alone _ (alone _ idle)) ?_
      rintro scope ⟨⟩
      rfl
    · exact orderly_alone _ _ _ rfl rfl (alone _ (alone _ (alone _ idle))) nofun
    · refine orderly_alone _ _ _ rfl rfl (alone _ (alone _ (alone _ (alone _ idle)))) ?_
      rintro scope ⟨⟩
      rfl
  refine sliding_window_limits {} rfl visited run 0 {visit 0} ?_ ?_ "org" (by simp [visit])
  · simp [InWindow, visit, windowSeconds]
  · intro call member
    rw [Finset.mem_singleton.mp member]
    rfl

structure SameStamp (state : LimiterState) : Prop where
  up : state.redisUp = true
  single : ∀ scope, (state.sets ((visit 0).key scope)).entries.length ≤ 1
  members : ∀ scope, ∀ entry ∈ (state.sets ((visit 0).key scope)).entries,
    entry.1 = timeMember 0

theorem visit_key (number : Nat) (scope : Scope) : (visit number).key scope = (visit 0).key scope := by
  cases scope <;> rfl

theorem live_subset (key : String) :
    ∀ entry ∈ state.live key, entry ∈ (state.sets key).entries := by
  intro entry member
  unfold LimiterState.live at member
  split at member
  · exact member
  · split_ifs at member
    · cases member
    · exact member

theorem SameStamp.put (same : SameStamp state) (scope : Scope) (set : SortedSet)
    (single : set.entries.length ≤ 1) (members : ∀ entry ∈ set.entries, entry.1 = timeMember 0) :
    SameStamp (state.put ((visit 0).key scope) set) := by
  refine ⟨same.up, fun other => ?_, fun other => ?_⟩ <;>
    by_cases here : (visit 0).key other = (visit 0).key scope
  · rw [here]
    simpa [LimiterState.put] using single
  · simpa [LimiterState.put, here] using same.single other
  · rw [here]
    simpa [LimiterState.put] using members
  · simpa [LimiterState.put, here] using same.members other

theorem SameStamp.count (same : SameStamp state) (number : Nat) (scope : Scope) :
    ∃ reached, (CallPhase.count (visit number) scope).advance state =
      some (.record (visit number) scope, reached) ∧ SameStamp reached := by
  let entries := (state.live ((visit 0).key scope)).filter
    fun entry => (visit number).now - windowSeconds < entry.2
  have single : entries.length ≤ 1 :=
    Nat.le_trans (List.length_filter_le ..)
      (Nat.le_trans (live_length state _) (same.single scope))
  have few : ¬ entries.length ≥ scope.limit := by
    have limit : 30 ≤ scope.limit := by cases scope <;> decide
    omega
  refine ⟨state.put ((visit 0).key scope)
    { (state.sets ((visit 0).key scope)) with entries }, ?_, ?_⟩
  · simp only [CallPhase.advance, trimAndCount, same.up, visit_key number]
    exact if_neg few
  · refine same.put state scope _ single fun entry member => ?_
    exact same.members scope entry (live_subset state _ entry (List.mem_of_mem_filter member))

theorem SameStamp.record (same : SameStamp state) (number : Nat) (scope : Scope) :
    ∃ reached, (CallPhase.record (visit number) scope).advance state =
      some (CallPhase.afterRecord (visit number) scope, reached) ∧ SameStamp reached := by
  have replaced : (state.live ((visit 0).key scope)).filter
      (fun entry => entry.1 != timeMember (visit number).now) = [] := by
    rw [List.filter_eq_nil_iff]
    intro entry member
    have stamp := same.members scope entry (live_subset state _ entry member)
    simpa [visit] using stamp
  refine ⟨state.put ((visit 0).key scope)
    { entries := [(timeMember 0, 0)]
      expiresAt := some (state.clock + (windowSeconds + 1)) }, ?_, ?_⟩
  · simp only [CallPhase.advance, addEntry, same.up, visit_key number, replaced]
    rfl
  · refine same.put state scope _ (by simp) fun entry member => ?_
    rw [List.mem_singleton.mp member]

theorem statement_run (call : WidgetCall) (process next : CallPhase) (reached : LimiterState)
    (advanced : process.advance state = some (next, reached)) :
    Pool.Run limiter Pool.anyStatement { state, past, calls := pool.put call process }
      { state := reached, past := state :: past, calls := pool.put call next } := by
  rw [← pool.put_put state past call process next]
  exact .step (.statement _ call process next reached (pool.put_self _ _) trivial advanced)

theorem SameStamp.visit (same : SameStamp pool.state) (number : Nat)
    (unused : pool.calls (Chatbot.visit number) = none) :
    ∃ reached, Pool.Run limiter Pool.anyStatement pool reached ∧ SameStamp reached.state ∧
      reached.calls = pool.put (Chatbot.visit number) (.allowed (Chatbot.visit number)) := by
  obtain ⟨first, one, same⟩ := same.count pool.state number .org
  obtain ⟨second, two, same⟩ := same.record first number .org
  obtain ⟨third, three, same⟩ := same.count second number .ip
  obtain ⟨fourth, four, same⟩ := same.record third number .ip
  have begins : Pool.Run limiter Pool.anyStatement pool
      { pool with calls := pool.put (Chatbot.visit number) (.count (Chatbot.visit number) .org) } :=
    .step (.start pool _ _ unused rfl)
  have org := begins.trans (statement_run pool _ _ _ _ _ first one)
  have org' := org.trans (statement_run pool _ _ _ _ _ second two)
  have ip := org'.trans (statement_run pool _ _ _ _ _ third three)
  exact ⟨_, ip.trans (statement_run pool _ _ _ _ _ fourth four), same, rfl⟩

theorem same_stamp_unlimited (count : Nat) :
    ∃ final, Pool.Run limiter Pool.anyStatement (Pool.idle {}) final ∧
      SameStamp final.state ∧
      (∀ number < count, final.calls (visit number) = some (.allowed (visit number))) ∧
      ∀ number, count ≤ number → final.calls (visit number) = none := by
  -- With one time stamp for all, any number of calls is let through.
  induction count with
  | zero =>
    refine ⟨Pool.idle {}, .refl, ⟨rfl, fun _ => Nat.zero_le _, fun _ _ => nofun⟩, nofun, ?_⟩
    intro number _
    rfl
  | succ count ih =>
    obtain ⟨pool, run, same, before, after⟩ := ih
    obtain ⟨reached, more, same', calls⟩ := same.visit pool count (after count (Nat.le_refl _))
    have other : ∀ number, number ≠ count → visit number ≠ visit count := by
      intro number differs same
      exact differs (congrArg WidgetCall.number same)
    refine ⟨reached, run.trans more, same', ?_, ?_⟩
    · intro number small
      rw [calls]
      by_cases last : number = count
      · rw [last, Pool.put_self]
      · rw [Pool.put, Function.update_of_ne (other number last)]
        exact before number (by omega)
    · intro number large
      rw [calls, Pool.put, Function.update_of_ne (other number (by omega))]
      exact after number (by omega)

/-- 31 calls of one address at one instant. -/
theorem instant_burst_allowed :
    ∃ final, Pool.Run limiter Pool.anyStatement (Pool.idle {}) final ∧
      ∃ calls : Finset WidgetCall, InWindow 0 calls ∧ calls.card = 31 ∧
        ∀ call ∈ calls, call.org_id = "org" ∧ call.client_ip = "ip" ∧
          final.calls call = some (.allowed call) := by
  obtain ⟨final, run, _, allowed, _⟩ := same_stamp_unlimited 31
  have injective : Function.Injective visit := fun _ _ same => congrArg WidgetCall.number same
  refine ⟨final, run, (Finset.range 31).map ⟨visit, injective⟩, ?_, ?_, ?_⟩
  · intro call member
    obtain ⟨number, _, rfl⟩ := Finset.mem_map.mp member
    simp [visit, windowSeconds]
  · rw [Finset.card_map, Finset.card_range]
  · intro call member
    obtain ⟨number, small, rfl⟩ := Finset.mem_map.mp member
    exact ⟨rfl, rfl, allowed number (Finset.mem_range.mp small)⟩

end HelpForge.Chatbot
