import HelpForge.Chatbot.SlidingWindow
import HelpForge.Lib.Silent

set_option autoImplicit false

namespace HelpForge.Chatbot

open Lib
open Program (run_attempt run_bind run_recover)

namespace LimiterState

def atClock (state : LimiterState) (clock : Rat) : LimiterState := { state with clock }

/-- The entries that a call with the time stamp `now` counts. -/
def window (state : LimiterState) (key : String) (now : Rat) : List (Int × Rat) :=
  (state.live key).filter fun entry => now - windowSeconds < entry.2

def quota (state : LimiterState) (key : String) (now : Rat) : Nat :=
  (state.window key now).length

def trimmed (state : LimiterState) (key : String) (now : Rat) : LimiterState :=
  state.put key { (state.sets key) with entries := state.window key now }

def recorded (state : LimiterState) (key : String) (now : Rat) : LimiterState :=
  state.put key
    { entries := ((state.window key now).filter fun entry => entry.1 != timeMember now) ++
        [(timeMember now, now)]
      expiresAt := some (state.clock + (windowSeconds + 1)) }

end LimiterState

structure Arrival where
  org_id : String
  client_ip : String
  -- What `time.time()` returns to the call, and the clock of the cache at the call.
  now : Rat
  clock : Rat

def Arrival.org (arrival : Arrival) : String := orgKey arrival.org_id

def Arrival.ip (arrival : Arrival) : String := ipKey arrival.org_id arrival.client_ip

def visitOnce (state : LimiterState) (arrival : Arrival) : Bool × LimiterState :=
  let outcome := (isAllowed true arrival.org_id arrival.client_ip arrival.now).run
    (state.atClock arrival.clock)
  (outcome.1 == .ok true, outcome.2)

def OrganisationFull (state : LimiterState) (arrival : Arrival) : Prop :=
  orgLimit ≤ (state.atClock arrival.clock).quota arrival.org arrival.now

instance (state : LimiterState) (arrival : Arrival) : Decidable (OrganisationFull state arrival) :=
  inferInstanceAs (Decidable (_ ≤ _))

def NotBefore (arrival later : Arrival) : Prop :=
  arrival.now ≤ later.now ∧ arrival.clock ≤ later.clock

/-- No call from `arrival` on finds different entries. -/
def SameWindows (arrival : Arrival) (state other : LimiterState) : Prop :=
  state.redisUp = other.redisUp ∧
    ∀ key now clock, arrival.now ≤ now → arrival.clock ≤ clock →
      (state.atClock clock).window key now = (other.atClock clock).window key now

variable (state : LimiterState) (key : String) (now : Rat)

theorem live_trimmed : (state.trimmed key now).live key = state.window key now := by
  unfold LimiterState.trimmed LimiterState.window LimiterState.live LimiterState.put
  simp only [Function.update_self]
  cases (state.sets key).expiresAt with
  | none => rfl
  | some expiresAt =>
    by_cases gone : expiresAt < state.clock
    · simp [gone]
    · simp [gone]

theorem checkAndRecord_run (up : state.redisUp = true) (key : String) (now : Rat) (limit : Nat) :
    (checkAndRecord key (now - windowSeconds) now limit).run state =
      if limit ≤ state.quota key now then (.ok false, state.trimmed key now)
      else (.ok true, state.recorded key now) := by
  have counted : trimAndCount key (now - windowSeconds) state =
      .ok (state.quota key now, state.trimmed key now) := by
    simp only [trimAndCount, up]
    rfl
  unfold checkAndRecord
  rw [run_bind, run_attempt, counted]
  by_cases full : limit ≤ state.quota key now
  · simp [full]
  · have added : addEntry key now (state.trimmed key now) = .ok ((), state.recorded key now) := by
      have up' : (state.trimmed key now).redisUp = true := up
      simp only [addEntry, up', live_trimmed]
      simp [LimiterState.recorded, LimiterState.trimmed, LimiterState.put]
    simp only [full, if_false]
    rw [run_bind, run_attempt, added]
    rfl

theorem org_ne_ip (arrival : Arrival) : arrival.org ≠ arrival.ip :=
  key_ne ⟨0, arrival.org_id, "", 0⟩ ⟨0, arrival.org_id, arrival.client_ip, 0⟩

variable (other : String)

theorem live_put_other (set : SortedSet) (differs : other ≠ key) :
    (state.put key set).live other = state.live other := by
  simp [LimiterState.live, LimiterState.put, differs]

theorem window_recorded_other (now now' : Rat) (differs : other ≠ key) :
    (state.recorded key now).window other now' = state.window other now' := by
  unfold LimiterState.window LimiterState.recorded
  rw [live_put_other _ _ _ _ differs]

theorem isAllowed_run (up : state.redisUp = true) (arrival : Arrival) :
    (isAllowed true arrival.org_id arrival.client_ip arrival.now).run state =
      if orgLimit ≤ state.quota arrival.org arrival.now then
        (.ok false, state.trimmed arrival.org arrival.now)
      else if ipOrgLimit ≤ state.quota arrival.ip arrival.now then
        (.ok false,
          (state.recorded arrival.org arrival.now).trimmed arrival.ip arrival.now)
      else
        (.ok true,
          (state.recorded arrival.org arrival.now).recorded arrival.ip arrival.now) := by
  have org := checkAndRecord_run state up arrival.org arrival.now orgLimit
  have ip := checkAndRecord_run (state.recorded arrival.org arrival.now) up arrival.ip
    arrival.now ipOrgLimit
  have count : (state.recorded arrival.org arrival.now).quota arrival.ip arrival.now =
      state.quota arrival.ip arrival.now := by
    unfold LimiterState.quota
    rw [window_recorded_other _ _ _ _ _ (org_ne_ip arrival).symm]
  rw [count] at ip
  have shape : isAllowed true arrival.org_id arrival.client_ip arrival.now =
      (checkAndRecord arrival.org (arrival.now - windowSeconds) arrival.now orgLimit >>=
        fun inOrg => if !inOrg then pure false
          else checkAndRecord arrival.ip (arrival.now - windowSeconds) arrival.now ipOrgLimit >>=
            fun inIp => if !inIp then pure false else pure true).recover fun _ => pure true := rfl
  rw [shape, run_recover, run_bind, org]
  by_cases full : orgLimit ≤ state.quota arrival.org arrival.now
  · simp [full]
  · simp only [full, if_false, Bool.not_true, Bool.false_eq_true]
    rw [run_bind, ip]
    by_cases spent : ipOrgLimit ≤ state.quota arrival.ip arrival.now
    · simp [spent]
    · simp [spent]

theorem window_trimmed (now now' clock : Rat) (later : now ≤ now') (later' : state.clock ≤ clock) :
    ((state.trimmed key now).atClock clock).window other now' = (state.atClock clock).window other now' := by
  by_cases same : other = key
  · subst same
    unfold LimiterState.trimmed LimiterState.window LimiterState.live LimiterState.put
      LimiterState.atClock
    simp only [Function.update_self]
    have narrower : ∀ entries : List (Int × Rat),
        (entries.filter fun entry => now - windowSeconds < entry.2).filter
          (fun entry => now' - windowSeconds < entry.2) =
        entries.filter fun entry => now' - windowSeconds < entry.2 := by
      intro entries
      rw [List.filter_filter]
      refine List.filter_congr fun entry _ => ?_
      by_cases inside : now' - windowSeconds < entry.2
      · have wider : now - windowSeconds < entry.2 := by linarith
        simp [inside, wider]
      · simp [inside]
    cases (state.sets other).expiresAt with
    | none => exact narrower _
    | some expiresAt =>
      by_cases gone : expiresAt < state.clock
      · have gone' : expiresAt < clock := lt_of_lt_of_le gone later'
        simp [gone']
      · simp only [gone, if_false]
        split_ifs
        · rfl
        · exact narrower _
  · exact congrArg (List.filter _) (live_put_other (state.atClock clock) key other _ same)

theorem window_recorded (now' clock : Rat) :
    ((state.recorded key now).atClock clock).window key now' =
      if state.clock + (windowSeconds + 1) < clock then []
      else
        (((state.window key now).filter fun entry => entry.1 != timeMember now) ++
          [(timeMember now, now)]).filter fun entry => now' - windowSeconds < entry.2 := by
  unfold LimiterState.recorded
  conv_lhs => unfold LimiterState.window LimiterState.live LimiterState.put LimiterState.atClock
  simp only [Function.update_self]
  split_ifs <;> rfl

theorem quota_recorded :
    (state.recorded key now).quota key now =
      ((state.window key now).filter fun entry => entry.1 != timeMember now).length + 1 := by
  have soon : ¬ state.clock + (windowSeconds + 1) < state.clock := by
    unfold windowSeconds
    linarith
  have inside : ∀ entry ∈ ((state.window key now).filter fun entry =>
      entry.1 != timeMember now) ++ [(timeMember now, now)],
      decide (now - windowSeconds < entry.2) = true := by
    intro entry member
    rw [decide_eq_true_eq]
    rcases List.mem_append.mp member with old | new
    · simpa using (List.mem_filter.mp (List.mem_of_mem_filter old)).2
    · rw [List.mem_singleton.mp new]
      unfold windowSeconds
      linarith
  have found := window_recorded state key now now state.clock
  rw [if_neg soon, List.filter_eq_self.mpr inside] at found
  calc (state.recorded key now).quota key now
      = (((state.recorded key now).atClock state.clock).window key now).length := rfl
    _ = _ := by rw [found]; simp

theorem quota_recorded_eq_iff :
    (state.recorded key now).quota key now = state.quota key now ↔
      ((state.window key now).filter fun entry => entry.1 == timeMember now).length = 1 := by
  have parts := List.length_eq_length_filter_add (l := state.window key now)
    fun entry => entry.1 == timeMember now
  have rest : (state.window key now).filter (fun entry => !(entry.1 == timeMember now)) =
      (state.window key now).filter fun entry => entry.1 != timeMember now := rfl
  rw [rest] at parts
  rw [quota_recorded]
  unfold LimiterState.quota
  omega

theorem visitOnce_down (arrival : Arrival) (down : state.redisUp = false) :
    visitOnce state arrival = (true, state.atClock arrival.clock) := by
  have failed : ∀ key, trimAndCount key (arrival.now - windowSeconds)
      (state.atClock arrival.clock) = .error .redisError := fun key => by
    simp [trimAndCount, LimiterState.atClock, down]
  unfold visitOnce isAllowed checkAndRecord
  simp only [Bool.not_true, Bool.false_eq_true, if_false]
  simp [run_recover, run_bind, run_attempt, failed]

theorem visitOnce_up (up : state.redisUp = true) (arrival : Arrival) :
    visitOnce state arrival =
      let found := state.atClock arrival.clock
      let charged := found.recorded arrival.org arrival.now
      if orgLimit ≤ found.quota arrival.org arrival.now then
        (false, found.trimmed arrival.org arrival.now)
      else if ipOrgLimit ≤ found.quota arrival.ip arrival.now then
        (false, charged.trimmed arrival.ip arrival.now)
      else (true, charged.recorded arrival.ip arrival.now) := by
  unfold visitOnce
  rw [isAllowed_run (state.atClock arrival.clock) up arrival]
  by_cases full : orgLimit ≤ (state.atClock arrival.clock).quota arrival.org arrival.now
  · simp [full]
  · by_cases spent : ipOrgLimit ≤ (state.atClock arrival.clock).quota arrival.ip arrival.now
    · simp [full, spent]
    · simp [full, spent]

variable {arrival : Arrival}

theorem SameWindows.symm {state other : LimiterState} (same : SameWindows arrival state other) :
    SameWindows arrival other state :=
  ⟨same.1.symm, fun key now clock later later' => (same.2 key now clock later later').symm⟩

theorem SameWindows.trans {state other third : LimiterState}
    (same : SameWindows arrival state other) (same' : SameWindows arrival other third) :
    SameWindows arrival state third :=
  ⟨same.1.trans same'.1, fun key now clock later later' =>
    (same.2 key now clock later later').trans (same'.2 key now clock later later')⟩

theorem SameWindows.quota {state other : LimiterState} (same : SameWindows arrival state other)
    (key : String) :
    (state.atClock arrival.clock).quota key arrival.now =
      (other.atClock arrival.clock).quota key arrival.now :=
  congrArg List.length (same.2 key _ _ (le_refl _) (le_refl _))

theorem sameWindows_trimmed (state : LimiterState) (arrival : Arrival) (key : String)
    (here : state.clock = arrival.clock) :
    SameWindows arrival (state.trimmed key arrival.now) state :=
  ⟨rfl, fun other now clock later later' =>
    window_trimmed state key other arrival.now now clock later (here ▸ later')⟩

theorem SameWindows.recorded {state other : LimiterState} (same : SameWindows arrival state other)
    (here : state.clock = arrival.clock) (here' : other.clock = arrival.clock) (key : String) :
    SameWindows arrival (state.recorded key arrival.now) (other.recorded key arrival.now) := by
  refine ⟨same.1, fun found now clock later later' => ?_⟩
  by_cases mine : found = key
  · subst mine
    have earlier := same.2 found arrival.now arrival.clock (le_refl _) (le_refl _)
    have state_ : state.atClock arrival.clock = state := by rw [← here]; rfl
    have other_ : other.atClock arrival.clock = other := by rw [← here']; rfl
    rw [state_, other_] at earlier
    rw [window_recorded, window_recorded, here, here', earlier]
  · have kept := same.2 found now clock later later'
    have first : ((state.recorded key arrival.now).atClock clock).window found now =
        (state.atClock clock).window found now :=
      congrArg (List.filter _) (live_put_other (state.atClock clock) key found _ mine)
    have second : ((other.recorded key arrival.now).atClock clock).window found now =
        (other.atClock clock).window found now :=
      congrArg (List.filter _) (live_put_other (other.atClock clock) key found _ mine)
    rw [first, second, kept]

theorem sameWindows_visitOnce (arrival : Arrival) (state other : LimiterState)
    (same : SameWindows arrival state other) :
    (visitOnce state arrival).1 = (visitOnce other arrival).1 ∧
      SameWindows arrival (visitOnce state arrival).2 (visitOnce other arrival).2 := by
  cases up : state.redisUp with
  | false =>
    rw [visitOnce_down state arrival up, visitOnce_down other arrival (same.1 ▸ up)]
    exact ⟨rfl, same⟩
  | true =>
    rw [visitOnce_up state up, visitOnce_up other (same.1 ▸ up)]
    have found : SameWindows arrival (state.atClock arrival.clock) (other.atClock arrival.clock) :=
      same
    have charged := found.recorded rfl rfl arrival.org
    simp only [same.quota]
    split_ifs with full spent
    · have first := sameWindows_trimmed (state.atClock arrival.clock) arrival arrival.org rfl
      have second := sameWindows_trimmed (other.atClock arrival.clock) arrival arrival.org rfl
      exact ⟨rfl, (first.trans found).trans second.symm⟩
    · have first := sameWindows_trimmed ((state.atClock arrival.clock).recorded arrival.org
        arrival.now) arrival arrival.ip rfl
      have second := sameWindows_trimmed ((other.atClock arrival.clock).recorded arrival.org
        arrival.now) arrival arrival.ip rfl
      exact ⟨rfl, (first.trans charged).trans second.symm⟩
    · exact ⟨rfl, charged.recorded rfl rfl arrival.ip⟩

theorem full_organisation_unseen :
    Unseen visitOnce NotBefore OrganisationFull SameWindows where
  refl arrival state := ⟨rfl, fun _ _ _ _ _ => rfl⟩
  trans arrival state other third same same' := same.trans same'
  later arrival next state other after same :=
    ⟨same.1, fun key now clock later later' =>
      same.2 key now clock (le_trans after.1 later) (le_trans after.2 later')⟩
  answered arrival state other same := (sameWindows_visitOnce arrival state other same).1
  keeps arrival state other same := (sameWindows_visitOnce arrival state other same).2
  passes := by
    intro arrival state full
    cases up : state.redisUp with
    | false =>
      rw [visitOnce_down state arrival up]
      exact ⟨rfl, fun _ _ _ _ _ => rfl⟩
    | true =>
      rw [visitOnce_up state up]
      unfold OrganisationFull at full
      simp only [full, if_true]
      have trimmed := sameWindows_trimmed (state.atClock arrival.clock) arrival arrival.org rfl
      exact trimmed.trans ⟨rfl, fun _ _ _ _ _ => rfl⟩

theorem quota_trimmed (other : String) (now : Rat) :
    (state.trimmed key now).quota other now = state.quota other now :=
  congrArg List.length (window_trimmed state key other now now state.clock (le_refl _) (le_refl _))

theorem rejected_quota_iff (up : state.redisUp = true) (arrival : Arrival)
    (rejected : (visitOnce state arrival).1 = false) :
    ((visitOnce state arrival).2.quota arrival.org arrival.now =
          (state.atClock arrival.clock).quota arrival.org arrival.now ∧
        (visitOnce state arrival).2.quota arrival.ip arrival.now =
          (state.atClock arrival.clock).quota arrival.ip arrival.now) ↔
      (OrganisationFull state arrival ∨
        (((state.atClock arrival.clock).window arrival.org arrival.now).filter fun entry =>
          entry.1 == timeMember arrival.now).length = 1) := by
  rw [visitOnce_up state up arrival] at rejected ⊢
  unfold OrganisationFull
  simp only at rejected ⊢
  by_cases full : orgLimit ≤ (state.atClock arrival.clock).quota arrival.org arrival.now
  · simp only [full, if_true, true_or, iff_true]
    exact ⟨quota_trimmed .., quota_trimmed ..⟩
  · by_cases spent : ipOrgLimit ≤ (state.atClock arrival.clock).quota arrival.ip arrival.now
    · simp only [full, if_false, spent, if_true, false_or, quota_trimmed]
      have untouched : ((state.atClock arrival.clock).recorded arrival.org arrival.now).quota
          arrival.ip arrival.now = (state.atClock arrival.clock).quota arrival.ip arrival.now :=
        congrArg List.length (window_recorded_other _ _ _ _ _ (org_ne_ip arrival).symm)
      simp only [untouched, and_true]
      exact quota_recorded_eq_iff _ _ _
    · simp [full, spent] at rejected

/-- A rejected call costs no quota exactly where the organisation's window is full, or has
one entry of the call's time stamp, which the call's own then replaces. Calls rejected at
a full window of the organisation can be left out without a change of the other answers. -/
theorem rejections_cost_nothing_iff (state : LimiterState) (up : state.redisUp = true) :
    (∀ arrival, (visitOnce state arrival).1 = false →
      (((visitOnce state arrival).2.quota arrival.org arrival.now =
            (state.atClock arrival.clock).quota arrival.org arrival.now ∧
          (visitOnce state arrival).2.quota arrival.ip arrival.now =
            (state.atClock arrival.clock).quota arrival.ip arrival.now) ↔
        (OrganisationFull state arrival ∨
          (((state.atClock arrival.clock).window arrival.org arrival.now).filter fun entry =>
            entry.1 == timeMember arrival.now).length = 1))) ∧
      ∀ arrivals : List (Arrival × Bool), (arrivals.map Prod.fst).Pairwise NotBefore →
        Marked visitOnce (fun found arrival =>
          (visitOnce found arrival).1 = false ∧ OrganisationFull found arrival) state arrivals →
        answersOthers visitOnce state arrivals =
          answers visitOnce state ((arrivals.filter fun arrival => !arrival.2).map Prod.fst) := by
  refine ⟨fun arrival rejected => rejected_quota_iff state up arrival rejected, ?_⟩
  intro arrivals ordered marks
  refine full_organisation_unseen.without arrivals state ordered ?_
  exact marks.mono fun found arrival both => both.2

def stampOf (millis : Nat) : Int × Rat := (1000 * millis, millis / 1000)

/-- What an address leaves that has called `calls` times, with a millisecond between. -/
def floodedState (calls : Nat) : LimiterState where
  sets := fun key =>
    if key = orgKey "acme" then
      { entries := (List.range calls).map fun count => stampOf (50000 + count) }
    else if key = ipKey "acme" "203.0.113.7" then
      { entries := (List.range 30).map fun count => stampOf (50000 + count) }
    else {}

def knock (client_ip : String) (millis : Nat) : Arrival :=
  { org_id := "acme", client_ip, now := millis / 1000, clock := millis / 1000 }

theorem knocks_ordered : ((([(knock "203.0.113.7" 60000, true),
    (knock "198.51.100.4" 60001, false)] : List (Arrival × Bool)).map Prod.fst).Pairwise
      NotBefore) := by
  refine List.Pairwise.cons ?_ (List.pairwise_singleton ..)
  intro later member
  rw [List.mem_singleton.mp member]
  constructor <;> decide +kernel

/-- One call later both are rejected, and the first costs the second nothing. -/
theorem full_organisation_costs_nothing :
    ((visitOnce (floodedState 200) (knock "203.0.113.7" 60000)).2.quota
          (knock "203.0.113.7" 60000).org (knock "203.0.113.7" 60000).now =
        ((floodedState 200).atClock (knock "203.0.113.7" 60000).clock).quota
          (knock "203.0.113.7" 60000).org (knock "203.0.113.7" 60000).now) ∧
      answersOthers visitOnce (floodedState 200)
          [(knock "203.0.113.7" 60000, true), (knock "198.51.100.4" 60001, false)] =
        answers visitOnce (floodedState 200) [knock "198.51.100.4" 60001] := by
  have rejected : (visitOnce (floodedState 200) (knock "203.0.113.7" 60000)).1 = false := by
    decide +kernel
  have full : OrganisationFull (floodedState 200) (knock "203.0.113.7" 60000) := by
    decide +kernel
  have costs := rejections_cost_nothing_iff (floodedState 200) rfl
  exact ⟨((costs.1 _ rejected).mpr (.inl full)).1,
    costs.2 _ knocks_ordered ⟨fun _ => ⟨rejected, full⟩, nofun, trivial⟩⟩

/-- After 199 calls the next one is rejected at its address, and locks another address out. -/
theorem rejected_call_locks_out :
    (¬ ∀ (state : LimiterState) (arrival : Arrival), state.redisUp = true →
        (visitOnce state arrival).1 = false →
          (visitOnce state arrival).2.quota arrival.org arrival.now =
            (state.atClock arrival.clock).quota arrival.org arrival.now) ∧
      ¬ ∀ (state : LimiterState) (arrivals : List (Arrival × Bool)), state.redisUp = true →
        (arrivals.map Prod.fst).Pairwise NotBefore →
        Marked visitOnce (fun found arrival => (visitOnce found arrival).1 = false) state arrivals →
        answersOthers visitOnce state arrivals =
          answers visitOnce state ((arrivals.filter fun arrival => !arrival.2).map Prod.fst) := by
  constructor
  · intro unchanged
    have same := unchanged (floodedState 199) (knock "203.0.113.7" 60000) rfl (by decide +kernel)
    exact absurd same (by decide +kernel)
  · intro unseen
    have same := unseen (floodedState 199)
      [(knock "203.0.113.7" 60000, true), (knock "198.51.100.4" 60001, false)] rfl
      knocks_ordered ⟨fun _ => by decide +kernel, nofun, trivial⟩
    exact absurd same (by decide +kernel)

end HelpForge.Chatbot
