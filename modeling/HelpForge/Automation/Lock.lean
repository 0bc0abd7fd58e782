import HelpForge.Automation.OneAnswer
import HelpForge.Lib.Lease

set_option autoImplicit false

namespace HelpForge.Automation

open Lib Tickets

/-- `processingLockTtlMs`. -/
structure LockTime where
  ms : Nat := 300 * 1000
  lasts : 0 < ms := by decide

def commentLock (time : LockTime) (commentId : Nat) : Lease AutomationWorld where
  there state := state.processing commentId
  now state := state.now
  ttl := time.ms
  lasts := time.lasts

def LocksExpire (time : LockTime) (before after : Recorded Delivery AutomationWorld) : Prop :=
  -- Time passes and entries expire, whatever else happens outside of the runs.
  ∀ commentId, (commentLock time commentId).Passes before after

/-- The runs of `handleCommentAdded` under locks that expire. -/
def lockedRuns (setup : Setup) (time : LockTime) :
    Pool.System Delivery (Recorded Delivery AutomationWorld)
      (Program (Recorded Delivery AutomationWorld) ServiceError Unit) :=
  Pool.recordingWith (fun call => handleCommentAdded setup call.1) (LocksExpire time)

theorem handleCommentAdded_steady (setup : Setup) (payload : CommentPayload) :
    (handleCommentAdded setup payload).Each fun change state => (change state).now = state.now :=
  handleCommentAdded_each setup payload fun _ _ _ =>
    { quiet := fun _ _ quiet => quiet.now
      locks := fun _ _ => rfl
      answers := fun _ _ _ _ => rfl
      updates := fun _ _ _ _ => rfl }

/-- Runs delete only the entries that they have created, and nobody takes a lock while a run holds
it, if and only if no run deletes an entry longer after it has taken the lock than entries last. -/
theorem lock_kept_iff (setup : Setup) (time : LockTime) (start : AutomationWorld)
    (pool : Pool Delivery (Recorded Delivery AutomationWorld)
      (Program (Recorded Delivery AutomationWorld) ServiceError Unit))
    (run : Pool.Run (lockedRuns setup time) Pool.anyStatement
      (Pool.idle { state := { start with processing := fun _ => false } }) pool) (commentId : Nat) :
    let lock := commentLock time commentId
    EachDeed lock.DeletesOwn pool.state.deeds ∧
        (∀ holder, EachDeed (lock.Respects holder) pool.state.deeds) ↔
      EachDeed lock.InTime pool.state.deeds := by
  intro lock
  have steady (call : Delivery) : (handleCommentAdded setup call.1).Each
      fun change state => lock.now (change state) = lock.now state :=
    handleCommentAdded_steady setup call.1
  have passes (before after : Recorded Delivery AutomationWorld)
      (moved : LocksExpire time before after) : lock.Passes before after :=
    moved commentId
  exact lock.deletes_own_iff steady passes rfl run

def passing (time : LockTime) (ms : Nat) (recorded : Recorded Delivery AutomationWorld) :
    Recorded Delivery AutomationWorld :=
  -- The time passes, and the entries with it.
  { recorded with
    state :=
      { recorded.state with
        now := recorded.state.now + ms
        processing := fun commentId =>
          recorded.state.processing commentId &&
            ((commentLock time commentId).entry recorded.deeds).any fun entry =>
              decide (recorded.state.now + ms < entry.2 + time.ms) } }

def switchedOff : AutomationWorld :=
  -- A comment on a ticket that the automation is switched off for.
  { waiting with db := { waiting.db with tickets := [{ brokenPrinter with aiActive := false }] } }

def releasedAfter (ms : Nat) : List DeliveryMove :=
  -- The first run takes the lock, and releases it after some time, in which a second one comes. A
  -- third one comes after that.
  turns 0 4 ++ [.outside (passing {} ms)] ++ turns 1 3 ++ turns 0 3 ++ turns 2 3

def released (ms : Nat) : Pool Delivery (Recorded Delivery AutomationWorld)
    (Program (Recorded Delivery AutomationWorld) ServiceError Unit) :=
  Pool.play Program.advance (fun call => (handleCommentAdded plainTexts call.1).recorded call)
    (releasedAfter ms) (Pool.idle { state := switchedOff })

theorem released_run (ms : Nat) :
    Pool.Run (lockedRuns plainTexts {}) Pool.anyStatement (Pool.idle { state := switchedOff })
      (released ms) := by
  refine Pool.play_runs _ (fun call _ seen => rfl) ?_ _ (Pool.permits_any ..)
  intro change member recorded
  simp only [releasedAfter, turns, List.mem_append, List.mem_replicate, List.mem_singleton,
    reduceCtorEq, and_false, false_or, or_false, Pool.Move.outside.injEq] at member
  subst member
  exact fun commentId => ⟨rfl, Nat.le_add_right .., rfl⟩

/-- In time the second run does not get the lock, and the third one does. -/
theorem timely_release_kept :
    EachDeed (commentLock {} 20).DeletesOwn (released 1000).state.deeds ∧
      ∀ holder, EachDeed ((commentLock {} 20).Respects holder) (released 1000).state.deeds :=
  (lock_kept_iff plainTexts {} switchedOff _ (released_run 1000) 20).mpr (by decide +kernel)

/-- Once the entry has expired the second run gets the lock. Its entry is deleted, so that the third
one gets the lock as well. -/
theorem late_release_deletes_other :
    Pool.Run (lockedRuns plainTexts {}) Pool.anyStatement (Pool.idle { state := switchedOff })
        (released 300000) ∧
      ¬EachDeed (commentLock {} 20).DeletesOwn (released 300000).state.deeds ∧
      ¬EachDeed ((commentLock {} 20).Respects (delivery 1)) (released 300000).state.deeds :=
  ⟨released_run 300000, by decide +kernel, by decide +kernel⟩

end HelpForge.Automation
