import HelpForge.Chatbot.InternalAuth
import HelpForge.Lib.History
import Mathlib.Data.Rat.Floor
import Mathlib.Tactic.Linarith

set_option autoImplicit false

namespace HelpForge.Chatbot

open Lib

structure SortedSet where
  entries : List (Int × Rat) := []
  expiresAt : Option Rat := none

structure LimiterState where
  clock : Rat := 0
  sets : String → SortedSet := fun _ => {}
  redisUp : Bool := true

abbrev LimiterCall (α : Type) := Program LimiterState Exception α

def windowSeconds : Rat := 60
def ipOrgLimit : Nat := 30
def orgLimit : Nat := 200

/-- `f"{now:.6f}"`: to the nearest millionth, a tie to the even one. -/
def timeMember (now : Rat) : Int :=
  let scaled := now * 1000000
  let rest := scaled - scaled.floor
  if rest < 1 / 2 then scaled.floor
  else if 1 / 2 < rest then scaled.floor + 1
  else if scaled.floor % 2 = 0 then scaled.floor
  else scaled.floor + 1

def LimiterState.live (state : LimiterState) (key : String) : List (Int × Rat) :=
  match (state.sets key).expiresAt with
  | none => (state.sets key).entries
  | some expiresAt => if expiresAt < state.clock then [] else (state.sets key).entries

def LimiterState.put (state : LimiterState) (key : String) (set : SortedSet) : LimiterState :=
  { state with sets := Function.update state.sets key set }

/-- `ZREMRANGEBYSCORE key -inf window_start`, then `ZCARD key`. -/
def trimAndCount (key : String) (window_start : Rat) (state : LimiterState) :
    Except Exception (Nat × LimiterState) :=
  if !state.redisUp then .error .redisError
  else
    let entries := (state.live key).filter fun entry => window_start < entry.2
    .ok (entries.length, state.put key { (state.sets key) with entries })

/-- `ZADD key {member: now}`, then `EXPIRE key 61`. -/
def addEntry (key : String) (now : Rat) (state : LimiterState) :
    Except Exception (Unit × LimiterState) :=
  if !state.redisUp then .error .redisError
  else
    let others := (state.live key).filter fun entry => entry.1 != timeMember now
    .ok ((), state.put key
      { entries := others ++ [(timeMember now, now)]
        expiresAt := some (state.clock + (windowSeconds + 1)) })

def checkAndRecord (key : String) (window_start now : Rat) (limit : Nat) : LimiterCall Bool := do
  let current_count ← Program.attempt (trimAndCount key window_start)
  if current_count ≥ limit then pure false
  else do
    Program.attempt (addEntry key now)
    pure true

def orgKey (org_id : String) : String := "widget:rl:" ++ "org:" ++ org_id

def ipKey (org_id client_ip : String) : String :=
  let safe_ip := String.ofList (client_ip.toList.map fun char => if char = ':' then '_' else char)
  "widget:rl:" ++ "ip:" ++ org_id ++ ":" ++ safe_ip

/-- `is_allowed`; `now` is what `time.time()` returns. -/
def isAllowed (connected : Bool) (org_id client_ip : String) (now : Rat) : LimiterCall Bool :=
  if !connected then pure true
  else
    let window_start := now - windowSeconds
    (do
      let inOrg ← checkAndRecord (orgKey org_id) window_start now orgLimit
      if !inOrg then pure false
      else do
        let inIp ← checkAndRecord (ipKey org_id client_ip) window_start now ipOrgLimit
        if !inIp then pure false else pure true).recover fun _ => pure true

end HelpForge.Chatbot
