import HelpForge.Automation.Decision
import Mathlib.Tactic.Linarith
import Mathlib.Tactic.Ring

set_option autoImplicit false

namespace HelpForge.Automation

open Lib Tickets

def lengthFactor (responseLength : Nat) : Rat :=
  if 100 < responseLength && responseLength < 500 then 15 / 100
  else if 500 < responseLength then 5 / 100
  else 0

def priorityFactor : Priority → Rat
  | .low => 10 / 100
  | .urgent => -20 / 100
  | .high => -10 / 100
  | .medium => 0

def ageFactor (ticketAge : Int) : Rat :=
  if ticketAge ≠ 0 && ticketAge < 3600000 then 10 / 100
  else if 86400000 < ticketAge then -10 / 100
  else 0

def commentsFactor (commentCount : Nat) : Rat :=
  if 5 < commentCount then 5 / 100
  else if commentCount = 1 then 8 / 100
  else 0

def flagFactor (flag : Bool) (holds fails : Rat) : Rat := if flag then holds else fails

def otherFactors (context : ConfidenceContext) : Rat :=
  -- All but the length of the response.
  50 / 100 + flagFactor context.hasProblematicKeywords (-20 / 100) 0 +
    flagFactor context.isFollowUp (-10 / 100) (5 / 100) + priorityFactor context.ticketPriority +
    ageFactor context.ticketAge + commentsFactor context.commentCount +
    flagFactor context.hasAttachments (-5 / 100) (3 / 100) +
    flagFactor (200 < context.descriptionLength) (8 / 100) 0

def clamp (score : Rat) : Rat := max 0 (min 1 score)

theorem clamp_mono (low high : Rat) (le : low ≤ high) : clamp low ≤ clamp high :=
  max_le_max le_rfl (min_le_min le_rfl le)

theorem clamp_le_iff (low high : Rat) (rises : low < high) (below : low < 1) :
    clamp high ≤ clamp low ↔ high ≤ 0 := by
  unfold clamp
  constructor
  · intro le
    by_contra positive
    have above : low < min 1 high := lt_min below rises
    have less : max 0 (min 1 low) < max 0 (min 1 high) := by
      rw [min_eq_right below.le, max_eq_right (le_min zero_le_one (not_le.mp positive).le)]
      exact max_lt (lt_min one_pos (not_le.mp positive)) above
    exact absurd le (not_le.mpr less)
  · intro negative
    have bottom : max 0 (min 1 high) = 0 := max_eq_left ((min_le_right ..).trans negative)
    rw [bottom]
    exact le_max_left ..

theorem confidenceScore_factors (context : ConfidenceContext) :
    confidenceScore context = clamp (otherFactors context + lengthFactor context.responseLength) := by
  have listed : confidenceScore context =
      clamp (50 / 100 + lengthFactor context.responseLength +
        flagFactor context.hasProblematicKeywords (-20 / 100) 0 +
        flagFactor context.isFollowUp (-10 / 100) (5 / 100) +
        priorityFactor context.ticketPriority + ageFactor context.ticketAge +
        commentsFactor context.commentCount +
        flagFactor context.hasAttachments (-5 / 100) (3 / 100) +
        flagFactor (200 < context.descriptionLength) (8 / 100) 0) := by
    simp only [confidenceScore, clamp, lengthFactor, flagFactor, ageFactor, commentsFactor,
      decide_eq_true_eq]
    rfl
  rw [listed]
  unfold otherFactors
  congr 1
  ring

section Bounds

theorem lengthFactor_long (shorter longer : Nat) (long : 100 < shorter) (grows : shorter < longer)
    (passed : ¬(shorter = 500 ∧ 500 < longer)) : lengthFactor longer ≤ lengthFactor shorter := by
  unfold lengthFactor
  simp only [Bool.and_eq_true, decide_eq_true_eq]
  split_ifs <;> first | omega | norm_num

theorem priorityFactor_bounds (priority : Priority) :
    -20 / 100 ≤ priorityFactor priority ∧ priorityFactor priority ≤ 10 / 100 := by
  cases priority <;> norm_num [priorityFactor]

theorem ageFactor_bounds (age : Int) : -10 / 100 ≤ ageFactor age ∧ ageFactor age ≤ 10 / 100 := by
  unfold ageFactor
  split_ifs <;> norm_num

theorem commentsFactor_bounds (count : Nat) :
    0 ≤ commentsFactor count ∧ commentsFactor count ≤ 8 / 100 := by
  unfold commentsFactor
  split_ifs <;> norm_num

theorem flagFactor_bounds (flag : Bool) (low high holds fails : Rat)
    (above : low ≤ holds ∧ low ≤ fails := by norm_num)
    (below : holds ≤ high ∧ fails ≤ high := by norm_num) :
    low ≤ flagFactor flag holds fails ∧ flagFactor flag holds fails ≤ high := by
  cases flag
  · exact ⟨above.2, below.2⟩
  · exact ⟨above.1, below.1⟩

end Bounds

def riskOf : Priority → Nat
  | .low => 0
  | .medium => 1
  | .high => 2
  | .urgent => 3

/-- One circumstance gets riskier, and the others stay. -/
inductive Riskier : ConfidenceContext → ConfidenceContext → Prop
  | keywords (context : ConfidenceContext) (before : context.hasProblematicKeywords = false) :
    Riskier context { context with hasProblematicKeywords := true }
  | followUp (context : ConfidenceContext) (before : context.isFollowUp = false) :
    Riskier context { context with isFollowUp := true }
  | attachments (context : ConfidenceContext) (before : context.hasAttachments = false) :
    Riskier context { context with hasAttachments := true }
  | priority (context : ConfidenceContext) (priority : Priority)
    (moves : riskOf context.ticketPriority < riskOf priority) :
    Riskier context { context with ticketPriority := priority }
  | length (context : ConfidenceContext) (longer : Nat) (long : 100 < context.responseLength)
    (grows : context.responseLength < longer) :
    Riskier context { context with responseLength := longer }

def mitigations (context : ConfidenceContext) : Nat :=
  -- How many circumstances speak for a pressing ticket that is no longer fresh.
  [context.ticketPriority == .high, context.ticketAge ≤ 86400000, !context.hasAttachments,
    5 < context.commentCount || context.commentCount == 1,
    200 < context.descriptionLength].count true

/-- An unsure and late response to a pressing ticket that is no longer fresh, with one circumstance
at most that speaks for it: no length leaves any confidence. -/
structure Hopeless (context : ConfidenceContext) : Prop where
  keywords : context.hasProblematicKeywords = true
  followUp : context.isFollowUp = true
  pressing : context.ticketPriority = .high ∨ context.ticketPriority = .urgent
  stale : context.ticketAge = 0 ∨ 3600000 ≤ context.ticketAge
  mitigated : mitigations context ≤ 1

section Hopeless

variable (context : ConfidenceContext)

structure Bounded : Prop where
  keywords : -20 / 100 ≤ flagFactor context.hasProblematicKeywords (-20 / 100) 0 ∧
    flagFactor context.hasProblematicKeywords (-20 / 100) 0 ≤ 0
  followUp : -10 / 100 ≤ flagFactor context.isFollowUp (-10 / 100) (5 / 100) ∧
    flagFactor context.isFollowUp (-10 / 100) (5 / 100) ≤ 5 / 100
  priority : -20 / 100 ≤ priorityFactor context.ticketPriority ∧
    priorityFactor context.ticketPriority ≤ 10 / 100
  age : -10 / 100 ≤ ageFactor context.ticketAge ∧ ageFactor context.ticketAge ≤ 10 / 100
  comments : 0 ≤ commentsFactor context.commentCount ∧
    commentsFactor context.commentCount ≤ 8 / 100
  attachments : -5 / 100 ≤ flagFactor context.hasAttachments (-5 / 100) (3 / 100) ∧
    flagFactor context.hasAttachments (-5 / 100) (3 / 100) ≤ 3 / 100
  description : 0 ≤ flagFactor (200 < context.descriptionLength) (8 / 100) 0 ∧
    flagFactor (200 < context.descriptionLength) (8 / 100) 0 ≤ 8 / 100

theorem bounded : Bounded context where
  keywords := flagFactor_bounds _ _ _ _ _
  followUp := flagFactor_bounds _ _ _ _ _
  priority := priorityFactor_bounds _
  age := ageFactor_bounds _
  comments := commentsFactor_bounds _
  attachments := flagFactor_bounds _ _ _ _ _
  description := flagFactor_bounds _ _ _ _ _

theorem otherFactors_lt_one : otherFactors context < 1 := by
  obtain ⟨keywords, followUp, priority, age, comments, attachments, description⟩ := bounded context
  unfold otherFactors
  linarith

theorem pressing_of_floored (floored : otherFactors context + 5 / 100 ≤ 0) :
    context.hasProblematicKeywords = true ∧ context.isFollowUp = true ∧
      (context.ticketPriority = .high ∨ context.ticketPriority = .urgent) ∧
      (context.ticketAge = 0 ∨ 3600000 ≤ context.ticketAge) := by
  -- Without one of these four, the other factors leave some confidence.
  obtain ⟨keywords, followUp, priority, age, comments, attachments, description⟩ := bounded context
  unfold otherFactors at floored
  refine ⟨?_, ?_, ?_, ?_⟩
  · by_contra sure
    have nothing : flagFactor context.hasProblematicKeywords (-20 / 100) 0 = 0 := if_neg sure
    linarith
  · by_contra first
    have early : flagFactor context.isFollowUp (-10 / 100) (5 / 100) = 5 / 100 := if_neg first
    linarith
  · cases given : context.ticketPriority with
    | low =>
      have calm : priorityFactor context.ticketPriority = 10 / 100 := by rw [given]; rfl
      linarith
    | medium =>
      have calm : priorityFactor context.ticketPriority = 0 := by rw [given]; rfl
      linarith
    | high => simp
    | urgent => simp
  · by_contra fresh
    have recent : ageFactor context.ticketAge = 10 / 100 := by
      have bounds : context.ticketAge ≠ 0 ∧ context.ticketAge < 3600000 := by omega
      simp [ageFactor, bounds]
    linarith

theorem floored_iff : otherFactors context + 5 / 100 ≤ 0 ↔ Hopeless context := by
  suffices counted : context.hasProblematicKeywords = true → context.isFollowUp = true →
      (context.ticketPriority = .high ∨ context.ticketPriority = .urgent) →
      (context.ticketAge = 0 ∨ 3600000 ≤ context.ticketAge) →
      (otherFactors context + 5 / 100 ≤ 0 ↔ mitigations context ≤ 1) by
    constructor
    · intro floored
      obtain ⟨keywords, followUp, pressing, stale⟩ := pressing_of_floored context floored
      exact ⟨keywords, followUp, pressing, stale,
        (counted keywords followUp pressing stale).mp floored⟩
    · intro hopeless
      exact (counted hopeless.keywords hopeless.followUp hopeless.pressing hopeless.stale).mpr
        hopeless.mitigated
  intro keywords followUp pressing stale
  have age : ageFactor context.ticketAge =
      if context.ticketAge ≤ 86400000 then 0 else -10 / 100 := by
    have late : ¬(context.ticketAge ≠ 0 ∧ context.ticketAge < 3600000) := by omega
    simp only [ageFactor, Bool.and_eq_true, decide_eq_true_eq, late, if_false]
    split_ifs <;> first | rfl | omega
  simp only [otherFactors, mitigations, age, commentsFactor, flagFactor, keywords, followUp,
    if_true]
  -- What is left: the priority, and four circumstances that add up.
  rcases pressing with pressing | pressing <;>
    simp only [pressing, priorityFactor] <;>
    cases context.hasAttachments <;>
    by_cases old : context.ticketAge ≤ 86400000 <;>
    by_cases long : 200 < context.descriptionLength <;>
    by_cases many : 5 < context.commentCount <;>
    by_cases single : context.commentCount = 1 <;>
    simp [old, long, many, single] <;> norm_num

end Hopeless

def PassesGap (before after : ConfidenceContext) : Prop :=
  -- The response passes from exactly 500 characters to more, and the rest is not hopeless.
  before.responseLength = 500 ∧ 500 < after.responseLength ∧ ¬Hopeless before

theorem priorityFactor_anti (before after : Priority) (moves : riskOf before < riskOf after) :
    priorityFactor after ≤ priorityFactor before := by
  revert moves
  cases before <;> cases after <;> norm_num [priorityFactor, riskOf]

theorem riskier_same_length (before after : ConfidenceContext) (riskier : Riskier before after)
    (same : after.responseLength = before.responseLength) :
    otherFactors after ≤ otherFactors before := by
  cases riskier with
  | keywords unsure => simp [otherFactors, flagFactor, unsure]; norm_num
  | followUp first => simp [otherFactors, flagFactor, first]; norm_num
  | attachments plain => simp [otherFactors, flagFactor, plain]; norm_num
  | priority priority moves =>
    have less := priorityFactor_anti before.ticketPriority priority moves
    simpa [otherFactors] using less
  | length longer _ grows => exact absurd same grows.ne'

theorem score_riskier_iff (before after : ConfidenceContext) (riskier : Riskier before after) :
    confidenceScore after ≤ confidenceScore before ↔ ¬PassesGap before after := by
  rw [confidenceScore_factors, confidenceScore_factors]
  by_cases same : after.responseLength = before.responseLength
  · have less := riskier_same_length before after riskier same
    rw [same]
    refine ⟨fun _ passes => ?_, fun _ => clamp_mono _ _ (by linarith)⟩
    obtain ⟨exact, more, -⟩ := passes
    omega
  · cases riskier with
    | length longer long grows =>
      have others : otherFactors { before with responseLength := longer } = otherFactors before :=
        rfl
      rw [others]
      by_cases passes : before.responseLength = 500
      · have more : 500 < longer := by omega
        have low : lengthFactor before.responseLength = 0 := by rw [passes]; rfl
        have high : lengthFactor longer = 5 / 100 := by
          simp [lengthFactor, more, Nat.not_lt.mpr more.le]
        change clamp (otherFactors before + lengthFactor longer) ≤ _ ↔ _
        rw [low, high, add_zero, clamp_le_iff _ _ (by linarith) (otherFactors_lt_one before),
          floored_iff]
        simp [PassesGap, passes, more]
      · have less := lengthFactor_long before.responseLength longer long grows
          fun both => passes both.1
        refine ⟨fun _ gap => passes gap.1, fun _ => clamp_mono _ _ ?_⟩
        change otherFactors before + lengthFactor longer ≤ _
        linarith
    | _ => exact absurd rfl same

def rank : ActionType → Nat
  | .storeAndWait => 0
  | .suggest => 1
  | .smartAssign => 2
  | .autoResolve => 3

theorem decideAction_mono (options : DecisionOptions) (low high : Rat) (grows : low ≤ high) :
    rank (decideAction low options).type ≤ rank (decideAction high options).type := by
  have reached (threshold : Rat) (met : threshold ≤ low) : threshold ≤ high := met.trans grows
  simp only [decideAction, Bool.and_eq_true, decide_eq_true_eq]
  split_ifs <;> simp [rank] <;> grind

/-- Whatever the context, the thresholds and what is enabled. -/
theorem confidence_risk_iff (before after : ConfidenceContext) (options : DecisionOptions)
    (low high : Rat) (riskier : Riskier before after) (grows : low ≤ high) :
    ((calculateConfidence after).confidence ≤ (calculateConfidence before).confidence ∧
      rank (decideAction low options).type ≤ rank (decideAction high options).type) ↔
    ¬PassesGap before after := by
  rw [and_iff_left (decideAction_mono options low high grows)]
  exact score_riskier_iff before after riskier

/-- A short, sure and first response to an ordinary ticket. -/
def ordinary (responseLength : Nat) : ConfidenceContext where
  responseLength
  hasProblematicKeywords := false
  isFollowUp := false
  ticketPriority := .medium
  ticketAge := 60000
  commentCount := 1
  hasAttachments := false
  descriptionLength := 80

theorem ordinary_longer :
    ((calculateConfidence (ordinary 700)).confidence ≤
        (calculateConfidence (ordinary 300)).confidence ∧
      rank (decideAction (1 / 2) { canAssign := true }).type ≤
        rank (decideAction (7 / 10) { canAssign := true }).type) ↔
    ¬PassesGap (ordinary 300) (ordinary 700) :=
  confidence_risk_iff (ordinary 300) (ordinary 700) { canAssign := true } (1 / 2) (7 / 10)
    (.length (ordinary 300) 700 (by decide) (by decide)) (by norm_num)

/-- One character more, and more confidence. -/
theorem ordinary_past_gap :
    Riskier (ordinary 500) (ordinary 501) ∧
      (calculateConfidence (ordinary 500)).confidence <
        (calculateConfidence (ordinary 501)).confidence :=
  ⟨.length (ordinary 500) 501 (by decide) (by decide), by decide +kernel⟩

end HelpForge.Automation
