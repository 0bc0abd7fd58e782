import HelpForge.Chatbot.Conversation.State
import Mathlib.Data.List.DropRight
import Mathlib.Data.List.Induction

set_option autoImplicit false

namespace HelpForge.Chatbot

structure ConversationTurn where
  intent : String
  entities : Dict (List String)
  severity : String
  agent_action : String

def ConversationTurn.values (type : String) (turn : ConversationTurn) : List String :=
  (turn.entities.filter fun entry => entry.1 = type).flatMap Prod.snd

def ConversationTurn.types (turn : ConversationTurn) : List String := turn.entities.map Prod.fst

def ConversationTurn.unresolved (turn : ConversationTurn) : Bool := turn.agent_action != "respond"

def ConversationStage.rank : ConversationStage → Nat
  | .opening => 0
  | .gathering => 1
  | .investigating => 2
  | .resolving => 3
  | .closing => 4

namespace ConversationState

def turn (state : ConversationState) (turn : ConversationTurn) : ConversationState :=
  state.applyTurn turn.intent turn.entities turn.severity turn.agent_action

def after (turns : List ConversationTurn) : ConversationState := turns.foldl ConversationState.turn {}

/-- Each field but the stage, as the turns determine it. -/
structure Recounts (turns : List ConversationTurn) (state : ConversationState) : Prop where
  turn_count : state.turn_count = turns.length
  intent_history : state.intent_history = (turns.map ConversationTurn.intent).rtake maxHistory
  severity_history : state.severity_history = (turns.map ConversationTurn.severity).rtake maxHistory
  last_intent : state.last_intent = turns.getLast?.map ConversationTurn.intent
  types : state.entity_map.map Prod.fst = (turns.flatMap ConversationTurn.types).eraseDups
  values : ∀ type,
    (state.entity_map.lookup type).getD [] = (turns.flatMap (ConversationTurn.values type)).eraseDups
  unresolved : state.unresolved_turns = (turns.rtakeWhile ConversationTurn.unresolved).length

end ConversationState

theorem rtake_rtake_concat {α : Type} (items : List α) (item : α) (count : Nat) :
    (items.rtake count ++ [item]).rtake count = (items ++ [item]).rtake count := by
  cases count with
  | zero => simp
  | succ count =>
    rw [List.rtake_concat_succ, List.rtake_concat_succ]
    simp only [List.rtake, List.drop_drop, List.length_drop]
    congr 2
    omega

theorem capped_rtake (history : List String) (label : String) :
    capped (history.rtake maxHistory) label = (history ++ [label]).rtake maxHistory :=
  rtake_rtake_concat history label maxHistory

theorem eraseDups_concat (items : List String) (item : String) :
    (items ++ [item]).eraseDups =
      if item ∈ items.eraseDups then items.eraseDups else items.eraseDups ++ [item] := by
  rw [List.eraseDups_append]
  by_cases known : item ∈ items
  · simp [List.removeAll, known]
  · simp [List.removeAll, known, List.eraseDups_cons]

theorem addDistinct_eraseDups (items values : List String) :
    addDistinct items.eraseDups values = (items ++ values).eraseDups := by
  induction values generalizing items with
  | nil => simp [addDistinct]
  | cons value rest ih =>
    have first := eraseDups_concat items value
    have later := ih (items ++ [value])
    rw [List.append_assoc, List.singleton_append] at later
    rw [← later, first]
    rfl

theorem lookup_mergeEntities (known found : Dict (List String)) (type : String)
    (items : List String) (holds : (known.lookup type).getD [] = items.eraseDups) :
    ((mergeEntities known found).lookup type).getD [] =
      (items ++ (found.filter fun entry => entry.1 = type).flatMap Prod.snd).eraseDups := by
  induction found generalizing known items with
  | nil => simpa [mergeEntities] using holds
  | cons entry rest ih =>
    have put := Dict.lookup_put known entry.1 type
      (addDistinct ((known.lookup entry.1).getD []) entry.2)
    change ((mergeEntities _ rest).lookup type).getD [] = _
    by_cases same : entry.1 = type
    · rw [ih _ (items ++ entry.2)]
      · simp [same]
      · rw [put, if_pos same.symm, same, holds]
        exact addDistinct_eraseDups items entry.2
    · rw [ih _ items]
      · simp [same]
      · rw [put, if_neg (Ne.symm same), holds]

theorem keys_mergeEntities (known found : Dict (List String)) (types : List String)
    (holds : known.map Prod.fst = types.eraseDups) :
    (mergeEntities known found).map Prod.fst = (types ++ found.map Prod.fst).eraseDups := by
  induction found generalizing known types with
  | nil => simpa [mergeEntities] using holds
  | cons entry rest ih =>
    have put := Dict.keys_put known entry.1
      (addDistinct ((known.lookup entry.1).getD []) entry.2)
    have first := eraseDups_concat types entry.1
    rw [holds, ← first] at put
    have later := ih _ _ put
    rw [List.append_assoc, List.singleton_append] at later
    exact later

variable (state : ConversationState)

namespace ConversationState

theorem Recounts.turn {turns : List ConversationTurn} {state : ConversationState}
    (recounts : Recounts turns state) (next : ConversationTurn) :
    Recounts (turns ++ [next]) (state.turn next) where
  turn_count := by
    have counted := recounts.turn_count
    simp [ConversationState.turn, applyTurn, counted]
  intent_history := by
    have kept := capped_rtake (turns.map ConversationTurn.intent) next.intent
    rw [← recounts.intent_history] at kept
    simpa [ConversationState.turn, applyTurn] using kept
  severity_history := by
    have kept := capped_rtake (turns.map ConversationTurn.severity) next.severity
    rw [← recounts.severity_history] at kept
    simpa [ConversationState.turn, applyTurn] using kept
  last_intent := by simp [ConversationState.turn, applyTurn]
  types := by
    have merged := keys_mergeEntities state.entity_map next.entities _ recounts.types
    simpa [ConversationState.turn, applyTurn, ConversationTurn.types] using merged
  values := by
    intro type
    have merged := lookup_mergeEntities state.entity_map next.entities type _ (recounts.values type)
    simpa [ConversationState.turn, applyTurn, ConversationTurn.values] using merged
  unresolved := by
    have counted := recounts.unresolved
    by_cases responded : next.agent_action = "respond"
    · simp [ConversationState.turn, applyTurn, responded, ConversationTurn.unresolved]
    · simp [ConversationState.turn, applyTurn, responded, List.rtakeWhile_concat, ConversationTurn.unresolved,
        counted]

theorem recounts_after (turns : List ConversationTurn) : Recounts turns (after turns) := by
  induction turns using List.reverseRecOn with
  | nil =>
    constructor <;> try rfl
    intro type
    rfl
  | append_singleton turns next ih =>
    have stepped := ih.turn next
    rwa [after, List.foldl_concat]

theorem advanceStage_rank (has_new_entities : Bool) (agent_action : String) :
    (state.advanceStage has_new_entities agent_action).rank = state.stage.rank ∨
      (state.advanceStage has_new_entities agent_action).rank = state.stage.rank + 1 := by
  unfold advanceStage
  cases stage : state.stage with
  | opening => by_cases past : 2 ≤ state.turn_count <;> simp [past, ConversationStage.rank]
  | gathering =>
    simp only
    split_ifs
    · exact .inr rfl
    · exact .inl rfl
  | investigating =>
    simp only
    split_ifs
    · exact .inr rfl
    · exact .inl rfl
  | resolving =>
    simp only
    split_ifs
    · exact .inr rfl
    · exact .inl rfl
  | closing => exact .inl rfl

theorem turn_rank (next : ConversationTurn) :
    (state.turn next).stage.rank = state.stage.rank ∨
      (state.turn next).stage.rank = state.stage.rank + 1 :=
  advanceStage_rank _ _ _

theorem rank_le_foldl (later : List ConversationTurn) (state : ConversationState) :
    state.stage.rank ≤ (later.foldl ConversationState.turn state).stage.rank := by
  induction later generalizing state with
  | nil => exact Nat.le_refl _
  | cons next rest ih =>
    have now := turn_rank state next
    have after := ih (state.turn next)
    rw [List.foldl_cons]
    omega

/-- The joint invariant over all conversations. -/
theorem conversation_invariants (turns : List ConversationTurn) :
    Recounts turns (after turns) ∧
      (∀ earlier later, turns = earlier ++ later →
        (after earlier).stage.rank ≤ (after turns).stage.rank) ∧
      ∀ earlier next later, turns = earlier ++ next :: later →
        (after (earlier ++ [next])).stage.rank ≤ (after earlier).stage.rank + 1 := by
  refine ⟨recounts_after turns, ?_, ?_⟩
  · rintro earlier later rfl
    rw [after, after, List.foldl_append]
    exact rank_le_foldl later _
  · intro earlier next later _
    have moved := turn_rank (after earlier) next
    rw [after, List.foldl_concat]
    change ((after earlier).turn next).stage.rank ≤ _
    omega

end ConversationState

end HelpForge.Chatbot
