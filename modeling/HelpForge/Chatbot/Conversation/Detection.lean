import HelpForge.Chatbot.Conversation.Detectors
import HelpForge.Lib.Least
import Mathlib.Algebra.Order.Ring.Rat
import Mathlib.Data.List.Induction

set_option autoImplicit false

namespace HelpForge.Chatbot

open Lib

section Intent

variable (regex : Regex) (message : String)

def intentRules : List (Intent × Rule) :=
  intentPatterns.flatMap fun entry => entry.2.map fun rule => (entry.1, rule)

def stronger (best : Option IntentResult) (entry : Intent × Rule) : Option IntentResult :=
  if regex.search entry.2.pattern message ∧ best.elim 0 IntentResult.confidence < entry.2.weight then
    some { intent := entry.1, confidence := entry.2.weight, sub_intent := some entry.2.label }
  else best

/-- `best` is what the first of the most confident rules that match says. -/
def Strongest (rules : List (Intent × Rule)) (best : Option IntentResult) : Prop :=
  let firing := rules.filter fun entry => regex.search entry.2.pattern message
  best = none ∧ firing = [] ∨ ∃ entry, FirstLeast (fun entry => -entry.2.weight) firing entry ∧
    best = some
      { intent := entry.1, confidence := entry.2.weight, sub_intent := some entry.2.label }

theorem strongest_foldl (rules : List (Intent × Rule))
    (positive : ∀ entry ∈ rules, 0 < entry.2.weight) :
    Strongest regex message rules (rules.foldl (stronger regex message) none) := by
  induction rules using List.reverseRecOn with
  | nil => exact Or.inl ⟨rfl, rfl⟩
  | append_singleton rules last ih =>
    have before := ih fun entry member => positive entry (List.mem_append_left _ member)
    rw [List.foldl_append, List.foldl_cons, List.foldl_nil]
    generalize rules.foldl (stronger regex message) none = best at before ⊢
    unfold Strongest stronger
    rw [List.filter_append]
    cases fires : regex.search last.2.pattern message with
    | false => simpa [Strongest, fires] using before
    | true =>
      rw [List.filter_singleton, fires, cond_true]
      rcases before with ⟨rfl, nothing⟩ | ⟨entry, first, rfl⟩
      · have weight := positive last (by simp)
        rw [nothing, if_pos ⟨rfl, by simpa using weight⟩]
        exact Or.inr ⟨last, firstLeast_cons_self _ last [] nofun, rfl⟩
      · by_cases more : entry.2.weight < last.2.weight
        · rw [if_pos ⟨rfl, by simpa using more⟩]
          refine Or.inr ⟨last, ⟨_, [], rfl, fun other member => ?_, nofun⟩, rfl⟩
          have least := first.le member
          exact (neg_lt_neg more).trans_le least
        · rw [if_neg fun both => more (by simpa using both.2)]
          obtain ⟨earlier, later, split, less, least⟩ := first
          refine Or.inr ⟨entry, ⟨earlier, later ++ [last], by simp [split], less, ?_⟩, rfl⟩
          intro other member
          rcases List.mem_append.mp member with among | alone
          · exact least other among
          · rw [List.mem_singleton.mp alone]
            exact neg_le_neg (not_lt.mp more)

/-- The rules give the intent of the first of the most confident among those that match, and leave
the message to the model only where none matches. -/
theorem ruleBased_strongest :
    Strongest regex message intentRules (ruleBased regex message) :=
  strongest_foldl regex message intentRules (by decide +kernel)

end Intent

section Entities

variable (python : Python) (regex : Regex) (message : String)

def Entity.key (entity : Entity) : EntityType × String := (entity.entity_type, entity.value)

/-- What a rule reads from a match: the value of the group, normalised. -/
def EntityRule.reads (rule : EntityRule) (candidate : RegexMatch) : Option String :=
  (if rule.value_group = 0 then some candidate.whole else candidate.group).map
    (rule.normaliser.apply python)

def addMatch (rule : EntityRule) (found : List Entity) (candidate : RegexMatch) : List Entity :=
  match rule.reads python candidate with
  | none => found
  | some value =>
    if found.any fun entity => entity.entity_type = rule.entity_type ∧ entity.value = value then found
    else found ++ [{ entity_type := rule.entity_type, value, raw_match := candidate.whole }]

/-- What is found has no key twice, and the keys of `known` and those that `added` holds of. -/
def Adds (known found : List Entity) (added : EntityType × String → Prop) : Prop :=
  (known.map Entity.key).Nodup → (found.map Entity.key).Nodup ∧
    ∀ key, key ∈ found.map Entity.key ↔ key ∈ known.map Entity.key ∨ added key

variable {python} {regex} {message}

theorem adds_foldl {α : Type} {step : List Entity → α → List Entity}
    {added : α → EntityType × String → Prop}
    (adds : ∀ known item, Adds known (step known item) (added item)) (items : List α)
    (known : List Entity) :
    Adds known (items.foldl step known) fun key => ∃ item ∈ items, added item key := by
  induction items generalizing known with
  | nil => exact fun once => ⟨once, by simp⟩
  | cons item rest ih =>
    intro once
    obtain ⟨kept, found⟩ := adds known item once
    obtain ⟨final, later⟩ := ih (step known item) kept
    refine ⟨final, fun key => ?_⟩
    rw [List.foldl_cons, later key, found key]
    simp only [List.exists_mem_cons_iff, or_assoc]

theorem addMatch_adds (rule : EntityRule) (known : List Entity) (candidate : RegexMatch) :
    Adds known (addMatch python rule known candidate) fun key =>
      key.1 = rule.entity_type ∧ rule.reads python candidate = some key.2 := by
  intro once
  unfold addMatch
  cases read : rule.reads python candidate with
  | none => exact ⟨once, by simp⟩
  | some value =>
    have told : (known.any fun entity =>
        decide (entity.entity_type = rule.entity_type ∧ entity.value = value)) = true ↔
        (rule.entity_type, value) ∈ known.map Entity.key := by
      simp [Entity.key]
    have named (key : EntityType × String) :
        key.1 = rule.entity_type ∧ some value = some key.2 ↔ key = (rule.entity_type, value) := by
      rw [Prod.ext_iff, Option.some.injEq, eq_comm (a := value)]
    simp only [told, named]
    split_ifs with there
    · exact ⟨once, fun key => ⟨.inl, fun known => known.elim id fun same => same ▸ there⟩⟩
    · rw [List.map_append, List.map_singleton]
      refine ⟨once.append (List.nodup_singleton _) ?_, fun key => by simp [Entity.key]⟩
      exact List.disjoint_singleton.mpr there

/-- Each entity is found once, and those are found that some rule reads from a match. -/
theorem extractEntities_exact (python : Python) (regex : Regex) (message : String) :
    ((extractEntities python regex message).map Entity.key).Nodup ∧
      ∀ key, key ∈ (extractEntities python regex message).map Entity.key ↔
        ∃ rule ∈ entityRules, ∃ candidate ∈ regex.finditer rule.pattern rule.ignoreCase message,
          key.1 = rule.entity_type ∧ rule.reads python candidate = some key.2 := by
  have single (known : List Entity) (rule : EntityRule) :
      extractRule python regex message known rule =
        (regex.finditer rule.pattern rule.ignoreCase message).foldl (addMatch python rule) known := by
    unfold extractRule
    congr
    funext found candidate
    unfold addMatch EntityRule.reads
    cases (if rule.value_group = 0 then some candidate.whole else candidate.group) <;> rfl
  have each (known : List Entity) (rule : EntityRule) :=
    single known rule ▸ adds_foldl (@addMatch_adds python rule)
      (regex.finditer rule.pattern rule.ignoreCase message) known
  simpa [extractEntities] using adds_foldl each entityRules [] List.nodup_nil

end Entities

end HelpForge.Chatbot
