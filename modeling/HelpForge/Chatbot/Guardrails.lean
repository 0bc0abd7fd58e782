import HelpForge.Chatbot.Python

set_option autoImplicit false

/-!
# Guardrails

A pattern is the set of texts that it can leave.
-/

namespace HelpForge.Chatbot

inductive Pattern where
  | char (accepts : Char → Bool)
  | many (accepts : Char → Bool)
  | empty
  | seq (first second : Pattern)
  | either (first second : Pattern)
  | notAhead (body : Pattern)
  -- The edge of a word.
  | edge

namespace Pattern

def leaves (isWord : Char → Bool) :
    Pattern → Option Char × List Char → List (Option Char × List Char)
  -- The texts that can be left after a match, each with the character before it.
  | char accepts, (_, next :: rest) => if accepts next then [(some next, rest)] else []
  | char _, (_, []) => []
  | many accepts, (before, text) => skip accepts before text
  | empty, place => [place]
  | seq first second, place => (first.leaves isWord place).flatMap (second.leaves isWord)
  | either first second, place => first.leaves isWord place ++ second.leaves isWord place
  | notAhead body, place => if (body.leaves isWord place).isEmpty then [place] else []
  | edge, (before, text) =>
    if before.any isWord != text.head?.any isWord then [(before, text)] else []
where
  skip (accepts : Char → Bool) : Option Char → List Char → List (Option Char × List Char)
    | before, [] => [(before, [])]
    | before, next :: rest =>
      if accepts next then (before, next :: rest) :: skip accepts (some next) rest
      else [(before, next :: rest)]

def foundFrom (isWord : Char → Bool) (pattern : Pattern) : Option Char → List Char → Bool
  | before, [] => !(pattern.leaves isWord (before, [])).isEmpty
  | before, next :: rest =>
    !(pattern.leaves isWord (before, next :: rest)).isEmpty ||
      foundFrom isWord pattern (some next) rest

def search (isWord : Char → Bool) (pattern : Pattern) (text : String) : Bool :=
  pattern.foundFrom isWord none text.toList

/-- One character under `IGNORECASE`. -/
def sameLetter (letter char : Char) : Bool :=
  char.toLower == letter.toLower ||
    (letter.toLower == 'i' && (char == 'İ' || char == 'ı')) ||
    (letter.toLower == 's' && char == 'ſ') ||
    (letter.toLower == 'k' && char == '\u212a')

def all : List Pattern → Pattern := List.foldr seq empty

def oneOf : List Pattern → Pattern
  | [] => notAhead empty
  | first :: rest => either first (oneOf rest)

def optional (body : Pattern) : Pattern := either body empty

def word (text : String) : Pattern := all (text.toList.map fun letter => char (sameLetter letter))

def plural (text : String) : Pattern := seq (word text) (optional (word "s"))

/-- `\s*` and `\s+`. -/
def spaces : Pattern := many isSpace

def gap : Pattern := seq (char isSpace) spaces

def maybe (text : String) : Pattern := optional (seq (word text) gap)

end Pattern

open Pattern in
def injectionPatterns : List Pattern :=
  let posing := notAhead (all [word "a", gap,
    oneOf [word "helpful", word "support", word "customer"]])
  [all [word "ignore", gap, maybe "all", word "previous", gap, plural "instruction"],
    all [word "disregard", gap, maybe "your", maybe "previous", plural "instruction"],
    all [word "forget", gap, oneOf [word "everything", word "your", word "all"], gap],
    all [word "new", gap, maybe "system", word "prompt", spaces, oneOf [word ":", word "-"]],
    all [word "override", gap, maybe "your", maybe "previous", plural "instruction"],
    all [word "you", gap, word "are", gap, word "now", gap, posing],
    all [word "act", gap, word "as", gap, posing],
    all [word "pretend", gap, oneOf [all [word "you", gap, word "are"],
      all [word "to", gap, word "be"]], gap],
    all [word "roleplay", gap, word "as", gap],
    all [edge, word "DAN", edge],
    all [oneOf (["show", "list", "dump", "reveal", "print", "output", "leak"].map word), gap,
      maybe "all", maybe "other",
      oneOf ((["user", "ticket", "organization", "org", "tenant", "customer"].map plural) ++
        [word "data"])],
    all [oneOf (["access", "read", "get"].map word), gap, oneOf (["other", "another"].map word), gap,
      oneOf (["org", "organization", "tenant", "customer"].map word)],
    all [oneOf (["from", "for"].map word), gap, maybe "all", maybe "other",
      oneOf (["organization", "tenant", "customer"].map plural)],
    all [word "<", spaces, optional (word "/"), word "system", spaces, word ">"],
    word "[INST]",
    all [word "###", spaces, oneOf (["system", "instruction"].map word)],
    all [word "Human:", spaces, word "\n"]]

open Pattern in
def outputPatterns : List Pattern :=
  [all [word "system", gap, word "prompt"],
    all [word "internal", gap, plural "instruction"],
    all [word "other", gap, oneOf (["tenant", "org", "organization", "customer"].map word), gap,
      oneOf (["data", "ticket", "information"].map word)],
    word "INTERNAL_SERVICE_TOKEN",
    all [word "api", optional (char (· != '\n')), word "key"]]

def maxInputChars : Nat := 4000

def safeRefusal : String :=
  "I'm sorry, but I can't process that request. Please rephrase your question and try again."

structure GuardResult where
  safe : Bool
  reason : String := ""
  safe_value : String := ""
  deriving DecidableEq, Repr

def isControl (char : Char) : Bool :=
  -- Control characters other than tabs and the ends of lines.
  let code := char.toNat
  code ≤ 0x08 || code == 0x0b || code == 0x0c || (0x0e ≤ code && code ≤ 0x1f) || code == 0x7f

/-- A character of a word, as `\b` sees it. -/
def Python.isWord (python : Python) (char : Char) : Bool := python.isalnum char || char == '_'

def checkInput (python : Python) (query : String) : GuardResult :=
  if stripped query = "" then { safe := false, reason := "EMPTY_INPUT" }
  else
    let cleaned := strip (query.toList.filter fun char => !isControl char)
    let capped := String.ofList (cleaned.take maxInputChars)
    if injectionPatterns.any fun pattern => pattern.search python.isWord capped then
      { safe := false, reason := "INJECTION_DETECTED", safe_value := safeRefusal }
    else { safe := true, safe_value := capped }

def checkOutput (python : Python) (response : String) : GuardResult :=
  if outputPatterns.any fun pattern => pattern.search python.isWord response then
    { safe := false
      reason := "OUTPUT_POLICY_VIOLATION"
      safe_value :=
        "I'm sorry, I encountered an issue processing your request. " ++
          "A support agent will follow up with you shortly." }
  else { safe := true, safe_value := response }

namespace Pattern

def edgeless : Pattern → Bool
  | char _ => true
  | many _ => true
  | empty => true
  | seq first second => first.edgeless && second.edgeless
  | either first second => first.edgeless && second.edgeless
  | notAhead body => body.edgeless
  | edge => false

section Pattern

variable (isWord isWord' : Char → Bool) (pattern : Pattern) (plain : pattern.edgeless = true)

include plain

theorem leaves_edgeless (place : Option Char × List Char) :
    pattern.leaves isWord place = pattern.leaves isWord' place := by
  -- Only the edges of words depend on what a word is.
  induction pattern generalizing place with
  | char accepts =>
    obtain ⟨before, text⟩ := place
    cases text <;> rfl
  | many accepts => rfl
  | empty => rfl
  | seq first second ih ih' =>
    have ⟨plain, plain'⟩ := Bool.and_eq_true_iff.mp plain
    simp only [leaves, ih plain, funext (ih' plain')]
  | either first second ih ih' =>
    have ⟨plain, plain'⟩ := Bool.and_eq_true_iff.mp plain
    simp only [leaves, ih plain, ih' plain']
  | notAhead body ih => simp only [leaves, ih plain]
  | edge => cases plain

theorem foundFrom_edgeless (before : Option Char) (text : List Char) :
    pattern.foundFrom isWord before text = pattern.foundFrom isWord' before text := by
  induction text generalizing before with
  | nil => simp only [foundFrom, leaves_edgeless isWord isWord' pattern plain]
  | cons next rest ih =>
    simp only [foundFrom, leaves_edgeless isWord isWord' pattern plain, ih]

theorem search_edgeless (text : String) :
    pattern.search isWord text = pattern.search isWord' text :=
  foundFrom_edgeless isWord isWord' pattern plain none text.toList

end Pattern

end Pattern

theorem outputPatterns_edgeless : ∀ pattern ∈ outputPatterns, pattern.edgeless = true := by
  decide

def outputRefusal : String :=
  "I'm sorry, I encountered an issue processing your request. " ++
    "A support agent will follow up with you shortly."

variable (python : Python) (response : String)

theorem checkOutput_safe_value :
    (checkOutput python response).safe_value =
      if (checkOutput python response).safe then response else outputRefusal := by
  unfold checkOutput
  split <;> rfl

theorem checkOutput_safe
    (clean : ∀ pattern ∈ outputPatterns, pattern.search (fun _ => false) response = false) :
    (checkOutput python response).safe = true := by
  have none_found :
      (outputPatterns.any fun pattern => pattern.search python.isWord response) = false := by
    rw [List.any_eq_false]
    intro pattern member
    have plain := outputPatterns_edgeless pattern member
    rw [Pattern.search_edgeless _ (fun _ => false) pattern plain, clean pattern member]
    exact Bool.false_ne_true
  unfold checkOutput
  rw [none_found]
  rfl

theorem outputRefusal_safe : (checkOutput python outputRefusal).safe = true :=
  checkOutput_safe python outputRefusal (by decide +kernel)

end HelpForge.Chatbot
