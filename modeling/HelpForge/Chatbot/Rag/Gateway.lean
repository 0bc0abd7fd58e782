import HelpForge.Chatbot.Python
import HelpForge.Lib.EventStream

set_option autoImplicit false

namespace HelpForge.Chatbot

open Lib

structure ModelRequest where
  orgId : String
  messages : List (Dict Value)
  systemPrompt : String

structure ModelAnswer where
  content : String
  usage : Dict Value := []

/-- The provider answers or fails; an organisation may have its AI disabled. -/
structure LanguageModel where
  respond : ModelRequest → Option ModelAnswer
  aiEnabled : String → Bool := fun _ => true

def ModelRequest.userMessage (content : String) : Dict Value :=
  [("role", .str "user"), ("content", .str content)]

namespace LanguageModel

variable (model : LanguageModel)

def received (request : ModelRequest) : List ModelRequest :=
  if model.aiEnabled request.orgId then [request] else []

/-- `generateController`, and `GatewayClient.generate` before it. -/
def generate (request : ModelRequest) : Except PyError ModelAnswer :=
  if model.aiEnabled request.orgId then
    match model.respond request with
    | some answer => .ok answer
    | none => .error ⟨"RuntimeError", "LLM gateway failed after 3 attempts"⟩
  else .error ⟨"HTTPStatusError", "403 Forbidden"⟩

def doneMark : List Char := "[DONE]".toList

/-- One `res.write` for each word. -/
def writeWord (word : List Char) : List Char := EventStream.opening ++ word ++ " \n\n".toList

def streamText (content : String) : List Char :=
  (content.toList.splitOn ' ').flatMap writeWord ++ EventStream.frame doneMark

/-- What ends a line for `str.splitlines`, which `aiter_lines` follows. -/
def isLineBreak (char : Char) : Bool :=
  let code := char.toNat
  (0x0a ≤ code && code ≤ 0x0d) || (0x1c ≤ code && code ≤ 0x1e) || code == 0x85 ||
    code == 0x2028 || code == 0x2029

def tokenOf (line : List Char) : Option (List Char) :=
  if EventStream.opening <+: line then
    let token := line.drop EventStream.opening.length
    if token ≠ [] ∧ token ≠ doneMark then some token else none
  else none

/-- The tokens that `GatewayClient.stream_generate` reads from an answer. -/
def tokens (content : String) : List (List Char) :=
  (cutLines isLineBreak true [] false (streamText content)).filterMap tokenOf

/-- `generateStreamController`, and `stream_generate` before it. The configuration of the
organisation is not asked for here. -/
def streamGenerate (request : ModelRequest) : Except PyError (List (List Char)) :=
  match model.respond request with
  | some answer => .ok (tokens answer.content)
  | none => .error ⟨"HTTPStatusError", "500 Internal Server Error"⟩

end LanguageModel

variable (content : String) (words : List (List Char)) (token : List Char)

namespace LanguageModel

theorem mem_tokens (among : token ∈ tokens content) :
    (∀ char ∈ token, isLineBreak char = false) ∧ token ≠ doneMark := by
  obtain ⟨line, cut, read⟩ := List.mem_filterMap.mp among
  have plain := mem_cutLines _ [] false (by simp) line cut
  simp only [tokenOf] at read
  split_ifs at read with opened good
  cases read
  exact ⟨fun char member => plain char (List.mem_of_mem_drop member), good.2⟩

theorem tokens_solid (among : token ∈ tokens content) :
    EventStream.Solid token ∧ token ≠ doneMark := by
  have ⟨plain, other⟩ := mem_tokens content token among
  refine ⟨fun char member => ?_, other⟩
  have keeps := plain char member
  by_contra breaks
  have either : char = '\n' ∨ char = '\r' := by
    simpa [EventStream.isBreak, -not_or, Decidable.or_iff_not_imp_left] using breaks
  rcases either with rfl | rfl <;> exact absurd keeps (by decide)

theorem doneMark_solid : EventStream.Solid doneMark :=
  EventStream.solid_of_all doneMark (by decide)

theorem opening_plain : ∀ char ∈ EventStream.opening, isLineBreak char = false := by
  have plain : EventStream.opening.all (fun char => !isLineBreak char) = true := by decide
  simpa using plain

theorem cutLines_line (text rest : List Char)
    (plain : ∀ char ∈ text, isLineBreak char = false) :
    cutLines isLineBreak true [] false (text ++ '\n' :: '\n' :: rest) =
      text :: [] :: cutLines isLineBreak true [] false rest := by
  have newline : isLineBreak '\n' = true := by decide
  rw [cutLines_solid text _ [] plain, List.nil_append]
  simp [cutLines, newline]

theorem tokenOf_opening :
    tokenOf (EventStream.opening ++ token) =
      if token ≠ [] ∧ token ≠ doneMark then some token else none := by
  simp [tokenOf]

theorem tokenOf_blank : tokenOf [] = none := by decide

theorem tokens_words (plain : ∀ word ∈ words, ∀ char ∈ word, isLineBreak char = false) :
    (cutLines isLineBreak true [] false
        (words.flatMap writeWord ++ EventStream.frame doneMark)).filterMap tokenOf =
      words.map fun word => word ++ [' '] := by
  induction words with
  | nil => decide
  | cons word words ih =>
    have later := ih fun other member => plain other (List.mem_cons_of_mem _ member)
    have text : (word :: words).flatMap writeWord ++ EventStream.frame doneMark =
        (EventStream.opening ++ (word ++ [' '])) ++
          '\n' :: '\n' :: (words.flatMap writeWord ++ EventStream.frame doneMark) := by
      simp [writeWord]
    have whole : ∀ char ∈ EventStream.opening ++ (word ++ [' ']), isLineBreak char = false := by
      intro char member
      rcases List.mem_append.mp member with front | inside
      · exact opening_plain char front
      · rcases List.mem_append.mp inside with within | space
        · exact plain word (by simp) char within
        · rw [List.mem_singleton.mp space]
          decide
    have good : word ++ [' '] ≠ [] ∧ word ++ [' '] ≠ doneMark := by
      refine ⟨by simp, fun same => ?_⟩
      have ends := congrArg List.getLast? same
      have last : (word ++ [' ']).getLast? = some ' ' := by simp
      rw [last] at ends
      exact absurd ends (by decide)
    rw [text, cutLines_line _ _ whole, List.filterMap_cons,
      tokenOf_opening, if_pos good, List.filterMap_cons, tokenOf_blank, later]
    rfl

theorem flatten_words (some : words ≠ []) :
    (words.map fun word => word ++ [' ']).flatten = [' '].intercalate words ++ [' '] := by
  induction words with
  | nil => exact absurd rfl some
  | cons word words ih =>
    cases words with
    | nil => simp
    | cons next words =>
      rw [List.map_cons, List.flatten_cons, ih nofun, List.intercalate_cons_cons]
      simp

theorem mem_intercalate (word : List Char) (among : word ∈ words) (char : Char)
    (inside : char ∈ word) : char ∈ [' '].intercalate words := by
  induction words with
  | nil => cases among
  | cons first words ih =>
    cases words with
    | nil =>
      rw [List.mem_singleton.mp among] at inside
      rwa [List.intercalate_singleton]
    | cons next words =>
      rw [List.intercalate_cons_cons]
      rcases List.mem_cons.mp among with rfl | later
      · simp [inside]
      · simp [ih later]

theorem tokens_flat (flat : ∀ char ∈ content.toList, isLineBreak char = false) :
    (tokens content).flatten = content.toList ++ [' '] := by
  -- An answer in one line comes through word by word, and a space is added to the last one.
  have joined : [' '].intercalate (content.toList.splitOn ' ') = content.toList :=
    List.intercalate_splitOn ' '
  have plain : ∀ word ∈ content.toList.splitOn ' ', ∀ char ∈ word, isLineBreak char = false := by
    intro word among char inside
    have member := mem_intercalate _ word among char inside
    rw [joined] at member
    exact flat char member
  rw [tokens, streamText, tokens_words _ plain, flatten_words _ (List.splitOn_ne_nil _ _), joined]

theorem tokens_ne : (tokens content).flatten ≠ content.toList := by
  intro same
  by_cases flat : ∀ char ∈ content.toList, isLineBreak char = false
  · rw [tokens_flat content flat] at same
    simpa using congrArg List.length same
  · apply flat
    rw [← same]
    intro char member
    obtain ⟨token, among, inside⟩ := List.mem_flatten.mp member
    exact (mem_tokens content token among).1 char inside

end LanguageModel

end HelpForge.Chatbot
