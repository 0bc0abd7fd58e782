import Mathlib.Data.List.DropRight
import Mathlib.Tactic.Common

set_option autoImplicit false

namespace Lib.Whitespace

variable {α β : Type} (space : α → Bool) (blank : α)

def collapse : List α → List α
  | [] => []
  | char :: rest =>
    if space char then
      if rest.head?.any space then collapse rest else blank :: collapse rest
    else char :: collapse rest

def trim (text : List α) : List α := (text.rdropWhile space).dropWhile space

def solid (text : List α) : List α := text.filter fun char => !space char

/-- How many times a word begins; `before` says whether white space is in front of the text. -/
def wordStarts (before : Bool) : List α → Nat
  | [] => 0
  | char :: rest =>
    if space char then wordStarts true rest
    else if before then wordStarts false rest + 1
    else wordStarts false rest

def words (text : List α) : List (List α) := (text.splitOnP space).filter fun word => !word.isEmpty

theorem solid_collapse (white : space blank = true) (text : List α) :
    solid space (collapse space blank text) = solid space text := by
  induction text with
  | nil => rfl
  | cons char rest ih =>
    unfold solid at ih ⊢
    unfold collapse
    by_cases here : space char = true
    · by_cases again : rest.head?.any space = true
      · simp [here, again, ih]
      · simp [here, again, ih, white]
    · simp [here, ih]

variable (text : List α)

theorem solid_rdropWhile : solid space (text.rdropWhile space) = solid space text := by
  induction text using List.reverseRecOn with
  | nil => rfl
  | append_singleton rest char ih =>
    rw [List.rdropWhile_concat]
    split_ifs with here
    · rw [ih]
      simp [solid, here]
    · rfl

theorem solid_dropWhile : solid space (text.dropWhile space) = solid space text := by
  induction text with
  | nil => rfl
  | cons char rest ih =>
    unfold solid at ih ⊢
    by_cases here : space char = true
    · simp [here, ih]
    · simp [here]

theorem solid_trim : solid space (trim space text) = solid space text := by
  rw [trim, solid_dropWhile, solid_rdropWhile]

theorem mem_collapse {text : List α} {char : α} (member : char ∈ collapse space blank text) :
    char = blank ∨ char ∈ solid space text := by
  induction text with
  | nil => cases member
  | cons first rest ih =>
    have later : char ∈ collapse space blank rest →
        char = blank ∨ char ∈ solid space (first :: rest) := by
      intro among
      rcases ih among with same | inside
      · exact .inl same
      · exact .inr ((List.sublist_cons_self first rest).filter _ |>.subset inside)
    unfold collapse at member
    split_ifs at member with here again
    · exact later member
    · rcases List.mem_cons.mp member with same | among
      · exact .inl same
      · exact later among
    · rcases List.mem_cons.mp member with same | among
      · exact .inr (by simp [solid, same, here])
      · exact later among

theorem trim_sublist : (trim space text).Sublist text :=
  ((List.dropWhile_suffix _).sublist).trans (List.rdropWhile_prefix _ _).sublist

theorem head_trim {text : List α} {char : α} {rest : List α}
    (begins : trim space text = char :: rest) : space char = false := by
  have first := List.head?_dropWhile_not space (text.rdropWhile space)
  rw [show (text.rdropWhile space).dropWhile space = char :: rest from begins] at first
  simpa using first

theorem length_pieces :
    (words space text).length = wordStarts space true text ∧
      ((text.splitOnP space).tail.filter fun word => !word.isEmpty).length =
        wordStarts space false text := by
  induction text with
  | nil => exact ⟨rfl, rfl⟩
  | cons char rest ih =>
    rw [words] at ih ⊢
    rw [List.splitOnP_cons_eq_if_modifyHead]
    by_cases here : space char = true
    · simpa [here, wordStarts] using ih.1
    · cases pieces : rest.splitOnP space with
      | nil => exact absurd pieces (List.splitOnP_ne_nil space rest)
      | cons first others =>
        rw [pieces] at ih
        simpa [here, wordStarts] using ih.2

theorem length_words : (words space text).length = wordStarts space true text :=
  (length_pieces space text).1

section Map

variable {space} {blank} {space' : β → Bool} {blank' : β} {read : α → β}

theorem map_collapse (alike : ∀ char, space' (read char) = space char) (same : read blank = blank')
    (text : List α) :
    (collapse space blank text).map read = collapse space' blank' (text.map read) := by
  induction text with
  | nil => rfl
  | cons char rest ih =>
    have next : (rest.map read).head?.any space' = rest.head?.any space := by
      cases rest with
      | nil => rfl
      | cons second rest => simp [alike]
    simp only [collapse, List.map_cons, alike, next]
    split_ifs <;> simp [ih, same]

theorem map_trim (alike : ∀ char, space' (read char) = space char) (text : List α) :
    (trim space text).map read = trim space' (text.map read) := by
  have composed : space' ∘ read = space := funext alike
  rw [trim, trim, List.rdropWhile, List.rdropWhile, ← List.map_reverse, List.dropWhile_map,
    composed, ← List.map_reverse, List.dropWhile_map, composed]

end Map

end Lib.Whitespace
