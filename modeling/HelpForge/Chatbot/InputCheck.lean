import HelpForge.Chatbot.Agent.Sanitised

set_option autoImplicit false

namespace HelpForge.Chatbot

open Lib

namespace Guardrails

/-- The text without control characters, and without the white space around it. -/
def cleaned (query : String) : List Char :=
  strip (query.toList.filter fun char => !isControl char)

def capped (query : String) : String := String.ofList ((cleaned query).take maxInputChars)

/-- `check_input` with the patterns that are searched for. -/
def checkInputAgainst (patterns : List (String → Bool)) (query : String) : GuardResult :=
  if stripped query = "" then { safe := false, reason := "EMPTY_INPUT" }
  else if patterns.any fun pattern => pattern (capped query) then
    { safe := false, reason := "INJECTION_DETECTED", safe_value := safeRefusal }
  else { safe := true, safe_value := capped query }

theorem checkInput_against (python : Python) (query : String) :
    checkInput python query =
      checkInputAgainst (injectionPatterns.map (Pattern.search python.isWord)) query := by
  simp only [checkInput, checkInputAgainst, List.any_map, capped, cleaned, Function.comp_def]

variable {patterns : List (String → Bool)} {query : String}

theorem safe_iff : (checkInputAgainst patterns query).safe = true ↔
    stripped query ≠ "" ∧ (patterns.any fun pattern => pattern (capped query)) = false := by
  unfold checkInputAgainst
  split_ifs with blank found
  · simp [blank]
  · simp [found]
  · simpa [blank] using found

theorem safe_value (safe : (checkInputAgainst patterns query).safe = true) :
    (checkInputAgainst patterns query).safe_value = capped query := by
  have ⟨shown, unmatched⟩ := safe_iff.mp safe
  rw [checkInputAgainst, if_neg shown, unmatched]
  rfl

/-- What is promised of a query that is let through. -/
structure Sanitised (patterns : List (String → Bool)) (query : String) : Prop where
  nonblank : stripped (checkInputAgainst patterns query).safe_value ≠ ""
  bounded : (checkInputAgainst patterns query).safe_value.length ≤ maxInputChars
  printable : ∀ char ∈ (checkInputAgainst patterns query).safe_value.toList,
    isControl char = false
  unmatched : ∀ pattern ∈ patterns, pattern (checkInputAgainst patterns query).safe_value = false
  again : (checkInputAgainst patterns (checkInputAgainst patterns query).safe_value).safe = true
  same : (checkInputAgainst patterns (checkInputAgainst patterns query).safe_value).safe_value =
    (checkInputAgainst patterns query).safe_value

theorem stripped_eq_empty_iff (text : String) : stripped text = "" ↔ strip text.toList = [] := by
  rw [stripped, ← String.toList_inj, String.toList_ofList]
  rfl

theorem cleaned_printable (char : Char) (among : char ∈ cleaned query) :
    isControl char = false := by
  have inside := (strip_within _).subset among
  simpa using (List.mem_filter.mp inside).2

theorem cleaned_capped : cleaned (capped query) = strip ((cleaned query).take maxInputChars) := by
  have kept : ((cleaned query).take maxInputChars).filter (fun char => !isControl char) =
      (cleaned query).take maxInputChars := by
    rw [List.filter_eq_self]
    intro char among
    simp [cleaned_printable char (List.mem_of_mem_take among)]
  rw [cleaned, capped, String.toList_ofList, kept]

/-- The text is there, and the cut does not come right after white space. -/
def CutClean (query : String) : Prop :=
  cleaned query ≠ [] ∧ ∀ char ∈ (cleaned query)[maxInputChars - 1]?, isSpace char = false

theorem take_last (text : List Char) {limit : Nat} (some_left : 0 < limit)
    (longer : limit ≤ text.length) :
    (text.take limit).getLast? = text[limit - 1]? := by
  rw [List.getLast?_eq_getElem?, List.length_take, min_eq_left longer, List.getElem?_take]
  have inside : limit - 1 < limit := by omega
  rw [if_pos inside]

theorem capped_strip_iff (some_text : cleaned query ≠ []) :
    strip ((cleaned query).take maxInputChars) = (cleaned query).take maxInputChars ↔
      ∀ char ∈ (cleaned query)[maxInputChars - 1]?, isSpace char = false := by
  have trimmed : strip (cleaned query) = cleaned query := strip_strip _
  have ⟨begins, ends⟩ := (strip_eq_self_iff _).mp trimmed
  have front : ∀ char ∈ ((cleaned query).take maxInputChars).head?, isSpace char = false := by
    intro char first
    apply begins char
    cases opened : cleaned query with
    | nil => exact absurd opened some_text
    | cons head rest =>
      rw [opened] at first
      exact first
  rw [strip_eq_self_iff]
  by_cases longer : maxInputChars ≤ (cleaned query).length
  · rw [take_last _ (by decide) longer]
    exact and_iff_right front
  · have whole : (cleaned query).take maxInputChars = cleaned query :=
      List.take_of_length_le (by omega)
    have beyond : (cleaned query)[maxInputChars - 1]? = none := by
      apply List.getElem?_eq_none
      omega
    rw [whole, beyond]
    simpa using ⟨begins, ends⟩

theorem cleaned_nonblank (some_text : cleaned query ≠ [])
    (steady : strip ((cleaned query).take maxInputChars) = (cleaned query).take maxInputChars) :
    stripped (capped query) ≠ "" := by
  rw [ne_eq, stripped_eq_empty_iff, capped, String.toList_ofList, steady, List.take_eq_nil_iff]
  rintro (zero | blank)
  · cases zero
  · exact some_text blank

theorem capped_capped
    (steady : strip ((cleaned query).take maxInputChars) = (cleaned query).take maxInputChars) :
    capped (capped query) = capped query := by
  rw [capped, cleaned_capped, steady, List.take_take, min_self]
  rfl

theorem steady_of_same
    (safe : (checkInputAgainst patterns query).safe = true) (promised : Sanitised patterns query) :
    strip ((cleaned query).take maxInputChars) = (cleaned query).take maxInputChars := by
  have same := promised.same
  rw [safe_value promised.again, safe_value safe, ← String.toList_inj, capped, cleaned_capped,
    String.toList_ofList, capped, String.toList_ofList] at same
  -- What is stripped of a text that has been cut is not cut again.
  have shorter := (strip_within ((cleaned query).take maxInputChars)).length_le
  have bounded : (strip ((cleaned query).take maxInputChars)).length ≤ maxInputChars :=
    shorter.trans (List.length_take_le ..)
  rwa [List.take_of_length_le bounded] at same

theorem sanitised_of_clean (safe : (checkInputAgainst patterns query).safe = true)
    (clean : CutClean query) : Sanitised patterns query := by
  obtain ⟨some_text, cut⟩ := clean
  have steady := (capped_strip_iff some_text).mpr cut
  have value := safe_value safe
  have unmatched := (safe_iff.mp safe).2
  have again : (checkInputAgainst patterns (capped query)).safe = true := by
    rw [safe_iff, capped_capped steady]
    exact ⟨cleaned_nonblank some_text steady, unmatched⟩
  constructor
  · rw [value]
    exact cleaned_nonblank some_text steady
  · rw [value, capped, String.length_ofList]
    exact List.length_take_le ..
  · intro char among
    rw [value, capped, String.toList_ofList] at among
    exact cleaned_printable char (List.mem_of_mem_take among)
  · intro pattern listed
    rw [value]
    simpa using List.any_eq_false.mp unmatched pattern listed
  · rw [value]
    exact again
  · rw [value, safe_value again, capped_capped steady]

/-- A query is let through as promised just when it is refused, or has a text that the cut does
not leave with white space at its end. -/
theorem sanitised_iff (patterns : List (String → Bool)) (query : String) :
    ((checkInputAgainst patterns query).safe = true → Sanitised patterns query) ↔
      stripped query = "" ∨ (patterns.any fun pattern => pattern (capped query)) = true ∨
        CutClean query := by
  constructor
  · intro promised
    by_cases blank : stripped query = ""
    · exact .inl blank
    right
    cases found : patterns.any fun pattern => pattern (capped query) with
    | true => exact .inl rfl
    | false =>
      have safe := safe_iff.mpr ⟨blank, found⟩
      have kept := promised safe
      have some_text : cleaned query ≠ [] := by
        intro none_left
        apply kept.nonblank
        rw [safe_value safe, capped, none_left]
        rfl
      right
      exact ⟨some_text, (capped_strip_iff some_text).mp (steady_of_same safe kept)⟩
  · rintro (blank | found | clean) safe
    · exact absurd blank (safe_iff.mp safe).1
    · have unmatched := (safe_iff.mp safe).2
      rw [found] at unmatched
      cases unmatched
    · exact sanitised_of_clean safe clean

/-- One control character: the text is not blank before it is cleaned. -/
theorem bell_let_through :
    ¬∀ (python : Python) (query : String), (checkInput python query).safe = true →
      Sanitised (injectionPatterns.map (Pattern.search python.isWord)) query := by
  intro promised
  have safe : (checkInput (.reading .none) "\x07").safe = true := by decide +kernel
  have kept := promised (.reading .none) "\x07" safe
  have value : (checkInput (.reading .none) "\x07").safe_value = "" := by decide +kernel
  apply kept.nonblank
  rw [← checkInput_against, value]
  rfl

end Guardrails

end HelpForge.Chatbot
