import Mathlib.Algebra.Order.BigOperators.Group.List
import Mathlib.Algebra.Order.Ring.Nat
import Mathlib.Data.List.Flatten
import Mathlib.Tactic.Common

set_option autoImplicit false

/-!
# Event streams

Only the data of the events without a type of their own is of interest.
-/

namespace Lib

/-- The lines of a text, which break as `isBreak` tells; a return with a newline is one break.
`line` is what the current line has so far, and `returned` tells that a return has ended the
line before it. -/
def cutLines (isBreak : Char → Bool) (keepLast : Bool) :
    List Char → Bool → List Char → List (List Char)
  | line, _, [] => if keepLast && !line.isEmpty then [line] else []
  | line, returned, char :: rest =>
    if returned && char == '\n' then cutLines isBreak keepLast line false rest
    else if isBreak char then line :: cutLines isBreak keepLast [] (char == '\r') rest
    else cutLines isBreak keepLast (line ++ [char]) false rest

section Lines

variable {isBreak : Char → Bool} {keepLast : Bool}

theorem cutLines_solid (text rest : List Char) (line : List Char)
    (solid : ∀ char ∈ text, isBreak char = false) :
    cutLines isBreak keepLast line false (text ++ rest) =
      cutLines isBreak keepLast (line ++ text) false rest := by
  induction text generalizing line with
  | nil => rw [List.nil_append, List.append_nil]
  | cons char text ih =>
    have plain := solid char (List.mem_cons_self ..)
    have later := ih (line ++ [char]) fun other member => solid other (List.mem_cons_of_mem _ member)
    simp [cutLines, plain, later]

theorem mem_cutLines (text line : List Char) (returned : Bool)
    (begun : ∀ char ∈ line, isBreak char = false) :
    ∀ cut ∈ cutLines isBreak keepLast line returned text, ∀ char ∈ cut, isBreak char = false := by
  induction text generalizing line returned with
  | nil =>
    intro cut among
    unfold cutLines at among
    split at among
    · rw [List.mem_singleton.mp among]
      exact begun
    · cases among
  | cons char text ih =>
    intro cut among
    unfold cutLines at among
    split at among
    · exact ih line false begun cut among
    split at among
    · rcases List.mem_cons.mp among with rfl | later
      · exact begun
      · exact ih [] _ (by simp) cut later
    · refine ih (line ++ [char]) false ?_ cut among
      intro other member
      rcases List.mem_append.mp member with earlier | last
      · exact begun other earlier
      · rw [List.mem_singleton.mp last]
        simpa using ‹¬isBreak char = true›

theorem cutLines_blank (newline : isBreak '\n' = true) (text rest line : List Char)
    (returned : Bool) (fresh : returned = true → line = []) :
    ∃ lines, cutLines isBreak keepLast line returned (text ++ '\n' :: '\n' :: rest) =
        lines ++ [] :: cutLines isBreak keepLast [] false rest ∧
      lines.flatten = line ++ text.filter (fun char => !isBreak char) ∧
      (line ≠ [] → ∃ more later, lines = (line ++ more) :: later) := by
  induction text generalizing line returned with
  | nil =>
    cases returned with
    | true =>
      obtain rfl := fresh rfl
      exact ⟨[], by simp [cutLines, newline], rfl, fun some => absurd rfl some⟩
    | false => exact ⟨[line], by simp [cutLines, newline], by simp, fun _ => ⟨[], [], by simp⟩⟩
  | cons char text ih =>
    by_cases swallowed : (returned && char == '\n') = true
    · have ⟨back, same⟩ := Bool.and_eq_true_iff.mp swallowed
      obtain ⟨lines, cut, chars, -⟩ := ih line false nofun
      have breaks : isBreak char = true := by rwa [beq_iff_eq.mp same]
      refine ⟨lines, ?_, ?_, fun some => absurd (fresh back) some⟩
      · simpa [cutLines, swallowed] using cut
      · simpa [breaks] using chars
    · by_cases breaks : isBreak char = true
      · obtain ⟨lines, cut, chars, -⟩ := ih [] (char == '\r') fun _ => rfl
        refine ⟨line :: lines, ?_, ?_, fun _ => ⟨[], lines, by simp⟩⟩
        · simpa [cutLines, swallowed, breaks] using cut
        · simpa [breaks] using chars
      · obtain ⟨lines, cut, chars, begun⟩ := ih (line ++ [char]) false nofun
        refine ⟨lines, ?_, ?_, fun _ => ?_⟩
        · simpa [cutLines, swallowed, breaks] using cut
        · simpa [breaks] using chars
        · obtain ⟨more, later, same⟩ := begun (by simp)
          exact ⟨char :: more, later, by simp [same]⟩

end Lines

variable (payload : List Char) (last : List Char) (texts : List (List Char)) (rest : List Char)

namespace EventStream

def isBreak (char : Char) : Bool := char == '\n' || char == '\r'

def dataName : List Char := "data".toList

def opening : List Char := dataName ++ [':', ' ']

def field (line : List Char) : List Char × List Char :=
  let value := (line.dropWhile (· != ':')).drop 1
  (line.takeWhile (· != ':'), if value.head? = some ' ' then value.tail else value)

/-- The data of the events; `type` and `data` are those of the event that has begun. -/
def payloadsFrom : List Char → List (List Char) → List (List Char) → List (List Char)
  | _, _, [] => []
  | type, data, line :: rest =>
    if line = [] then
      if data ≠ [] ∧ (type = [] ∨ type = "message".toList) then
        ['\n'].intercalate data :: payloadsFrom [] [] rest
      else payloadsFrom [] [] rest
    else if (field line).1 = dataName then payloadsFrom type (data ++ [(field line).2]) rest
    else if (field line).1 = "event".toList then payloadsFrom (field line).2 data rest
    else payloadsFrom type data rest

def payloads (text : List Char) : List (List Char) :=
  payloadsFrom [] [] (cutLines isBreak false [] false text)

/-- What the client is handed until the last event comes. -/
def delivered (last : List Char) (text : List Char) : List Char :=
  ((payloads text).takeWhile (· != last)).flatten

def frame (payload : List Char) : List Char := opening ++ payload ++ ['\n', '\n']

def Solid (payload : List Char) : Prop := ∀ char ∈ payload, isBreak char = false

theorem field_opening : field (opening ++ payload) = (dataName, payload) := by
  simp [field, opening, dataName]

theorem solid_of_all (plain : payload.all (fun char => !isBreak char) = true) : Solid payload := by
  simpa [Solid] using plain

theorem opening_solid : Solid opening := solid_of_all opening (by decide)

theorem Solid.append {first second : List Char} (solid : Solid first) (solid' : Solid second) :
    Solid (first ++ second) := by
  intro char member
  rcases List.mem_append.mp member with front | back
  · exact solid char front
  · exact solid' char back

theorem payloads_frame (solid : Solid payload) :
    payloads (frame payload ++ rest) = payload :: payloads rest := by
  have text : frame payload ++ rest = (opening ++ payload) ++ '\n' :: '\n' :: rest := by
    simp [frame]
  have cut : cutLines isBreak false (opening ++ payload) false ('\n' :: '\n' :: rest) =
      (opening ++ payload) :: [] :: cutLines isBreak false [] false rest := by
    simp [cutLines, isBreak]
  have nonempty : opening ++ payload ≠ [] := by simp [opening]
  rw [payloads, text, cutLines_solid _ _ _ (opening_solid.append solid), List.nil_append, cut]
  simp [payloadsFrom, nonempty, field_opening, payloads]

theorem payloads_frames (solid : ∀ text ∈ texts, Solid text) :
    payloads (texts.flatMap frame ++ rest) = texts ++ payloads rest := by
  induction texts with
  | nil => rfl
  | cons text texts ih =>
    rw [List.flatMap_cons, List.append_assoc, payloads_frame _ _ (solid text (by simp)), ih]
    · rfl
    · intro other member
      exact solid other (List.mem_cons_of_mem _ member)

theorem payloads_nil : payloads [] = [] := rfl

theorem delivered_frames (solid : ∀ text ∈ texts, Solid text ∧ text ≠ last) (ended : Solid last) :
    delivered last (texts.flatMap frame ++ frame last) = texts.flatten := by
  have ending : payloads (frame last) = [last] := by
    have framed := payloads_frame last [] ended
    rwa [List.append_nil, payloads_nil] at framed
  rw [delivered, payloads_frames _ _ fun text member => (solid text member).1, ending,
    List.takeWhile_append_of_pos]
  · simp
  · intro text member
    simpa using (solid text member).2

def weight (line : List Char) : Nat :=
  if (field line).1 = dataName then (field line).2.length + 1 else 0

theorem weight_le (line : List Char) : weight line ≤ line.length := by
  unfold weight
  split
  · rename_i named
    have parts := congrArg List.length (List.takeWhile_append_dropWhile (p := (· != ':')) (l := line))
    have name : (line.takeWhile (· != ':')).length = 4 := by
      rw [show line.takeWhile (· != ':') = (field line).1 from rfl, named]
      rfl
    have value : (field line).2.length ≤ (line.dropWhile (· != ':')).length - 1 := by
      unfold field
      simp only
      split <;> simp
    simp only [List.length_append, name] at parts
    by_cases empty : (line.dropWhile (· != ':')).length = 0 <;> omega
  · exact Nat.zero_le _

theorem intercalate_length (data : List (List Char)) (some : data ≠ []) :
    (['\n'].intercalate data).length + 1 = (data.map fun line => line.length + 1).sum := by
  induction data with
  | nil => exact absurd rfl some
  | cons line data ih =>
    cases data with
    | nil => simp
    | cons next data =>
      have later := ih nofun
      simp only [List.intercalate_cons_cons, List.length_append, List.map_cons, List.sum_cons,
        List.length_singleton] at later ⊢
      omega

theorem payloadsFrom_blank (lines rest : List (List Char)) (type : List Char)
    (data : List (List Char)) :
    ∃ found, payloadsFrom type data (lines ++ [] :: rest) = found ++ payloadsFrom [] [] rest ∧
      found.flatten.length + found.length ≤
        (data.map fun line => line.length + 1).sum + (lines.map weight).sum := by
  -- Nothing but data comes out of the lines, and one break less than there are lines of it.
  induction lines generalizing type data with
  | nil =>
    by_cases dispatched : data ≠ [] ∧ (type = [] ∨ type = "message".toList)
    · have length := intercalate_length data dispatched.1
      refine ⟨[['\n'].intercalate data], ?_, ?_⟩
      · rw [List.nil_append, payloadsFrom, if_pos rfl, if_pos dispatched]
        rfl
      · simp only [List.flatten_cons, List.flatten_nil, List.append_nil, List.length_singleton,
          List.map_nil, List.sum_nil]
        omega
    · refine ⟨[], ?_, Nat.zero_le _⟩
      rw [List.nil_append, payloadsFrom, if_pos rfl, if_neg dispatched]
      rfl
  | cons line lines ih =>
    rw [List.cons_append, List.map_cons, List.sum_cons, payloadsFrom]
    by_cases blank : line = []
    · obtain ⟨later, same, bound⟩ := ih [] []
      simp only [List.map_nil, List.sum_nil] at bound
      rw [if_pos blank]
      by_cases dispatched : data ≠ [] ∧ (type = [] ∨ type = "message".toList)
      · have length := intercalate_length data dispatched.1
        refine ⟨['\n'].intercalate data :: later, ?_, ?_⟩
        · rw [if_pos dispatched, same]
          rfl
        · simp only [List.flatten_cons, List.length_append, List.length_cons]
          omega
      · refine ⟨later, ?_, by omega⟩
        rw [if_neg dispatched, same]
    · rw [if_neg blank]
      by_cases named : (field line).1 = dataName
      · obtain ⟨found, same, bound⟩ := ih type (data ++ [(field line).2])
        refine ⟨found, ?_, ?_⟩
        · rw [if_pos named, same]
        · have own : weight line = (field line).2.length + 1 := if_pos named
          simp only [List.map_append, List.sum_append, List.map_cons, List.map_nil, List.sum_cons,
            List.sum_nil] at bound
          omega
      · rw [if_neg named]
        by_cases typed : (field line).1 = "event".toList
        · obtain ⟨found, same, bound⟩ := ih (field line).2 data
          refine ⟨found, ?_, by omega⟩
          rw [if_pos typed, same]
        · obtain ⟨found, same, bound⟩ := ih type data
          refine ⟨found, ?_, by omega⟩
          rw [if_neg typed, same]

theorem delivered_broken (payload : List Char) (ended : Solid last) (broken : ¬Solid payload) :
    delivered last (frame payload ++ frame last) ≠ payload := by
  have text : frame payload ++ frame last =
      (opening ++ payload) ++ '\n' :: '\n' :: frame last := by
    simp [frame]
  obtain ⟨lines, cut, chars, begun⟩ := @cutLines_blank isBreak false rfl payload (frame last)
    opening false nofun
  obtain ⟨more, later, shape⟩ := begun (by simp [opening])
  obtain ⟨found, same, bound⟩ := payloadsFrom_blank lines
    (cutLines isBreak false [] false (frame last)) [] []
  have arrived : payloads (frame payload ++ frame last) = found ++ [last] := by
    have ending := payloads_frame last [] ended
    rw [List.append_nil, payloads_nil, payloads] at ending
    rw [payloads, text, List.append_assoc, cutLines_solid _ _ _ opening_solid, List.nil_append,
      cut, same, ← ending]
  have handed : (delivered last (frame payload ++ frame last)).length ≤ found.flatten.length := by
    have stopped : (found ++ [last]).takeWhile (· != last) = found.takeWhile (· != last) := by
      rw [List.takeWhile_append]
      split
      · rename_i whole
        simp [(List.takeWhile_prefix _).eq_of_length whole]
      · rfl
    rw [delivered, arrived, stopped]
    exact (List.takeWhile_prefix _).sublist.flatten.length_le
  have weights : (lines.map weight).sum + 5 ≤ lines.flatten.length := by
    have first : weight (opening ++ more) = more.length + 1 := by
      rw [weight, field_opening, if_pos rfl]
    have others := List.sum_le_sum fun line (_ : line ∈ later) => weight_le line
    rw [shape, List.map_cons, List.sum_cons, first, List.flatten_cons, List.length_append,
      List.length_append, List.length_flatten, show opening.length = 6 from rfl]
    omega
  have fewer : (payload.filter fun char => !isBreak char).length < payload.length := by
    have breaks : ∃ char ∈ payload, isBreak char = true := by
      simpa [Solid] using broken
    obtain ⟨char, member, breaks⟩ := breaks
    exact List.length_filter_lt_length_iff_exists.mpr ⟨char, member, by simp [breaks]⟩
  have none_found : found.length = 0 → found.flatten.length = 0 := by
    intro none
    rw [List.length_eq_zero_iff.mp none]
    rfl
  have whole := congrArg List.length chars
  rw [List.length_append] at whole
  have front : opening.length = 6 := by decide
  simp only [List.map_nil, List.sum_nil] at bound
  intro unchanged
  rw [unchanged] at handed
  omega

theorem delivered_frame_iff (payload : List Char) (ended : Solid last) (some : last ≠ []) :
    delivered last (frame payload ++ frame last) = payload ↔ Solid payload ∧ payload ≠ last := by
  by_cases solid : Solid payload
  · have whole := payloads_frames [payload, last] [] (by simp [solid, ended])
    have arrived : payloads (frame payload ++ frame last) = [payload, last] := by
      simpa [payloads_nil] using whole
    rw [delivered, arrived]
    by_cases same : payload = last
    · simp [same, some, eq_comm]
    · simp [same, solid]
  · simp [solid, delivered_broken last payload ended solid]

end EventStream

end Lib
