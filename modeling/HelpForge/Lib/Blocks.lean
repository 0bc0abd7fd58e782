import Mathlib.Data.List.Infix
import Mathlib.Tactic.Common

set_option autoImplicit false

namespace Lib

variable {text : List Char}

namespace Blocks

/-- The blocks that are complete, and what is left; `line` is what the block has so far. -/
def splitPop : List Char → List Char → List (List Char) × List Char
  | line, '\n' :: '\n' :: rest => (line :: (splitPop [] rest).1, (splitPop [] rest).2)
  | line, char :: rest => splitPop (line ++ [char]) rest
  | line, [] => ([], line)

def blocks (text : List Char) : List (List Char) := (splitPop [] text).1

def remainder (text : List Char) : List Char := (splitPop [] text).2

def Unbroken (text : List Char) : Prop := ¬['\n', '\n'] <:+: text

theorem splitPop_break (line rest : List Char) :
    splitPop line ('\n' :: '\n' :: rest) = (line :: blocks rest, remainder rest) := by
  rw [splitPop]
  rfl

theorem splitPop_char {char : Char} {rest : List Char} (line : List Char)
    (goes : char = '\n' → rest.head? ≠ some '\n') :
    splitPop line (char :: rest) = splitPop (line ++ [char]) rest := by
  rw [splitPop]
  intro _ same again
  exact goes same (by rw [again]; rfl)

theorem splitPop_chars (line rest : List Char) (plain : ∀ char ∈ text, char ≠ '\n') :
    splitPop line (text ++ rest) = splitPop (line ++ text) rest := by
  induction text generalizing line with
  | nil => rw [List.nil_append, List.append_nil]
  | cons char text ih =>
    rw [List.cons_append, splitPop_char _ fun same => absurd same (plain char List.mem_cons_self),
      ih _ fun other member => plain other (List.mem_cons_of_mem _ member)]
    simp

theorem splitPop_append (first second line : List Char)
    (whole : ∀ more, splitPop [] (line ++ more) = splitPop line more) :
    splitPop line (first ++ second) =
      ((splitPop line first).1 ++ blocks ((splitPop line first).2 ++ second),
        remainder ((splitPop line first).2 ++ second)) := by
  match first with
  | [] =>
    rw [List.nil_append, ← whole second]
    rfl
  | char :: rest =>
    by_cases newline : char = '\n'
    · subst newline
      match rest with
      | [] =>
        rw [List.singleton_append, ← whole]
        have goes : splitPop line ['\n'] = ([], line ++ ['\n']) := rfl
        rw [goes]
        simp [blocks, remainder]
      | next :: rest =>
        by_cases again : next = '\n'
        · subst again
          have later := splitPop_append rest second [] fun _ => rfl
          rw [List.cons_append, List.cons_append, splitPop_break, splitPop_break, blocks,
            remainder, later]
          rfl
        · have goes (more : List Char) : splitPop line ('\n' :: next :: more) =
              splitPop (line ++ ['\n', next]) more := by
            rw [splitPop_char _ fun _ same => again (Option.some.inj (List.head?_cons ▸ same)),
              splitPop_char _ fun same => absurd same again, List.append_assoc]
            rfl
          have later := splitPop_append rest second (line ++ ['\n', next]) fun more => by
            rw [List.append_assoc, ← goes, ← whole]
            rfl
          rw [List.cons_append, List.cons_append, goes, goes, later]
    · have goes (more : List Char) : splitPop line (char :: more) =
          splitPop (line ++ [char]) more := splitPop_char _ fun same => absurd same newline
      have later := splitPop_append rest second (line ++ [char]) fun more => by
        rw [List.append_assoc, ← goes, ← whole]
        rfl
      rw [List.cons_append, goes, goes, later]

theorem blocks_append (first second : List Char) :
    blocks (first ++ second) = blocks first ++ blocks (remainder first ++ second) :=
  congrArg Prod.fst (splitPop_append first second [] fun _ => rfl)

theorem blocks_remainder (text : List Char) : blocks (remainder text) = [] := by
  have twice := blocks_append text []
  rw [List.append_nil, List.append_nil] at twice
  exact (List.append_right_eq_self.mp twice.symm)

def Gap (gap : List Char) : Prop := gap = [] ∨ gap = ['\n']

theorem splitPop_ended (text rest line : List Char) :
    ∃ first others gap, Gap gap ∧
      splitPop line (text ++ '\n' :: '\n' :: rest) =
        ((line ++ first) :: others ++ blocks (gap ++ rest), remainder (gap ++ rest)) ∧
      first <+: text ∧
      first.length + others.flatten.length + 2 * others.length + gap.length = text.length := by
  match text with
  | [] => exact ⟨[], [], [], .inl rfl, by simp [splitPop_break], List.prefix_rfl, rfl⟩
  | char :: text =>
    by_cases newline : char = '\n'
    · subst newline
      match text with
      | [] =>
        refine ⟨[], [], ['\n'], .inr rfl, ?_, List.nil_prefix, rfl⟩
        rw [List.singleton_append, splitPop_break]
        simp
      | next :: text =>
        by_cases again : next = '\n'
        · subst again
          obtain ⟨first, others, gap, short, split, -, size⟩ := splitPop_ended text rest []
          refine ⟨[], first :: others, gap, short, ?_, List.nil_prefix, ?_⟩
          · rw [List.cons_append, List.cons_append, splitPop_break, blocks, remainder, split]
            simp
          · simp only [List.flatten_cons, List.length_append, List.length_cons,
              List.length_nil] at size ⊢
            omega
        · obtain ⟨first, others, gap, short, split, front, size⟩ :=
            splitPop_ended text rest (line ++ ['\n', next])
          refine ⟨'\n' :: next :: first, others, gap, short, ?_, ?_, ?_⟩
          · rw [List.cons_append, List.cons_append,
              splitPop_char _ fun _ same => again (Option.some.inj (List.head?_cons ▸ same)),
              splitPop_char _ fun same => absurd same again, List.append_assoc]
            simpa using split
          · simpa using front
          · simp only [List.length_cons] at size ⊢
            omega
    · obtain ⟨first, others, gap, short, split, front, size⟩ :=
        splitPop_ended text rest (line ++ [char])
      refine ⟨char :: first, others, gap, short, ?_, ?_, ?_⟩
      · rw [List.cons_append, splitPop_char _ fun same => absurd same newline]
        simpa using split
      · simpa using front
      · simp only [List.length_cons] at size ⊢
        omega

theorem unbroken_of_whole {rest line : List Char} {others : List (List Char)}
    (split : (splitPop line (text ++ '\n' :: '\n' :: rest)).1 = (line ++ text) :: others) :
    Unbroken text := by
  rintro ⟨before, after, rfl⟩
  obtain ⟨first, others', gap, -, split', front, -⟩ :=
    splitPop_ended before (after ++ '\n' :: '\n' :: rest) line
  have same : before ++ ['\n', '\n'] ++ after ++ '\n' :: '\n' :: rest =
      before ++ '\n' :: '\n' :: (after ++ '\n' :: '\n' :: rest) := by simp
  rw [same, split'] at split
  have lengths := congrArg List.length (List.cons.inj split).1
  have short := front.length_le
  simp only [List.length_append, List.length_cons, List.length_nil] at lengths
  omega

theorem splitPop_whole (rest line : List Char) (unbroken : Unbroken text)
    (ends : text.getLast? ≠ some '\n') :
    splitPop line (text ++ '\n' :: '\n' :: rest) =
      ((line ++ text) :: blocks rest, remainder rest) := by
  induction text generalizing line with
  | nil => rw [List.nil_append, splitPop_break, List.append_nil]
  | cons char text ih =>
    have later : Unbroken text := fun inside =>
      unbroken (inside.trans (List.suffix_cons char text).isInfix)
    have goes : char = '\n' → (text ++ '\n' :: '\n' :: rest).head? ≠ some '\n' := by
      rintro rfl same
      cases text with
      | nil => exact ends rfl
      | cons next more =>
        obtain rfl : next = '\n' := Option.some.inj (List.head?_cons ▸ same)
        exact unbroken ⟨[], more, rfl⟩
    have last : text.getLast? ≠ some '\n' := by
      cases text with
      | nil => nofun
      | cons next more => rwa [List.getLast?_cons_cons] at ends
    rw [List.cons_append, splitPop_char _ goes, ih _ later last]
    simp

end Blocks

end Lib
