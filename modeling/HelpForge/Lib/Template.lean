import HelpForge.Lib.Separated
import Mathlib.Data.List.Infix
import Mathlib.Data.List.TakeWhile

set_option autoImplicit false

namespace Lib

variable (isWord : Char → Bool)

def placeholder : List Char → Option (List Char × List Char)
  | [] => none
  | first :: rest =>
    if first = '\x7b' ∧ rest.takeWhile isWord ≠ [] ∧
        (rest.dropWhile isWord).head? = some '\x7d' then
      some (rest.takeWhile isWord, (rest.dropWhile isWord).tail)
    else none

def quoted (name : List Char) : List Char := '\x7b' :: name ++ ['\x7d']

theorem quoted_append (name after : List Char) :
    quoted name ++ after = '\x7b' :: (name ++ '\x7d' :: after) := by
  simp [quoted]

def filled (value : List Char → Option (List Char)) (name : List Char) : List Char :=
  (value name).getD (quoted name)

structure Braced (isWord : Char → Bool) : Prop where
  left : isWord '\x7b' = false
  right : isWord '\x7d' = false

def IsName (name : List Char) : Prop := name ≠ [] ∧ ∀ char ∈ name, isWord char = true

def HasPlaceholder (text name : List Char) : Prop := quoted name <:+: text

variable {name : List Char}

theorem placeholder_text {text after : List Char}
    (found : placeholder isWord text = some (name, after)) :
    text = quoted name ++ after ∧ IsName isWord name := by
  cases text with
  | nil => cases found
  | cons first rest =>
    rw [placeholder] at found
    split_ifs at found with here
    obtain ⟨open_, some_, closed⟩ := here
    cases found
    have joined := List.takeWhile_append_dropWhile (p := isWord) (l := rest)
    have closing : rest.dropWhile isWord = '\x7d' :: (rest.dropWhile isWord).tail := by
      cases ends : rest.dropWhile isWord with
      | nil =>
        rw [ends] at closed
        cases closed
      | cons head tail =>
        rw [ends] at closed
        rw [Option.some.inj closed]
        rfl
    refine ⟨?_, some_, fun char member => List.mem_takeWhile_imp member⟩
    rw [open_, quoted_append, ← closing, joined]

theorem placeholder_quoted (braced : Braced isWord) {name : List Char} (named : IsName isWord name)
    (after : List Char) : placeholder isWord (quoted name ++ after) = some (name, after) := by
  have taken : (name ++ '\x7d' :: after).takeWhile isWord = name := by
    rw [List.takeWhile_append_of_pos named.2, List.takeWhile_cons_of_neg (by simp [braced.right]),
      List.append_nil]
  have dropped : (name ++ '\x7d' :: after).dropWhile isWord = '\x7d' :: after := by
    rw [List.dropWhile_append_of_pos named.2, List.dropWhile_cons_of_neg (by simp [braced.right])]
  rw [quoted_append, placeholder, taken, dropped]
  simp [named.1]

theorem placeholder_shorter {text after : List Char}
    (found : placeholder isWord text = some (name, after)) : after.length < text.length := by
  obtain ⟨whole, _⟩ := placeholder_text isWord found
  rw [whole]
  simp only [quoted, List.cons_append, List.length_cons, List.length_append]
  omega

/-- Each placeholder whose name has a value is replaced; anything else stays. -/
def substitute (value : List Char → Option (List Char)) : List Char → List Char
  | [] => []
  | first :: rest =>
    match _found : placeholder isWord (first :: rest) with
    | some (name, after) => filled value name ++ substitute value after
    | none => first :: substitute value rest
termination_by text => text.length
decreasing_by
  · exact placeholder_shorter isWord _found
  · exact Nat.lt_succ_self _

theorem substitute_placeholder (braced : Braced isWord) (value : List Char → Option (List Char))
    (named : IsName isWord name) (after : List Char) :
    substitute isWord value (quoted name ++ after) =
      filled value name ++ substitute isWord value after := by
  have found := placeholder_quoted isWord braced named after
  rw [quoted, List.cons_append, List.cons_append] at found ⊢
  rw [substitute]
  split
  next other rest begins =>
    rw [found] at begins
    cases begins
    rfl
  next none_ =>
    rw [found] at none_
    cases none_

variable (value : List Char → Option (List Char)) (first : Char) (rest : List Char)

theorem substitute_other (other : placeholder isWord (first :: rest) = none) :
    substitute isWord value (first :: rest) = first :: substitute isWord value rest := by
  rw [substitute]
  split
  next name after found =>
    rw [other] at found
    cases found
  next => rfl

theorem placeholder_of_ne (other : first ≠ '\x7b') : placeholder isWord (first :: rest) = none := by
  rw [placeholder, if_neg fun here => other here.1]

theorem substitute_plain (text rest : List Char) (plain : '\x7b' ∉ text) :
    substitute isWord value (text ++ rest) = text ++ substitute isWord value rest := by
  induction text with
  | nil => rfl
  | cons first later ih =>
    rw [List.mem_cons, not_or] at plain
    rw [List.cons_append, substitute_other isWord value first _
      (placeholder_of_ne isWord first _ (Ne.symm plain.1)), ih plain.2]
    rfl

theorem placeholder_unclosed {word rest : List Char} (word_ : ∀ char ∈ word, isWord char = true)
    (stops : ∀ char, rest.head? = some char → isWord char = false)
    (unclosed : word = [] ∨ rest.head? ≠ some '\x7d') :
    placeholder isWord ('\x7b' :: (word ++ rest)) = none := by
  have taken : (word ++ rest).takeWhile isWord = word ∧ (word ++ rest).dropWhile isWord = rest := by
    rw [List.takeWhile_append_of_pos word_, List.dropWhile_append_of_pos word_]
    cases rest with
    | nil => simp
    | cons first later =>
      have stop := stops first rfl
      rw [List.takeWhile_cons_of_neg (by simp [stop]), List.dropWhile_cons_of_neg (by simp [stop])]
      simp
  rw [placeholder, taken.1, taken.2, if_neg]
  rintro ⟨_, some_, closed⟩
  rcases unclosed with empty | open_
  · exact some_ empty
  · exact open_ closed

theorem substitute_unclosed (braced : Braced isWord) (value : List Char → Option (List Char))
    {word rest : List Char} (word_ : ∀ char ∈ word, isWord char = true)
    (stops : ∀ char, rest.head? = some char → isWord char = false)
    (unclosed : word = [] ∨ rest.head? ≠ some '\x7d') :
    substitute isWord value ('\x7b' :: (word ++ rest)) =
      '\x7b' :: (word ++ substitute isWord value rest) := by
  have plain : '\x7b' ∉ word := fun member => by
    have same := word_ _ member
    rw [braced.left] at same
    cases same
  rw [substitute_other isWord value _ _ (placeholder_unclosed isWord word_ stops unclosed),
    substitute_plain isWord value word rest plain]

theorem hasPlaceholder_later {text later : List Char} (suffix : later <:+ text)
    (has : HasPlaceholder later name) : HasPlaceholder text name :=
  has.trans suffix.isInfix

theorem hasPlaceholder_quoted (braced : Braced isWord) {first after : List Char}
    (named : IsName isWord first) (named' : IsName isWord name)
    (has : HasPlaceholder (quoted first ++ after) name) :
    first = name ∨ HasPlaceholder after name := by
  obtain ⟨before, later, whole⟩ := has
  have closed : ∀ word, IsName isWord word → '\x7d' ∉ word := fun word named member => by
    have same := named.2 _ member
    rw [braced.right] at same
    cases same
  rw [quoted_append, List.append_assoc, quoted_append] at whole
  cases before with
  | nil =>
    have chars := (List.cons.inj whole).2
    exact .inl (cut_at_first _ _ _ _ _ (closed name named') (closed first named) chars).1.symm
  | cons brace before =>
    have rest : before ++ ('\x7b' :: (name ++ '\x7d' :: later)) = (first ++ ['\x7d']) ++ after := by
      simpa using (List.cons.inj whole).2
    have unopened : '\x7b' ∉ first ++ ['\x7d'] := by
      intro member
      rcases List.mem_append.mp member with inside | closing
      · have same := named.2 _ inside
        rw [braced.left] at same
        cases same
      · exact absurd (List.mem_singleton.mp closing) (by decide)
    rcases List.append_eq_append_iff.mp rest with ⟨cut, inside, tail⟩ | ⟨cut, _, inside⟩
    · cases cut with
      | nil => exact .inr ⟨[], later, by rw [List.nil_append, quoted_append]; exact tail⟩
      | cons head others =>
        have head_ := (List.cons.inj tail).1
        rw [inside, head_] at unopened
        exact absurd (List.mem_append_right _ (List.mem_cons_self ..)) unopened
    · exact .inr ⟨cut, later, by rw [inside, List.append_assoc, quoted_append]⟩

theorem hasPlaceholder_other (braced : Braced isWord) {first : Char} {rest : List Char}
    (other : placeholder isWord (first :: rest) = none) (named : IsName isWord name)
    (has : HasPlaceholder (first :: rest) name) : HasPlaceholder rest name := by
  obtain ⟨before, later, whole⟩ := has
  cases before with
  | nil =>
    rw [List.nil_append] at whole
    rw [← whole, placeholder_quoted isWord braced named] at other
    cases other
  | cons head before =>
    rw [List.cons_append, List.cons_append] at whole
    exact ⟨before, later, (List.cons.inj whole).2⟩

theorem substitute_congr (other : List Char → Option (List Char)) (text : List Char)
    (same : ∀ name, IsName isWord name → HasPlaceholder text name →
      filled value name = filled other name) :
    substitute isWord value text = substitute isWord other text := by
  induction text using substitute.induct isWord with
  | case1 => rw [substitute, substitute]
  | case2 first rest name after found ih =>
    obtain ⟨whole, named⟩ := placeholder_text isWord found
    have later := ih fun other named' has =>
      same other named' (hasPlaceholder_later ⟨quoted name, whole.symm⟩ has)
    have here := same name named ⟨[], after, by rw [whole]; rfl⟩
    rw [substitute, substitute]
    split
    next name' after' found' =>
      cases found.symm.trans found'
      rw [here, later]
    next none_ =>
      rw [found] at none_
      cases none_
  | case3 first rest none_ ih =>
    rw [substitute_other isWord value first rest none_, substitute_other isWord other first rest
      none_, ih fun name named has => same name named (has.trans (List.suffix_cons ..).isInfix)]

theorem substitute_longer (braced : Braced isWord) (value other : List Char → Option (List Char))
    (text name : List Char) (named : IsName isWord name) (has : HasPlaceholder text name)
    (longer : (filled value name).length < (filled other name).length)
    (least : ∀ name, IsName isWord name →
      (filled value name).length ≤ (filled other name).length) :
    (substitute isWord value text).length < (substitute isWord other text).length := by
  have atMost : ∀ text, (substitute isWord value text).length ≤
      (substitute isWord other text).length := by
    intro text
    induction text using substitute.induct isWord with
    | case1 => rw [substitute, substitute]
    | case2 first rest name after found ih =>
      obtain ⟨whole, named⟩ := placeholder_text isWord found
      have here := least name named
      rw [whole, substitute_placeholder isWord braced value named,
        substitute_placeholder isWord braced other named, List.length_append, List.length_append]
      omega
    | case3 first rest none_ ih =>
      rw [substitute_other isWord value first rest none_, substitute_other isWord other first rest
        none_, List.length_cons, List.length_cons]
      omega
  induction text using substitute.induct isWord with
  | case1 =>
    have empty := has.length_le
    simp [quoted] at empty
  | case2 first rest name' after found ih =>
    obtain ⟨whole, named'⟩ := placeholder_text isWord found
    have here := least name' named'
    have rest := atMost after
    rw [whole] at has ⊢
    rw [substitute_placeholder isWord braced value named',
      substitute_placeholder isWord braced other named', List.length_append, List.length_append]
    rcases hasPlaceholder_quoted isWord braced named' named has with same | later
    · rw [same]
      omega
    · have more := ih later
      omega
  | case3 first rest none_ ih =>
    have more := ih (hasPlaceholder_other isWord braced none_ named has)
    rw [substitute_other isWord value first rest none_, substitute_other isWord other first rest
      none_, List.length_cons, List.length_cons]
    omega

end Lib
