import HelpForge.Chatbot.Agent.Decision
import Mathlib.Data.List.Infix
import Mathlib.Data.List.TakeWhile
import Mathlib.Data.Nat.Find

set_option autoImplicit false

namespace HelpForge.Chatbot

variable (python : Python)

def Bracketed (text : List Char) : Prop := ∃ inner, text = '{' :: (inner ++ ['}'])

def IsObject (object : List Char) (value : Value) : Prop :=
  Bracketed object ∧ python.loads (String.ofList object) = .ok value

def ObjectAt (text before : List Char) (value : Value) : Prop :=
  ∃ object after, text = before ++ object ++ after ∧ IsObject python object value

def FirstObject (text : List Char) (value : Value) : Prop :=
  ∃ before, ObjectAt python text before value ∧
    ∀ other value', ObjectAt python text other value' → before.length ≤ other.length

def HasObject (text : List Char) : Prop := ∃ before value, ObjectAt python text before value

/-- What `json.loads` does with objects: they stand between braces, such a text holds
nothing else, and none is the beginning of another. -/
structure ReadsObjects (python : Python) : Prop where
  bracketed : ∀ text entries, strip text = text →
    python.loads (String.ofList text) = .ok (.dict entries) → Bracketed text
  dict : ∀ object value, IsObject python object value → ∃ entries, value = .dict entries
  ends : ∀ object other value value', IsObject python object value →
    IsObject python other value' → object <+: other → object = other

variable {text : List Char} {value : Value}

theorem FirstObject.unique {python : Python} (reads : ReadsObjects python) {other : Value}
    (first : FirstObject python text value) (second : FirstObject python text other) :
    value = other := by
  obtain ⟨before, ⟨object, after, whole, is⟩, least⟩ := first
  obtain ⟨before', ⟨object', after', whole', is'⟩, least'⟩ := second
  have there : ObjectAt python text before value := ⟨object, after, whole, is⟩
  have there' : ObjectAt python text before' other := ⟨object', after', whole', is'⟩
  have lengths : before.length = before'.length :=
    Nat.le_antisymm (least _ _ there') (least' _ _ there)
  rw [whole, List.append_assoc, List.append_assoc] at whole'
  obtain ⟨_, rest⟩ := List.append_inj whole' lengths
  have same : object = object' := by
    rcases List.prefix_or_prefix_of_prefix (List.prefix_append object after)
      (rest ▸ List.prefix_append object' after') with shorter | longer
    · exact reads.ends _ _ _ _ is is' shorter
    · exact (reads.ends _ _ _ _ is' is longer).symm
  have loaded := is.2
  rw [same, is'.2] at loaded
  exact (Except.ok.inj loaded).symm

theorem HasObject.first {python : Python} (has : HasObject python text) :
    ∃ value, FirstObject python text value := by
  classical
  have somewhere : ∃ size before value, before.length = size ∧ ObjectAt python text before value := by
    obtain ⟨before, value, there⟩ := has
    exact ⟨before.length, before, value, rfl, there⟩
  obtain ⟨before, value, size, there⟩ := Nat.find_spec somewhere
  refine ⟨value, before, there, fun other value' there' => ?_⟩
  rw [size]
  exact Nat.find_min' somewhere ⟨other, value', rfl, there'⟩

theorem FirstObject.of_clear {before object after : List Char}
    (whole : text = before ++ object ++ after) (is : IsObject python object value)
    (clear : '{' ∉ before) : FirstObject python text value := by
  refine ⟨before, ⟨object, after, whole, is⟩, fun other value' there => ?_⟩
  obtain ⟨object', after', whole', ⟨inner, braces⟩, _⟩ := there
  by_contra shorter
  have cut : other ++ ('{' :: (inner ++ ['}'] ++ after')) = before ++ (object ++ after) := by
    rw [← List.append_assoc before, ← whole, whole', braces]
    simp
  rcases List.append_eq_append_iff.mp cut with ⟨middle, inside, tail⟩ | ⟨middle, inside, _⟩
  · cases middle with
    | nil =>
      rw [List.append_nil] at inside
      rw [inside] at shorter
      omega
    | cons head rest =>
      have brace := (List.cons.inj tail).1
      rw [inside, ← brace] at clear
      exact clear (List.mem_append_right _ (List.mem_cons_self ..))
  · rw [inside, List.length_append] at shorter
    omega

theorem strip_between (text : List Char) :
    ∃ before after, text = before ++ strip text ++ after ∧ ∀ char ∈ before, isSpace char = true := by
  have whole := List.takeWhile_append_dropWhile (p := isSpace) (l := text)
  have rest := List.takeWhile_append_dropWhile (p := isSpace)
    (l := (text.dropWhile isSpace).reverse)
  refine ⟨text.takeWhile isSpace, ((text.dropWhile isSpace).reverse.takeWhile isSpace).reverse, ?_,
    fun char member => List.mem_takeWhile_imp member⟩
  have ends : strip text ++ ((text.dropWhile isSpace).reverse.takeWhile isSpace).reverse =
      text.dropWhile isSpace := by
    rw [strip, ← List.reverse_append, rest, List.reverse_reverse]
  rw [List.append_assoc, ends, whole]

theorem whole_first (reads : ReadsObjects python) (text : List Char) (entries : Dict Value)
    (loaded : python.loads (String.ofList (strip text)) = .ok (.dict entries)) :
    FirstObject python text (.dict entries) := by
  obtain ⟨before, after, whole, spaces⟩ := strip_between text
  have braces := reads.bracketed _ _ (strip_strip text) loaded
  refine FirstObject.of_clear python whole ⟨braces, loaded⟩ fun member => ?_
  exact absurd (spaces _ member) (by decide)

theorem dropWhile_found (char : Char) (member : char ∈ text) :
    ∃ before after, text = before ++ char :: after ∧ char ∉ before ∧
      text.dropWhile (· != char) = char :: after := by
  obtain ⟨before, after, whole, clear⟩ := List.eq_append_cons_of_mem member
  refine ⟨before, after, whole, clear, ?_⟩
  have skipped : ∀ other ∈ before, (other != char) = true := fun other there => by
    simpa using fun same : other = char => clear (same ▸ there)
  rw [whole, List.dropWhile_append_of_pos skipped, List.dropWhile_cons_of_neg (by simp)]

theorem jsonObject_between {object : List Char} (found : jsonObject text = some object) :
    Bracketed object ∧ ∃ before after, text = before ++ object ++ after ∧ '{' ∉ before := by
  unfold jsonObject at found
  dsimp only at found
  split_ifs at found with closed
  have closing : '}' ∈ text.dropWhile (· != '{') := by simpa using closed
  have open_ : '{' ∈ text := by
    by_contra absent
    have none_ : text.dropWhile (· != '{') = [] := by
      rw [List.dropWhile_eq_nil_iff]
      intro char member
      simpa using fun same : char = '{' => absent (same ▸ member)
    rw [none_] at closing
    cases closing
  obtain ⟨before, rest, whole, clear, opened⟩ := dropWhile_found '{' open_
  rw [opened] at found closing
  obtain ⟨after, inner, reversed, _, last⟩ := dropWhile_found '}' (List.mem_reverse.mpr closing)
  rw [last] at found
  have ends : '{' :: rest = inner.reverse ++ '}' :: after.reverse := by
    have turned := congrArg List.reverse reversed
    simpa using turned
  have object_ : inner.reverse ++ ['}'] = object := by simpa using Option.some.inj found
  refine ⟨?_, before, after.reverse, ?_, clear⟩
  · rw [← object_]
    cases first : inner.reverse with
    | nil =>
      rw [first] at ends
      exact absurd (List.cons.inj ends).1 (by decide)
    | cons head tail =>
      rw [first] at ends
      exact ⟨tail, by rw [← (List.cons.inj ends).1]; rfl⟩
  · rw [whole, ends, ← object_]
    simp

theorem untilFence_bracketed (taken text block : List Char)
    (found : untilFence taken text = some block) :
    ∃ more after, text = more ++ '}' :: after ∧ block = taken.reverse ++ more ++ ['}'] := by
  induction text generalizing taken with
  | nil => cases found
  | cons char rest ih =>
    rw [untilFence] at found
    split_ifs at found with fence
    · cases found
      exact ⟨[], rest, by rw [fence.1]; rfl, by rw [fence.1]; simp⟩
    · obtain ⟨more, after, whole, block_⟩ := ih (char :: taken) found
      exact ⟨char :: more, after, by rw [whole]; rfl, by rw [block_]; simp⟩

variable {block : List Char}

theorem blockAt_between (found : blockAt text = some block) :
    Bracketed block ∧ block <:+: text := by
  have dropped : ∀ body : List Char, body <:+ text → body.dropWhile isSpace <:+ text :=
    fun body suffix => (List.dropWhile_suffix _).trans suffix
  have inner : ∀ body rest : List Char, body <:+ text → body.dropWhile isSpace = '{' :: rest →
      untilFence ['{'] rest = some block → Bracketed block ∧ block <:+: text := by
    intro body rest suffix begins found
    obtain ⟨more, after, whole, rfl⟩ := untilFence_bracketed _ _ _ found
    refine ⟨⟨more, rfl⟩, ?_⟩
    have inside := dropped body suffix
    rw [begins, whole] at inside
    refine List.IsInfix.trans ⟨[], after, ?_⟩ inside.isInfix
    simp
  unfold blockAt at found
  split_ifs at found with fence
  dsimp only at found
  split_ifs at found with json
  · split at found
    next rest begins =>
      exact inner _ rest ((List.drop_suffix _ _).trans (List.drop_suffix _ _)) begins found
    next => cases found
  · split at found
    next rest begins => exact inner _ rest (List.drop_suffix _ _) begins found
    next => cases found

theorem jsonBlock_between (found : jsonBlock text = some block) :
    Bracketed block ∧ block <:+: text := by
  induction text with
  | nil => cases found
  | cons char rest ih =>
    rw [jsonBlock] at found
    cases here : blockAt (char :: rest) with
    | some other =>
      rw [here] at found
      cases found
      exact blockAt_between here
    | none =>
      rw [here] at found
      obtain ⟨braces, within⟩ := ih found
      exact ⟨braces, within.trans (List.suffix_cons ..).isInfix⟩

/-- The first object of the text, nothing but objects, and `ValueError` where there is none. -/
structure FindsFirst (text : List Char) (result : Except PyError Value) : Prop where
  first : ∀ value, FirstObject python text value → result = .ok value
  object : ∀ value, result = .ok value → ∃ entries, value = .dict entries
  none_ : ¬ HasObject python text → ∃ error, result = .error error ∧ error.isValueError = true

def SpanDecides (text : List Char) : Prop :=
  match (jsonObject text).map fun span => python.loads (String.ofList span) with
  | some (.ok _) => True
  | some (.error error) => error.isValueError = true ∧ ¬ HasObject python text
  | none => ¬ HasObject python text

def BlockDecides (text : List Char) : Prop :=
  match (jsonBlock text).map fun block => python.loads (String.ofList block) with
  | some (.ok value) => ∀ first, FirstObject python text first → first = value
  | some (.error error) => error.isValueError = true ∧ SpanDecides python text
  | none => SpanDecides python text

/-- The whole text is JSON and an object, or it is none and the block decides. -/
def WholeDecides (text : List Char) : Prop :=
  match python.loads (String.ofList (strip text)) with
  | .ok value => ∃ entries, value = .dict entries
  | .error error => error.isValueError = true ∧ BlockDecides python text

variable {python}

theorem HasObject.of_first (first : FirstObject python text value) : HasObject python text := by
  obtain ⟨before, there, _⟩ := first
  exact ⟨before, value, there⟩

theorem finds_ok_iff (is : ∃ entries, value = .dict entries) (has : HasObject python text) :
    FindsFirst python text (.ok value) ↔ ∀ first, FirstObject python text first → first = value := by
  constructor
  · intro finds first there
    exact (Except.ok.inj (finds.first first there)).symm
  · intro same
    refine ⟨fun other there => ?_, fun other eq => ?_, fun none_ => absurd has none_⟩
    · rw [same other there]
    · exact Except.ok.inj eq ▸ is

theorem finds_error_iff (error : PyError) :
    FindsFirst python text (.error error) ↔
      error.isValueError = true ∧ ¬ HasObject python text := by
  constructor
  · intro finds
    have absent : ¬ HasObject python text := fun has => by
      obtain ⟨value, first⟩ := has.first
      cases finds.first value first
    obtain ⟨other, same, is⟩ := finds.none_ absent
    cases same
    exact ⟨is, absent⟩
  · rintro ⟨is, absent⟩
    exact ⟨fun value first => absurd (HasObject.of_first first) absent, nofun,
      fun _ => ⟨error, rfl, is⟩⟩

theorem finds_first (reads : ReadsObjects python) (is : ∃ entries, value = .dict entries)
    (first : FirstObject python text value) : FindsFirst python text (.ok value) :=
  (finds_ok_iff is (HasObject.of_first first)).mpr fun _ there =>
    there.unique reads first

variable (candidate : List Char) (otherwise : Except PyError Value)

theorem attempt_loaded (loaded : python.loads (String.ofList candidate) = .ok value) :
    extractJson.attempt python (some candidate) otherwise = .ok value := by
  rw [extractJson.attempt, loaded]

variable {error : PyError}

theorem attempt_failed (failed : python.loads (String.ofList candidate) = .error error) :
    extractJson.attempt python (some candidate) otherwise =
      if error.isValueError then otherwise else .error error := by
  rw [extractJson.attempt, failed]

/-- A failure that is no `ValueError` goes through; after another one the next text decides. -/
theorem finds_attempt_failed {candidate : List Char} {otherwise : Except PyError Value}
    {decides : Prop} (failed : python.loads (String.ofList candidate) = .error error)
    (next : FindsFirst python text otherwise ↔ decides) :
    FindsFirst python text (extractJson.attempt python (some candidate) otherwise) ↔
      error.isValueError = true ∧ decides := by
  rw [attempt_failed candidate otherwise failed]
  cases is : error.isValueError with
  | true => simpa using next
  | false =>
    simp only [Bool.false_eq_true, if_false, false_and, iff_false]
    intro finds
    have is_ := ((finds_error_iff error).mp finds).1
    rw [is] at is_
    cases is_

theorem span_finds_iff (reads : ReadsObjects python) (text : List Char) (error : PyError)
    (is : error.isValueError = true) :
    FindsFirst python text (extractJson.attempt python (jsonObject text) (.error error)) ↔
      SpanDecides python text := by
  have absent : FindsFirst python text (.error error) ↔ ¬ HasObject python text := by
    rw [finds_error_iff]
    simp [is]
  unfold SpanDecides
  cases found : jsonObject text with
  | none => exact absent
  | some span =>
    obtain ⟨braces, before, after, whole, clear⟩ := jsonObject_between found
    simp only [Option.map_some]
    cases loaded : python.loads (String.ofList span) with
    | error failure => exact finds_attempt_failed loaded absent
    | ok value =>
      rw [attempt_loaded span _ loaded]
      have first := FirstObject.of_clear python whole ⟨braces, loaded⟩ clear
      exact iff_of_true (finds_first reads (reads.dict span value ⟨braces, loaded⟩) first) trivial

theorem block_finds_iff (reads : ReadsObjects python) (text : List Char) (error : PyError)
    (is : error.isValueError = true) :
    FindsFirst python text (extractJson.attempt python (jsonBlock text)
        (extractJson.attempt python (jsonObject text) (.error error))) ↔
      BlockDecides python text := by
  have span := span_finds_iff reads text error is
  unfold BlockDecides
  cases found : jsonBlock text with
  | none => exact span
  | some block =>
    obtain ⟨braces, before, after, whole⟩ := jsonBlock_between found
    simp only [Option.map_some]
    cases loaded : python.loads (String.ofList block) with
    | error failure => exact finds_attempt_failed loaded span
    | ok value =>
      rw [attempt_loaded block _ loaded]
      exact finds_ok_iff (reads.dict block value ⟨braces, loaded⟩)
        ⟨before, value, block, after, whole.symm, braces, loaded⟩

/-- The first object is found exactly where the text that settles the matter is the right
one. -/
theorem extractJson_finds_iff (reads : ReadsObjects python) (text : String) :
    FindsFirst python text.toList (extractJson python text) ↔
      WholeDecides python text.toList := by
  have block := block_finds_iff reads text.toList ⟨"ValueError",
    "No valid JSON found in LLM output (first 300 chars): " ++
      python.repr (String.ofList (text.toList.take 300))⟩ rfl
  unfold WholeDecides extractJson
  cases loaded : python.loads (String.ofList (strip text.toList)) with
  | error failure => exact finds_attempt_failed loaded block
  | ok value =>
    rw [attempt_loaded _ _ loaded]
    constructor
    · intro finds
      exact finds.object value rfl
    · rintro ⟨entries, rfl⟩
      exact finds_first reads ⟨entries, rfl⟩ (whole_first python reads text.toList entries loaded)

/-- An interpreter that reads a number in brackets and two objects. -/
def twoObjects : Python :=
  { Python.reading .none with
    loads := fun text =>
      if text = "[1]" then .ok (.list [.int 1])
      else if text = "\x7b\"a\": 1\x7d" then .ok (.dict [("a", .int 1)])
      else if text = "\x7b\"b\": 2\x7d" then .ok (.dict [("b", .int 2)])
      else .error ⟨"JSONDecodeError", ""⟩ }

theorem twoObjects_loads (text : List Char) (value : Value)
    (loaded : twoObjects.loads (String.ofList text) = .ok value) :
    (text = "[1]".toList ∧ value = .list [.int 1]) ∨
      (text = "\x7b\"a\": 1\x7d".toList ∧ value = .dict [("a", .int 1)]) ∨
      (text = "\x7b\"b\": 2\x7d".toList ∧ value = .dict [("b", .int 2)]) := by
  have chars : ∀ other : String, String.ofList text = other → text = other.toList := by
    rintro other rfl
    exact String.toList_ofList.symm
  unfold twoObjects at loaded
  dsimp only at loaded
  split_ifs at loaded with list first second
  · exact .inl ⟨chars _ list, (Except.ok.inj loaded).symm⟩
  · exact .inr (.inl ⟨chars _ first, (Except.ok.inj loaded).symm⟩)
  · exact .inr (.inr ⟨chars _ second, (Except.ok.inj loaded).symm⟩)

theorem twoObjects_reads : ReadsObjects twoObjects where
  bracketed text entries _ loaded := by
    rcases twoObjects_loads text _ loaded with ⟨_, list⟩ | ⟨rfl, _⟩ | ⟨rfl, _⟩
    · cases list
    · exact ⟨"\"a\": 1".toList, by decide⟩
    · exact ⟨"\"b\": 2".toList, by decide⟩
  dict object value is := by
    obtain ⟨⟨inner, braces⟩, loaded⟩ := is
    rcases twoObjects_loads object _ loaded with ⟨list, _⟩ | ⟨_, rfl⟩ | ⟨_, rfl⟩
    · rw [list] at braces
      exact absurd (List.cons.inj braces).1 (by decide)
    · exact ⟨_, rfl⟩
    · exact ⟨_, rfl⟩
  ends object other value value' is is' shorter := by
    have size : ∀ text value, IsObject twoObjects text value → text.length = 8 := by
      rintro text value ⟨⟨inner, braces⟩, loaded⟩
      rcases twoObjects_loads text _ loaded with ⟨list, _⟩ | ⟨first, _⟩ | ⟨second, _⟩
      · rw [list] at braces
        exact absurd (List.cons.inj braces).1 (by decide)
      · rw [first]
        rfl
      · rw [second]
        rfl
    exact shorter.eq_of_length ((size object value is).trans (size other value' is').symm)

theorem plain_object_found :
    FindsFirst twoObjects " \x7b\"a\": 1\x7d\n".toList
      (extractJson twoObjects " \x7b\"a\": 1\x7d\n") := by
  have loaded : twoObjects.loads (String.ofList (strip " \x7b\"a\": 1\x7d\n".toList)) =
      .ok (.dict [("a", .int 1)]) := by rfl
  refine (extractJson_finds_iff twoObjects_reads _).mpr ?_
  unfold WholeDecides
  rw [loaded]
  exact ⟨_, rfl⟩

/-- A list is returned as it is, and of two objects in a row none is found. -/
theorem other_values_returned :
    ¬ FindsFirst twoObjects "[1]".toList (extractJson twoObjects "[1]") ∧
      ¬ FindsFirst twoObjects "\x7b\"a\": 1\x7d \x7b\"b\": 2\x7d".toList
        (extractJson twoObjects "\x7b\"a\": 1\x7d \x7b\"b\": 2\x7d") := by
  constructor
  · intro finds
    have returned : extractJson twoObjects "[1]" = .ok (.list [.int 1]) := by rfl
    obtain ⟨entries, same⟩ := finds.object _ returned
    cases same
  · intro finds
    have whole : "\x7b\"a\": 1\x7d \x7b\"b\": 2\x7d".toList =
        [] ++ "\x7b\"a\": 1\x7d".toList ++ " \x7b\"b\": 2\x7d".toList := by decide
    have is : IsObject twoObjects "\x7b\"a\": 1\x7d".toList (.dict [("a", .int 1)]) :=
      ⟨⟨"\"a\": 1".toList, by decide⟩, by rfl⟩
    have first := FirstObject.of_clear twoObjects whole is (by simp)
    have found := finds.first _ first
    have missed : (extractJson twoObjects "\x7b\"a\": 1\x7d \x7b\"b\": 2\x7d").toBool = false := by
      decide +kernel
    rw [found] at missed
    cases missed

end HelpForge.Chatbot
