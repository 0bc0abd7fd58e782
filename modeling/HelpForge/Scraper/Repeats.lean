import HelpForge.Scraper.Parser
import Mathlib.Data.List.Flatten
import Mathlib.Algebra.GroupWithZero.Nat

set_option autoImplicit false

namespace HelpForge.Scraper

open Lib

section Clean

variable {α : Type} (letters : Letters α)

theorem space_blank : space letters (letters.written 32) = true := by
  rw [space, letters.written_unit]
  decide

variable (text : List α)

theorem squeeze_eq (clear : ∀ letter ∈ text, letters.unit letter ≠ 10) :
    squeeze letters 0 text = text := by
  induction text with
  | nil => rfl
  | cons letter rest ih =>
    have here := clear letter (List.mem_cons_self ..)
    have later := ih fun other member => clear other (List.mem_cons_of_mem _ member)
    rw [squeeze, if_neg here, later]
    rfl

theorem cleanText_eq :
    cleanText letters text = Whitespace.trim (space letters)
      (Whitespace.collapse (space letters) (letters.written 32) text) := by
  -- Where white space is collapsed, no line feeds are left to be squeezed.
  rw [cleanText, squeeze_eq]
  intro letter member feed
  rcases Whitespace.mem_collapse _ _ member with same | inside
  · rw [same, letters.written_unit] at feed
    cases feed
  · have solid := (List.mem_filter.mp inside).2
    rw [space, feed] at solid
    cases solid

theorem solid_cleanText :
    Whitespace.solid (space letters) (cleanText letters text) =
      Whitespace.solid (space letters) text := by
  rw [cleanText_eq, Whitespace.solid_trim, Whitespace.solid_collapse _ _ (space_blank letters)]

theorem mem_cleanText {text : List α} {letter : α} (member : letter ∈ cleanText letters text) :
    letter = letters.written 32 ∨ letter ∈ Whitespace.solid (space letters) text := by
  rw [cleanText_eq] at member
  exact Whitespace.mem_collapse _ _ ((Whitespace.trim_sublist _ _).subset member)

end Clean

section Blocks

variable {α : Type} (letters : Letters α)

def keptBlocks : Bool → Nodes α → List (Bool × List α)
  -- The paragraphs in their order, and whether each of them stands within another one.
  | _, .done => []
  | inside, .text _ next => keptBlocks inside next
  | inside, .element tag _ children next =>
    let text := cleanText letters children.textContent
    if tag ∈ blockTags ∧ 20 ≤ text.length then
      (inside, text) :: (keptBlocks true children ++ keptBlocks inside next)
    else keptBlocks inside children ++ keptBlocks inside next

def Repeats (content : Nodes α) : Prop :=
  -- A paragraph within another one begins before the end of the body.
  ∃ before text after, keptBlocks letters false content = before ++ (true, text) :: after ∧
    (before.map fun block => block.2.length + 2).sum < maxBodyChars

theorem keptBlocks_snd (inside : Bool) (content : Nodes α) :
    (keptBlocks letters inside content).map Prod.snd = paragraphs letters content := by
  have tagged (tag : String) (attributes : List (String × String)) :
      (blockTags.map Selector.tag).any (Selector.selects tag attributes) =
        decide (tag ∈ blockTags) := by
    rw [Bool.eq_iff_iff]
    simp only [List.any_map, List.any_eq_true, Function.comp_apply, Selector.selects, beq_iff_eq,
      decide_eq_true_eq, exists_eq_right']
  induction content generalizing inside with
  | done => rfl
  | text content next ih => exact ih inside
  | element tag attributes children next ihc ihn =>
    simp only [paragraphs, Nodes.select, Nodes.elements, List.filter_cons, tagged] at ihc ihn ⊢
    by_cases block : tag ∈ blockTags
    · by_cases long : 20 ≤ (cleanText letters children.textContent).length
      · simp [keptBlocks, block, long, ihc, ihn]
      · simp [keptBlocks, block, long, ihc, ihn]
    · simp [keptBlocks, block, ihc, ihn]

variable (content : Nodes α)

theorem keptBlocks_inside : ∀ block ∈ keptBlocks letters true content, block.1 = true := by
  induction content with
  | done => exact nofun
  | text content next ih => exact ih
  | element tag attributes children next ihc ihn =>
    have both : ∀ block ∈ keptBlocks letters true children ++ keptBlocks letters true next,
        block.1 = true := by
      intro block member
      rcases List.mem_append.mp member with within | after
      · exact ihc block within
      · exact ihn block after
    intro block member
    unfold keptBlocks at member
    simp only at member
    split_ifs at member
    · rcases List.mem_cons.mp member with rfl | later
      · rfl
      · exact both block later
    · exact both block member

theorem keptBlocks_text (inside : Bool) (content : Nodes α) :
    ∀ block ∈ keptBlocks letters inside content,
      Whitespace.solid (space letters) block.2 ⊆ content.textContent := by
  -- Nothing solid is in a paragraph that is not in the content.
  induction content generalizing inside with
  | done => exact nofun
  | text content next ih =>
    intro block member
    exact List.subset_append_of_subset_right _ (ih inside block member)
  | element tag attributes children next ihc ihn =>
    have both (among : Bool) :
        ∀ block ∈ keptBlocks letters among children ++ keptBlocks letters inside next,
          Whitespace.solid (space letters) block.2 ⊆
            children.textContent ++ next.textContent := by
      intro block member
      rcases List.mem_append.mp member with within | after
      · exact List.subset_append_of_subset_left _ (ihc among block within)
      · exact List.subset_append_of_subset_right _ (ihn inside block after)
    intro block member
    unfold keptBlocks at member
    simp only at member
    split_ifs at member
    · rcases List.mem_cons.mp member with rfl | later
      · rw [solid_cleanText]
        exact List.subset_append_of_subset_left _ (List.filter_subset_self _)
      · exact both true block later
    · exact both inside block member

theorem split_at {first second before after : List α} {item : α}
    (found : first ++ second = before ++ item :: after) :
    (∃ rest, first = before ++ item :: rest) ∨
      ∃ between, before = first ++ between ∧ second = between ++ item :: after := by
  -- Something in a list of two parts is in the first one or beyond it.
  rcases List.append_eq_append_iff.mp found with beyond | ⟨between, within, later⟩
  · exact .inr beyond
  · cases between with
    | nil => exact .inr ⟨[], by simpa using within.symm, by simpa using later.symm⟩
    | cons head rest =>
      obtain ⟨rfl, -⟩ := List.cons.inj later
      exact .inl ⟨rest, within⟩

theorem nested_before (before after : List (Bool × List α)) (text : List α)
    (found : keptBlocks letters false content = before ++ (true, text) :: after) :
    ∃ outer ∈ before, Whitespace.solid (space letters) text ⊆
      Whitespace.solid (space letters) outer.2 := by
  -- What is in a paragraph within another one is in one before it, too.
  induction content generalizing before after text with
  | done => simp [keptBlocks] at found
  | text content next ih => exact ih before after text found
  | element tag attributes children next ihc ihn =>
    unfold keptBlocks at found
    simp only at found
    split_ifs at found with kept
    · cases before with
      | nil => simp at found
      | cons outer before =>
        obtain ⟨rfl, rest⟩ := List.cons.inj found
        rcases split_at rest with ⟨others, within⟩ | ⟨between, rfl, later⟩
        · refine ⟨_, List.mem_cons_self .., ?_⟩
          intro letter member
          have among : (true, text) ∈ keptBlocks letters true children := by simp [within]
          rw [solid_cleanText]
          exact List.mem_filter.mpr
            ⟨keptBlocks_text letters true children _ among member, (List.mem_filter.mp member).2⟩
        · obtain ⟨other, member, inside⟩ := ihn between after text later
          exact ⟨other, List.mem_cons_of_mem _ (List.mem_append_right _ member), inside⟩
    · rcases split_at found with ⟨others, within⟩ | ⟨between, rfl, later⟩
      · exact ihc before others text within
      · obtain ⟨other, member, inside⟩ := ihn between after text later
        exact ⟨other, List.mem_append_right _ member, inside⟩

end Blocks

structure Traced where
  code : UInt16
  source : Option Nat
  deriving DecidableEq, Repr

def traced : Letters Traced := ⟨Traced.code, fun code => ⟨code, none⟩, fun _ => rfl⟩

def Nodes.trace : Nat → Nodes UInt16 → Nodes Traced
  | _, .done => .done
  | start, .text content next =>
    .text ((content.zipIdx start).map fun (code, place) => ⟨code, some place⟩)
      (next.trace (start + content.length))
  | start, .element tag attributes children next =>
    .element tag attributes (children.trace start)
      (next.trace (start + children.textContent.length))

def sources (text : List Traced) : List Nat := text.filterMap Traced.source

structure Original (text : List Traced) : Prop where
  once : (sources text).Nodup
  read : ∀ letter ∈ text, letter.source.isSome = true

theorem Original.sublist {text part : List Traced} (original : Original text)
    (within : part.Sublist text) : Original part where
  once := original.once.sublist (within.filterMap _)
  read letter member := original.read letter (within.subset member)

theorem textContent_trace (start : Nat) (nodes : Nodes UInt16) :
    (nodes.trace start).textContent =
      (nodes.textContent.zipIdx start).map fun (code, place) => ⟨code, some place⟩ := by
  induction nodes generalizing start with
  | done => rfl
  | text content next ih =>
    simp only [Nodes.trace, Nodes.textContent, ih, List.zipIdx_append, List.map_append]
  | element tag attributes children next ihc ihn =>
    simp only [Nodes.trace, Nodes.textContent, ihc, ihn, List.zipIdx_append, List.map_append]

theorem original_trace (start : Nat) (nodes : Nodes UInt16) :
    Original (nodes.trace start).textContent where
  once := by
    have places : sources (nodes.trace start).textContent =
        (nodes.textContent.zipIdx start).map Prod.snd := by
      rw [textContent_trace, sources, List.filterMap_map]
      exact List.filterMap_eq_map ▸ rfl
    rw [places, List.zipIdx_map_snd]
    exact List.nodup_range'
  read := by
    rw [textContent_trace]
    intro letter member
    obtain ⟨⟨code, place⟩, -, rfl⟩ := List.mem_map.mp member
    rfl

section Selected

variable {α : Type} (letters : Letters α)

theorem textContent_remove (selectors : List Selector) (nodes : Nodes α) :
    (nodes.remove selectors).textContent.Sublist nodes.textContent := by
  induction nodes with
  | done => exact List.Sublist.refl _
  | text content next ih => exact (List.Sublist.refl content).append ih
  | element tag attributes children next ihc ihn =>
    unfold Nodes.remove
    split_ifs
    · exact ihn.trans (List.sublist_append_right ..)
    · exact ihc.append ihn

theorem textContent_element (nodes : Nodes α) :
    ∀ element ∈ nodes.elements, element.children.textContent.Sublist nodes.textContent := by
  induction nodes with
  | done => exact nofun
  | text content next ih =>
    intro element member
    exact (ih element member).trans (List.sublist_append_right ..)
  | element tag attributes children next ihc ihn =>
    intro element member
    rcases List.mem_cons.mp member with rfl | later
    · exact List.sublist_append_left ..
    · rcases List.mem_append.mp later with within | after
      · exact (ihc element within).trans (List.sublist_append_left ..)
      · exact (ihn element after).trans (List.sublist_append_right ..)

theorem textContent_select {selectors : List Selector} {nodes : Nodes α} {element : Element α}
    {rest : List (Element α)} (selected : nodes.select selectors = element :: rest) :
    element.children.textContent.Sublist nodes.textContent := by
  have among : element ∈ nodes.select selectors := selected ▸ List.mem_cons_self ..
  exact textContent_element nodes element (List.mem_of_mem_filter among)

theorem textContent_contentOf (document : Nodes α) :
    (contentOf letters document).textContent.Sublist document.textContent := by
  unfold contentOf
  cases chosen : selectContent letters document with
  | some content =>
    obtain ⟨selector, -, found⟩ := List.exists_of_findSome?_eq_some chosen
    unfold candidate at found
    cases selected : document.select [selector] with
    | nil => simp [selected] at found
    | cons element rest =>
      simp only [selected] at found
      split_ifs at found
      cases found
      exact textContent_select selected
  | none =>
    cases selected : document.select [.tag "body"] with
    | nil => exact List.nil_sublist _
    | cons element rest => exact textContent_select selected

end Selected

variable (blocks : List (Bool × List Traced))

section Body

theorem sources_append (one other : List Traced) :
    sources (one ++ other) = sources one ++ sources other := List.filterMap_append

theorem sources_write (text : String) : sources (write traced text) = [] := by
  simp [sources, write, traced]

theorem sources_cleanText (text : List Traced) :
    sources (cleanText traced text) = sources (Whitespace.solid (space traced) text) := by
  rw [← solid_cleanText, sources, sources, Whitespace.solid, List.filterMap_filter]
  apply List.filterMap_congr
  intro letter member
  by_cases white : space traced letter = true
  · rcases mem_cleanText traced member with rfl | inside
    · simp [traced]
    · have solid := (List.mem_filter.mp inside).2
      rw [white] at solid
      cases solid
  · simp [white]

theorem sources_take_limited (body : List Traced) :
    sources (limited traced body) = sources (body.take maxBodyChars) := by
  unfold limited
  split_ifs with long
  · rw [sources_append, sources_write, List.append_nil]
  · rw [List.take_of_length_le (Nat.not_lt.mp long)]

def spaced (blocks : List (Bool × List Traced)) : List Traced :=
  -- The paragraphs, each with the lines that set it off from the next one.
  blocks.flatMap fun block => block.2 ++ write traced "\n\n"

theorem length_spaced :
    (spaced blocks).length = (blocks.map fun block => block.2.length + 2).sum := by
  have two : (write traced "\n\n").length = 2 := by decide
  simp [spaced, List.length_flatMap, two]

theorem sources_spaced : sources (spaced blocks) = blocks.flatMap fun block => sources block.2 := by
  induction blocks with
  | nil => rfl
  | cons block rest ih =>
    unfold spaced at ih ⊢
    simp [sources_append, sources_write, ih]

theorem joined_spaced (some_block : blocks ≠ []) :
    (write traced "\n\n").intercalate (blocks.map Prod.snd) ++ write traced "\n\n" =
      spaced blocks := by
  induction blocks with
  | nil => exact absurd rfl some_block
  | cons block rest ih =>
    by_cases last : rest = []
    · simp [last, spaced]
    · have later : rest.map Prod.snd ≠ [] := by simpa using last
      rw [List.map_cons, List.intercalate_cons_of_ne_nil later, List.append_assoc, ih last]
      simp [spaced]

variable {content : Nodes Traced}

theorem outer_sublist (content : Nodes Traced) :
    (((keptBlocks traced false content).filter fun block => !block.1).flatMap fun block =>
      sources block.2).Sublist (sources content.textContent) := by
  -- The paragraphs that stand in no other one come from different parts of the content.
  induction content with
  | done => exact List.Sublist.refl _
  | text content next ih =>
    rw [Nodes.textContent, sources_append]
    exact ih.trans (List.sublist_append_right ..)
  | element tag attributes children next ihc ihn =>
    rw [Nodes.textContent, sources_append]
    unfold keptBlocks
    simp only
    split_ifs
    · have none : (keptBlocks traced true children).filter (fun block => !block.1) = [] := by
        rw [List.filter_eq_nil_iff]
        intro block member
        simp [keptBlocks_inside traced children block member]
      have own : (sources (cleanText traced children.textContent)).Sublist
          (sources children.textContent) := by
        rw [sources_cleanText]
        exact List.filter_sublist.filterMap _
      simpa [none] using own.append ihn
    · simpa using ihc.append ihn

theorem sources_body (content : Nodes Traced) (some_block : keptBlocks traced false content ≠ []) :
    ∃ body, body ++ write traced "\n\n" = spaced (keptBlocks traced false content) ∧
      sources (bodyOf traced content) = sources (body.take maxBodyChars) := by
  refine ⟨_, joined_spaced _ some_block, ?_⟩
  have blocks : paragraphs traced content ≠ [] := by
    rw [← keptBlocks_snd traced false]
    simpa using some_block
  rw [bodyOf, if_neg blocks, sources_take_limited, keptBlocks_snd]

theorem spaced_append (before after : List (Bool × List Traced)) :
    spaced (before ++ after) = spaced before ++ spaced after := List.flatMap_append

theorem once_of_not_repeats (original : Original content.textContent)
    (apart : ¬Repeats traced content) : (sources (bodyOf traced content)).Nodup := by
  by_cases empty : keptBlocks traced false content = []
  · have blocks : paragraphs traced content = [] := by
      rw [← keptBlocks_snd traced false, empty]
      rfl
    have whole : (sources (cleanText traced content.textContent)).Nodup := by
      rw [sources_cleanText]
      exact (original.sublist List.filter_sublist).once
    rw [bodyOf, if_pos blocks, sources_take_limited]
    exact whole.sublist ((List.take_sublist ..).filterMap _)
  · obtain ⟨body, joined, same⟩ := sources_body content empty
    let first := (keptBlocks traced false content).takeWhile fun block => !block.1
    let later := (keptBlocks traced false content).dropWhile fun block => !block.1
    have parts : keptBlocks traced false content = first ++ later :=
      List.takeWhile_append_dropWhile.symm
    -- What is nested comes too late for the body.
    have cut : (spaced (keptBlocks traced false content)).take maxBodyChars <+: spaced first := by
      rw [parts, spaced_append]
      cases nested : later with
      | nil => simpa [spaced] using List.take_prefix _ (spaced first)
      | cons block rest =>
        have flag : block.1 = true := by
          have head := List.head?_dropWhile_not (fun block => !block.1)
            (keptBlocks traced false content)
          rw [show (keptBlocks traced false content).dropWhile (fun block => !block.1) =
            block :: rest from nested] at head
          simpa using head
        have late : maxBodyChars ≤ (spaced first).length := by
          rw [length_spaced]
          by_contra short
          exact apart ⟨first, block.2, rest, by rw [parts, nested, ← flag], Nat.lt_of_not_le short⟩
        rw [List.take_append_of_le_length late]
        exact List.take_prefix ..
    have inside : (body.take maxBodyChars).Sublist (spaced first) := by
      have begins : body <+: spaced (keptBlocks traced false content) := ⟨_, joined⟩
      exact ((begins.take maxBodyChars).trans cut).sublist
    have outer : first.Sublist
        ((keptBlocks traced false content).filter fun block => !block.1) := by
      have all : first.filter (fun block => !block.1) = first :=
        List.filter_eq_self.mpr fun _ member =>
          List.mem_takeWhile_imp (p := fun block : Bool × List Traced => !block.1) member
      rw [← all]
      exact (List.takeWhile_sublist _).filter _
    rw [same]
    have kept : (sources (spaced first)).Sublist (sources content.textContent) := by
      rw [sources_spaced]
      exact (outer.flatMap _).trans (outer_sublist content)
    exact original.once.sublist ((inside.filterMap _).trans kept)

theorem mem_keptBlocks (block : Bool × List Traced)
    (member : block ∈ keptBlocks traced false content) :
    20 ≤ block.2.length ∧ ∃ raw, block.2 = cleanText traced raw := by
  have among : block.2 ∈ paragraphs traced content :=
    keptBlocks_snd traced false content ▸ List.mem_map_of_mem member
  obtain ⟨found, long⟩ := List.mem_filter.mp among
  obtain ⟨element, -, same⟩ := List.mem_map.mp found
  exact ⟨by simpa using long, _, same.symm⟩

theorem not_repeats_of_once (original : Original content.textContent)
    (once : (sources (bodyOf traced content)).Nodup) : ¬Repeats traced content := by
  rintro ⟨before, text, after, found, short⟩
  obtain ⟨body, joined, same⟩ := sources_body content (by simp [found])
  have kept : (true, text) ∈ keptBlocks traced false content := by simp [found]
  obtain ⟨long, raw, cleaned⟩ := mem_keptBlocks _ kept
  simp only at long cleaned
  cases begins : text with
  | nil => simp [begins] at long
  | cons letter rest =>
    have solid : letter ∈ Whitespace.solid (space traced) text := by
      have head : space traced letter = false := by
        rw [begins, cleanText_eq] at cleaned
        exact Whitespace.head_trim _ cleaned.symm
      simp [Whitespace.solid, begins, head]
    -- The letter has been in the body before.
    obtain ⟨outer, member, inside⟩ := nested_before traced content before after text found
    obtain ⟨place, read⟩ : ∃ place, letter.source = some place := by
      apply Option.isSome_iff_exists.mp
      exact original.read letter
        (keptBlocks_text traced false content (true, text) (by simp [found]) solid)
    have earlier : place ∈ sources (spaced before) := by
      rw [sources_spaced, List.mem_flatMap]
      exact ⟨outer, member, List.mem_filterMap.mpr
        ⟨letter, (List.mem_filter.mp (inside solid)).1, read⟩⟩
    have start : spaced before ++ [letter] <+: body.take maxBodyChars := by
      have whole : spaced before ++ [letter] <+: body ++ write traced "\n\n" := by
        rw [joined, found, spaced_append]
        apply (List.prefix_append_right_inj _).mpr
        exact ⟨rest ++ write traced "\n\n" ++ spaced after, by simp [spaced, begins]⟩
      have lengths := congrArg List.length joined
      rw [found, spaced_append, List.length_append, List.length_append, length_spaced before]
        at lengths
      have two : (write traced "\n\n").length = 2 := by decide
      have rest_long : text.length + 2 ≤ (spaced ((true, text) :: after)).length := by
        simp [spaced, two]
      have size : (spaced before ++ [letter]).length =
          (before.map fun block => block.2.length + 2).sum + 1 := by
        rw [List.length_append, length_spaced]
        rfl
      rw [List.prefix_take_iff]
      constructor
      · exact List.prefix_of_prefix_length_le whole (List.prefix_append ..) (by omega)
      · omega
    rw [same] at once
    have twice := once.sublist (start.sublist.filterMap Traced.source)
    rw [show (spaced before ++ [letter]).filterMap Traced.source =
      sources (spaced before) ++ [place] by simp [sources, read]] at twice
    exact (List.nodup_append.mp twice).2.2 place earlier place (List.mem_singleton_self _) rfl

end Body

section Erased

variable {α β : Type} {letters : Letters α} {others : Letters β} {read : α → β}

def Nodes.map (read : α → β) : Nodes α → Nodes β
  | .done => .done
  | .text content next => .text (content.map read) (next.map read)
  | .element tag attributes children next =>
    .element tag attributes (children.map read) (next.map read)

def Element.map (read : α → β) (element : Element α) : Element β :=
  ⟨element.tag, element.attributes, element.children.map read⟩

/-- The letters stand for the same code units. -/
structure Reads (letters : Letters α) (others : Letters β) (read : α → β) : Prop where
  unit : ∀ letter, others.unit (read letter) = letters.unit letter
  written : ∀ code, read (letters.written code) = others.written code

theorem textContent_map (nodes : Nodes α) :
    (nodes.map read).textContent = nodes.textContent.map read := by
  induction nodes with
  | done => rfl
  | text content next ih => simp [Nodes.map, Nodes.textContent, ih]
  | element tag attributes children next ihc ihn =>
    simp [Nodes.map, Nodes.textContent, ihc, ihn]

theorem elements_map (nodes : Nodes α) :
    (nodes.map read).elements = nodes.elements.map (Element.map read) := by
  induction nodes with
  | done => rfl
  | text content next ih => simpa [Nodes.map, Nodes.elements] using ih
  | element tag attributes children next ihc ihn =>
    simp [Nodes.map, Nodes.elements, Element.map, ihc, ihn]

variable (selectors : List Selector) (nodes : Nodes α)

theorem select_map :
    (nodes.map read).select selectors = (nodes.select selectors).map (Element.map read) := by
  rw [Nodes.select, elements_map, List.filter_map]
  rfl

theorem remove_map : (nodes.map read).remove selectors = (nodes.remove selectors).map read := by
  induction nodes with
  | done => rfl
  | text content next ih => simp [Nodes.map, Nodes.remove, ih]
  | element tag attributes children next ihc ihn =>
    simp only [Nodes.map, Nodes.remove, ihc, ihn]
    split_ifs <;> rfl

section Reads

variable (reads : Reads letters others read)

include reads

variable (text : List α)

theorem squeeze_map (seen : Nat) :
    squeeze others seen (text.map read) = (squeeze letters seen text).map read := by
  induction text generalizing seen with
  | nil => simp [squeeze, squeeze.lineFeeds, reads.written]
  | cons letter rest ih =>
    simp only [List.map_cons, squeeze, reads.unit, ih]
    split_ifs <;> simp [squeeze.lineFeeds, reads.written]

theorem cleanText_map : cleanText others (text.map read) = (cleanText letters text).map read := by
  have alike : ∀ letter, space others (read letter) = space letters letter := fun letter => by
    rw [space, space, reads.unit]
  rw [cleanText, cleanText, Whitespace.map_trim alike, ← squeeze_map reads,
    Whitespace.map_collapse alike (reads.written 32)]

theorem paragraphs_map (content : Nodes α) :
    paragraphs others (content.map read) = (paragraphs letters content).map (List.map read) := by
  have long : (fun text : List β => decide (20 ≤ text.length)) ∘ List.map read =
      fun text => decide (20 ≤ text.length) := by
    funext text
    simp
  have cleaned : (fun block : Element β => cleanText others block.children.textContent) ∘
      Element.map read =
        List.map read ∘ fun block => cleanText letters block.children.textContent := by
    funext block
    simp [Element.map, textContent_map, cleanText_map reads]
  rw [paragraphs, paragraphs, select_map, List.map_map, cleaned, ← List.map_map, List.filter_map,
    long]

theorem write_map (text : String) : write others text = (write letters text).map read := by
  simp [write, reads.written]

end Reads

theorem map_intercalate (separator : List α) (texts : List (List α)) :
    (separator.intercalate texts).map read =
      (separator.map read).intercalate (texts.map (List.map read)) := by
  induction texts with
  | nil => rfl
  | cons text rest ih =>
    by_cases last : rest = []
    · simp [last]
    · rw [List.map_cons, List.intercalate_cons_of_ne_nil last,
        List.intercalate_cons_of_ne_nil (by simpa using last), ← ih]
      simp

section Reads

variable (reads : Reads letters others read)

include reads

theorem limited_map (body : List α) :
    limited others (body.map read) = (limited letters body).map read := by
  unfold limited
  rw [List.length_map, write_map reads]
  split_ifs <;> simp

theorem bodyOf_map (content : Nodes α) :
    bodyOf others (content.map read) = (bodyOf letters content).map read := by
  have joined : (if paragraphs others (content.map read) = [] then
        cleanText others (content.map read).textContent
      else (write others "\n\n").intercalate (paragraphs others (content.map read))) =
      (if paragraphs letters content = [] then cleanText letters content.textContent
        else (write letters "\n\n").intercalate (paragraphs letters content)).map read := by
    rw [paragraphs_map reads, textContent_map, cleanText_map reads, write_map reads,
      ← map_intercalate]
    simp only [List.map_eq_nil_iff]
    split_ifs <;> rfl
  simp only [bodyOf]
  rw [joined, limited_map reads]

variable (document : Nodes α)

theorem candidate_map (selector : Selector) :
    candidate others (document.map read) selector =
      (candidate letters document selector).map (Nodes.map read) := by
  unfold candidate
  rw [select_map]
  cases document.select [selector] with
  | nil => rfl
  | cons element rest =>
    simp only [List.map_cons, Element.map, textContent_map, cleanText_map reads, List.length_map]
    split_ifs <;> rfl

theorem selectContent_map :
    selectContent others (document.map read) =
      (selectContent letters document).map (Nodes.map read) := by
  unfold selectContent
  induction contentSelectors with
  | nil => rfl
  | cons selector rest ih =>
    rw [List.findSome?_cons, List.findSome?_cons, candidate_map reads, ih]
    cases candidate letters document selector <;> rfl

theorem contentOf_map :
    contentOf others (document.map read) = (contentOf letters document).map read := by
  unfold contentOf
  rw [selectContent_map reads, select_map]
  cases selectContent letters document with
  | some content => rfl
  | none => cases document.select [.tag "body"] <;> rfl

theorem keptBlocks_map (inside : Bool) (content : Nodes α) :
    keptBlocks others inside (content.map read) =
      (keptBlocks letters inside content).map fun block => (block.1, block.2.map read) := by
  induction content generalizing inside with
  | done => rfl
  | text content next ih => exact ih inside
  | element tag attributes children next ihc ihn =>
    simp only [Nodes.map, keptBlocks, textContent_map, cleanText_map reads, List.length_map, ihc,
      ihn]
    split_ifs <;> simp

theorem repeats_map (content : Nodes α) :
    Repeats others (content.map read) ↔ Repeats letters content := by
  unfold Repeats
  rw [keptBlocks_map reads]
  constructor
  · rintro ⟨before, text, after, found, short⟩
    obtain ⟨before, rest, kept, rfl, later⟩ := List.map_eq_append_iff.mp found
    obtain ⟨block, after, rfl, same, rfl⟩ := List.map_eq_cons_iff.mp later
    obtain ⟨flag, text⟩ := block
    cases same
    exact ⟨before, text, after, kept, by simpa [Function.comp_def] using short⟩
  · rintro ⟨before, text, after, found, short⟩
    rw [found, List.map_append, List.map_cons]
    exact ⟨_, _, _, rfl, by simpa [Function.comp_def] using short⟩

end Reads

end Erased

theorem map_trace (start : Nat) (nodes : Nodes UInt16) :
    (nodes.trace start).map Traced.code = nodes := by
  induction nodes generalizing start with
  | done => rfl
  | text content next ih => simp [Nodes.trace, Nodes.map, ih, Function.comp_def]
  | element tag attributes children next ihc ihn => simp [Nodes.trace, Nodes.map, ihc, ihn]

def tracedBody (html : Nodes UInt16) : List Traced :=
  -- The body with the places in the page that its letters come from.
  bodyOf traced (contentOf traced ((html.trace 0).remove noiseSelectors))

structure TextOnce (html : Nodes UInt16) : Prop where
  traces : (tracedBody html).map Traced.code = (parseHtml html).body
  once : (sources (tracedBody html)).Nodup
  counted : (parseHtml html).wordCount =
    Whitespace.wordStarts isSpaceUnit true (parseHtml html).body

theorem reads_traced : Reads traced codeUnits Traced.code where
  unit _ := rfl
  written _ := rfl

variable (html : Nodes UInt16)

theorem content_trace :
    contentOf codeUnits (html.remove noiseSelectors) =
      (contentOf traced ((html.trace 0).remove noiseSelectors)).map Traced.code := by
  -- What becomes of the page without the places is what becomes of it with them.
  rw [← contentOf_map reads_traced, ← remove_map, map_trace]

theorem tracedBody_code : (tracedBody html).map Traced.code = (parseHtml html).body := by
  rw [tracedBody, ← bodyOf_map reads_traced, ← content_trace]
  rfl

/-- Each letter of a page comes into the body once at most, exactly if there is no paragraph within
another one that begins before the end of the body. -/
theorem text_once_iff (html : Nodes UInt16) :
    TextOnce html ↔ ¬Repeats codeUnits (contentOf codeUnits (html.remove noiseSelectors)) := by
  have original : Original
      (contentOf traced ((html.trace 0).remove noiseSelectors)).textContent :=
    (original_trace 0 html).sublist
      ((textContent_contentOf traced _).trans (textContent_remove noiseSelectors _))
  rw [content_trace, repeats_map reads_traced]
  constructor
  · intro once
    exact not_repeats_of_once original once.once
  · intro apart
    exact ⟨tracedBody_code html, once_of_not_repeats original apart,
      Whitespace.length_words isSpaceUnit _⟩

def listPage : Nodes UInt16 :=
  -- A list item whose text is in a paragraph of its own.
  .element "body" []
    (.element "li" []
      (.element "p" [] (.text (Json.units "Open from nine until six.") .done) .done) .done) .done

theorem item_repeated : ¬∀ html, TextOnce html := by
  intro always
  exact absurd (always listPage).once (by decide +kernel)

end HelpForge.Scraper
