import HelpForge.Chatbot.Rag.Retriever
import HelpForge.Lib.Ranking
import Mathlib.Algebra.Order.Field.Basic
import Mathlib.Algebra.Order.Field.Rat
import Mathlib.Data.Nat.Cast.Order.Field
import Mathlib.Algebra.BigOperators.Group.List.Basic
import Mathlib.Tactic.Positivity

set_option autoImplicit false

namespace HelpForge.Chatbot

open Lib

variable (entries : List (RetrievedDoc × Nat)) (results : List RetrievedDoc) (id : String)

namespace RAGRetriever

def ids (docs : List RetrievedDoc) : List String := docs.map RetrievedDoc.id

def share (rank : Nat) : Rat := 1 / (rrfK + rank : Nat)

def worth (id : String) (results : List RetrievedDoc) : Rat :=
  if id ∈ ids results then share ((ids results).idxOf id) else 0

def rankSum (result_lists : List (List RetrievedDoc)) (id : String) : Rat :=
  (result_lists.map (worth id)).sum

def firstSeen (result_lists : List (List RetrievedDoc)) (id : String) : Nat :=
  (ids result_lists.flatten).idxOf id

/-- The order of the merge: by the sum of the shares, ties by the first appearance. -/
def precedes (result_lists : List (List RetrievedDoc)) (one other : String) : Prop :=
  rankSum result_lists other < rankSum result_lists one ∨
    rankSum result_lists other = rankSum result_lists one ∧
      firstSeen result_lists one < firstSeen result_lists other

instance (result_lists : List (List RetrievedDoc)) (one other : String) :
    Decidable (precedes result_lists one other) :=
  inferInstanceAs (Decidable (_ ∨ _))

def tally (entries : List (RetrievedDoc × Nat)) : Dict (Rat × RetrievedDoc) :=
  entries.foldl addRank []

def gained (entries : List (RetrievedDoc × Nat)) (id : String) : Rat :=
  ((entries.filter fun entry => entry.1.id = id).map fun entry => share entry.2).sum

theorem tally_append (entry : RetrievedDoc × Nat) :
    tally (entries ++ [entry]) = addRank (tally entries) entry := by
  simp [tally]

theorem gained_append (first second : List (RetrievedDoc × Nat)) (id : String) :
    gained (first ++ second) id = gained first id + gained second id := by
  simp [gained]

theorem lookup_tally :
    (tally entries).lookup id =
      (entries.find? fun entry => entry.1.id = id).map fun first =>
        (gained entries id, first.1) := by
  induction entries using List.reverseRecOn with
  | nil => rfl
  | append_singleton entries entry ih =>
    obtain ⟨doc, rank⟩ := entry
    rw [tally_append, addRank, Dict.lookup_put, gained_append, List.find?_append]
    by_cases same : id = doc.id
    · subst same
      rw [if_pos rfl, ih]
      have own : gained [(doc, rank)] doc.id = share rank := by simp [gained]
      rw [own]
      cases found : entries.find? fun entry => entry.1.id = doc.id with
      | none =>
        have unseen : entries.filter (fun entry => entry.1.id = doc.id) = [] := by
          rw [List.find?_eq_none] at found
          exact List.filter_eq_nil_iff.mpr found
        simp [gained, unseen, share]
      | some first => simp [share]
    · have others : gained [(doc, rank)] id = 0 := by simp [gained, Ne.symm same]
      rw [if_neg same, ih, others, add_zero]
      simp [Ne.symm same]

theorem keys_tally :
    (∀ id, id ∈ (tally entries).map Prod.fst ↔ id ∈ entries.map fun entry => entry.1.id) ∧
    ((tally entries).map Prod.fst).Pairwise fun one other =>
      (entries.map fun entry => entry.1.id).idxOf one <
        (entries.map fun entry => entry.1.id).idxOf other := by
  induction entries using List.reverseRecOn with
  | nil => simp [tally]
  | append_singleton entries entry ih =>
    obtain ⟨known, ordered⟩ := ih
    -- What has been seen keeps its place.
    have kept : ((tally entries).map Prod.fst).Pairwise fun one other =>
        ((entries ++ [entry]).map fun entry => entry.1.id).idxOf one <
          ((entries ++ [entry]).map fun entry => entry.1.id).idxOf other := by
      apply ordered.imp_of_mem
      intro one other first second before
      rw [List.map_append, List.idxOf_append_of_mem ((known one).mp first),
        List.idxOf_append_of_mem ((known other).mp second)]
      exact before
    rw [tally_append, addRank, Dict.keys_put]
    split_ifs with there
    · constructor
      · intro id
        have among := (known entry.1.id).mp there
        rw [known, List.map_append, List.mem_append]
        constructor
        · exact Or.inl
        · rintro (before | last)
          · exact before
          · rw [List.map_singleton, List.mem_singleton] at last
            exact last ▸ among
      · exact kept
    · constructor
      · intro id
        rw [List.mem_append, known, List.map_append, List.mem_append]
        simp
      · rw [List.pairwise_append]
        refine ⟨kept, List.pairwise_singleton .., ?_⟩
        intro one first other second
        rw [List.mem_singleton] at second
        subst second
        have unseen : entry.1.id ∉ entries.map fun entry => entry.1.id := by
          rw [← known]
          exact there
        have inside := List.idxOf_lt_length_of_mem ((known one).mp first)
        rw [List.map_append, List.idxOf_append_of_mem ((known one).mp first),
          List.idxOf_append_of_notMem unseen]
        omega

theorem gained_zipIdx (distinct : (ids results).Nodup) (start : Nat) (id : String) :
    gained (results.zipIdx start) id =
      if id ∈ ids results then share (start + (ids results).idxOf id) else 0 := by
  induction results generalizing start with
  | nil => rfl
  | cons doc rest ih =>
    have later := List.nodup_cons.mp distinct
    rw [List.zipIdx_cons, ← List.singleton_append, gained_append, ih later.2]
    by_cases same : doc.id = id
    · subst same
      have absent : doc.id ∉ ids rest := later.1
      rw [if_neg absent]
      simp [gained, ids]
    · have ahead : ids (doc :: rest) = doc.id :: ids rest := rfl
      rw [ahead]
      have others : gained [(doc, start)] id = 0 := by simp [gained, same]
      have unlike : id ≠ doc.id := Ne.symm same
      rw [others, zero_add, List.idxOf_cons_ne _ same]
      by_cases among : id ∈ ids rest
      · simp [among, Nat.add_assoc, Nat.add_comm]
      · simp [among, unlike]

def ranked (result_lists : List (List RetrievedDoc)) : List (RetrievedDoc × Nat) :=
  result_lists.flatMap fun results => results.zipIdx

section List

variable (result_lists : List (List RetrievedDoc))

theorem ranked_docs : (ranked result_lists).map Prod.fst = result_lists.flatten := by
  simp [ranked, List.flatMap_def, Function.comp_def]

theorem ranked_ids :
    ((ranked result_lists).map fun entry => entry.1.id) = ids result_lists.flatten := by
  rw [← ranked_docs, ids, List.map_map]
  rfl

theorem gained_ranked (distinct : ∀ results ∈ result_lists, (ids results).Nodup) (id : String) :
    gained (ranked result_lists) id = rankSum result_lists id := by
  induction result_lists with
  | nil => rfl
  | cons results rest ih =>
    have head := gained_zipIdx results (distinct results (List.mem_cons_self ..)) 0 id
    have tail := ih fun others among => distinct others (List.mem_cons_of_mem _ among)
    have split : ranked (results :: rest) = results.zipIdx ++ ranked rest := rfl
    rw [split, gained_append, tail, head, rankSum, rankSum, List.map_cons, List.sum_cons]
    simp [worth]

end List

section Merged

variable (result_lists : List (List RetrievedDoc))

theorem rrfMerge_eq : rrfMerge result_lists =
    (byScore (fun entry => entry.2.1) (tally (ranked result_lists))).map fun entry =>
      entry.2.2 := by
  have scores : result_lists.foldl (fun scores results => results.zipIdx.foldl addRank scores) [] =
      tally (ranked result_lists) := by
    rw [tally, ranked, List.foldl_flatMap]
  unfold rrfMerge byScore
  rw [scores]

theorem mem_keys (id : String) :
    id ∈ (tally (ranked result_lists)).map Prod.fst ↔ id ∈ ids result_lists.flatten := by
  rw [(keys_tally (ranked result_lists)).1, ranked_ids]

theorem keys_ordered : ((tally (ranked result_lists)).map Prod.fst).Pairwise fun one other =>
    firstSeen result_lists one < firstSeen result_lists other := by
  have ordered := (keys_tally (ranked result_lists)).2
  rw [ranked_ids] at ordered
  exact ordered

theorem keys_distinct : ((tally (ranked result_lists)).map Prod.fst).Nodup :=
  (keys_ordered result_lists).imp fun before same => by
    rw [same] at before
    exact Nat.lt_irrefl _ before

variable (entry : String × Rat × RetrievedDoc)

theorem entry_found (among : entry ∈ tally (ranked result_lists)) :
    (result_lists.flatten.find? fun doc => doc.id = entry.1) = some entry.2.2 ∧
      entry.2.1 = gained (ranked result_lists) entry.1 := by
  have found := Dict.lookup_of_mem _ (keys_distinct result_lists) entry among
  rw [lookup_tally, Option.map_eq_some_iff] at found
  obtain ⟨first, search, value⟩ := found
  have docs := congrArg (Option.map Prod.fst) search
  rw [Option.map_some, ← value] at *
  constructor
  · rw [← ranked_docs, List.find?_map]
    exact docs
  · rfl

theorem entry_id (among : entry ∈ tally (ranked result_lists)) : entry.2.2.id = entry.1 := by
  have found := List.find?_some (entry_found result_lists entry among).1
  simpa using found

theorem ids_rrfMerge : ids (rrfMerge result_lists) =
    (byScore (fun entry => entry.2.1) (tally (ranked result_lists))).map Prod.fst := by
  rw [rrfMerge_eq, ids, List.map_map]
  apply List.map_congr_left
  intro entry among
  exact entry_id result_lists entry ((mem_byScore _ _ entry).mp among)

theorem ids_perm :
    (ids (rrfMerge result_lists)).Perm ((tally (ranked result_lists)).map Prod.fst) := by
  rw [ids_rrfMerge]
  exact (byScore_perm _ _).map Prod.fst

theorem mem_rrfMerge (id : String) :
    id ∈ ids (rrfMerge result_lists) ↔ ∃ results ∈ result_lists, id ∈ ids results := by
  rw [(ids_perm result_lists).mem_iff, mem_keys]
  simp only [ids, List.mem_map, List.mem_flatten]
  constructor
  · rintro ⟨doc, ⟨results, listed, among⟩, same⟩
    exact ⟨results, listed, doc, among, same⟩
  · rintro ⟨results, listed, doc, among, same⟩
    exact ⟨doc, ⟨results, listed, among⟩, same⟩

theorem rrfMerge_nodup : (ids (rrfMerge result_lists)).Nodup :=
  (ids_perm result_lists).nodup_iff.mpr (keys_distinct result_lists)

theorem rrfMerge_first (doc : RetrievedDoc) (merged : doc ∈ rrfMerge result_lists) :
    (result_lists.flatten.find? fun other => other.id = doc.id) = some doc := by
  rw [rrfMerge_eq, List.mem_map] at merged
  obtain ⟨entry, among, rfl⟩ := merged
  have inside := (mem_byScore _ _ entry).mp among
  rw [entry_id result_lists entry inside]
  exact (entry_found result_lists entry inside).1

theorem docs_of_ids (docs : List RetrievedDoc)
    (first : ∀ doc ∈ docs,
      (result_lists.flatten.find? fun other => other.id = doc.id) = some doc) :
    docs = (ids docs).filterMap fun id => result_lists.flatten.find? fun doc => doc.id = id := by
  rw [ids, List.filterMap_map]
  have kept : docs = docs.filterMap some := (List.filterMap_some ..).symm
  conv_lhs => rw [kept]
  apply List.filterMap_congr
  intro doc among
  exact (first doc among).symm

theorem rrfMerge_ordered (distinct : ∀ results ∈ result_lists, (ids results).Nodup) :
    (ids (rrfMerge result_lists)).Pairwise (precedes result_lists) := by
  have entries : (tally (ranked result_lists)).Nodup := (keys_distinct result_lists).of_map _
  have ranking := byScore_outranks (fun entry => entry.2.1) entries
  rw [ids_rrfMerge, List.pairwise_map]
  apply ranking.imp_of_mem
  intro one other first second outranks
  have sums (entry : String × Rat × RetrievedDoc)
      (among : entry ∈ byScore (fun entry => entry.2.1) (tally (ranked result_lists))) :
      entry.2.1 = rankSum result_lists entry.1 := by
    have inside := (mem_byScore _ _ entry).mp among
    rw [(entry_found result_lists entry inside).2, gained_ranked result_lists distinct]
  rcases outranks with lower | ⟨equal, earlier⟩
  · left
    rw [← sums one first, ← sums other second]
    exact lower
  · right
    rw [← sums one first, ← sums other second]
    have before := List.pairwise_iff_forall_sublist.mp (keys_ordered result_lists)
      (earlier.map Prod.fst)
    exact ⟨equal, before⟩

end Merged

theorem share_lt {one other : Nat} (before : one < other) : share other < share one := by
  unfold share
  have positive : (0 : Rat) < (rrfK + one : Nat) := by
    rw [rrfK]
    positivity
  apply one_div_lt_one_div_of_lt positive
  exact_mod_cast Nat.add_lt_add_left before rrfK

theorem share_pos (rank : Nat) : 0 < share rank := by
  unfold share rrfK
  positivity

theorem worth_nonneg (results : List RetrievedDoc) : 0 ≤ worth id results := by
  unfold worth
  split_ifs
  · exact (share_pos _).le
  · exact le_refl 0

theorem worth_lt (distinct : (ids results).Nodup) {one other : String}
    (ahead : List.Sublist [one, other] (ids results)) :
    worth other results < worth one results := by
  have before := (pair_sublist_iff distinct one other).mp ahead
  have there : one ∈ ids results := ahead.subset (by simp)
  simpa [worth, there, before.1] using share_lt before.2

section List

variable {one other : String} (result_lists : List (List RetrievedDoc))

theorem rankSum_lt (distinct : ∀ results ∈ result_lists, (ids results).Nodup)
    (ahead : ∀ results ∈ result_lists, other ∈ ids results →
      List.Sublist [one, other] (ids results))
    (listed : ∃ results ∈ result_lists, other ∈ ids results) :
    rankSum result_lists other < rankSum result_lists one := by
  unfold rankSum
  apply List.sum_lt_sum
  · intro results among
    by_cases there : other ∈ ids results
    · exact (worth_lt results (distinct results among) (ahead results among there)).le
    · simpa [worth, there] using worth_nonneg one results
  · obtain ⟨results, among, there⟩ := listed
    exact ⟨results, among,
      worth_lt results (distinct results among) (ahead results among there)⟩

theorem precedes_asymm (first : precedes result_lists one other) :
    ¬precedes result_lists other one := by
  unfold precedes at *
  rcases first with lower | ⟨equal, earlier⟩
  · rintro (higher | ⟨same, -⟩)
    · exact lt_asymm lower higher
    · exact absurd same lower.ne'
  · rintro (higher | ⟨-, later⟩)
    · exact absurd equal higher.ne'
    · omega

theorem merged_ahead (distinct : ∀ results ∈ result_lists, (ids results).Nodup)
    (first : one ∈ ids (rrfMerge result_lists)) (second : other ∈ ids (rrfMerge result_lists))
    (before : precedes result_lists one other) :
    List.Sublist [one, other] (ids (rrfMerge result_lists)) := by
  have apart : one ≠ other := by
    rintro rfl
    exact precedes_asymm result_lists before before
  rcases pair_sublist_total (rrfMerge_nodup result_lists) first second apart with forward | back
  · exact forward
  · have after := List.pairwise_iff_forall_sublist.mp (rrfMerge_ordered result_lists distinct) back
    exact absurd after (precedes_asymm result_lists before)

theorem pareto (distinct : ∀ results ∈ result_lists, (ids results).Nodup)
    (ahead : ∀ results ∈ result_lists, other ∈ ids results →
      List.Sublist [one, other] (ids results))
    (listed : ∃ results ∈ result_lists, other ∈ ids results) :
    List.Sublist [one, other] (ids (rrfMerge result_lists)) := by
  have lower := rankSum_lt result_lists distinct ahead listed
  have second := (mem_rrfMerge result_lists other).mpr listed
  obtain ⟨results, among, there⟩ := listed
  have first : one ∈ ids results := (ahead results among there).subset (by simp)
  have merged := (mem_rrfMerge result_lists one).mpr ⟨results, among, first⟩
  exact merged_ahead result_lists distinct merged second (.inl lower)

end List

theorem find_self (docs : List RetrievedDoc) (distinct : (ids docs).Nodup) (doc : RetrievedDoc)
    (among : doc ∈ docs) : (docs.find? fun other => other.id = doc.id) = some doc := by
  induction docs with
  | nil => cases among
  | cons first rest ih =>
    have later := List.nodup_cons.mp distinct
    rcases List.mem_cons.mp among with rfl | behind
    · simp
    · have apart : first.id ≠ doc.id := by
        intro same
        exact later.1 (same ▸ List.mem_map_of_mem behind)
      simpa [apart] using ih later.2 behind

theorem rrfMerge_replicate (distinct : (ids results).Nodup) (times : Nat) :
    rrfMerge (List.replicate (times + 1) results) = results := by
  have alike : ∀ others ∈ List.replicate (times + 1) results, others = results :=
    fun others among => List.eq_of_mem_replicate among
  have lists : ∀ others ∈ List.replicate (times + 1) results, (ids others).Nodup := by
    intro others among
    rw [alike others among]
    exact distinct
  have there : results ∈ List.replicate (times + 1) results := by simp
  -- The list is in the order of the merge, and there is one such order.
  have own : (ids results).Pairwise (precedes (List.replicate (times + 1) results)) := by
    rw [List.pairwise_iff_forall_sublist]
    intro one other pair
    left
    apply rankSum_lt _ lists
    · intro others among _
      rw [alike others among]
      exact pair
    · exact ⟨results, there, pair.subset (by simp)⟩
  have same : (ids (rrfMerge (List.replicate (times + 1) results))).Perm (ids results) := by
    rw [List.perm_ext_iff_of_nodup (rrfMerge_nodup _) distinct]
    intro id
    rw [mem_rrfMerge]
    constructor
    · rintro ⟨others, among, inside⟩
      exact alike others among ▸ inside
    · intro inside
      exact ⟨results, there, inside⟩
  have order : ids (rrfMerge (List.replicate (times + 1) results)) = ids results :=
    same.eq_of_pairwise
      (fun one other _ _ first second => absurd second (precedes_asymm _ first))
      (rrfMerge_ordered _ lists) own
  have firsts (doc : RetrievedDoc) (among : doc ∈ results) :
      ((List.replicate (times + 1) results).flatten.find? fun other => other.id = doc.id) =
        some doc := by
    rw [List.replicate_succ, List.flatten_cons, List.find?_append,
      find_self results distinct doc among, Option.some_or]
  rw [docs_of_ids _ _ fun doc among => rrfMerge_first _ doc among, order,
    ← docs_of_ids _ _ firsts]

section List

variable (dense_results keyword_results url_results : List RetrievedDoc)

theorem single_list (single : ¬1 < (resultLists dense_results keyword_results url_results).length) :
    resultLists dense_results keyword_results url_results = [dense_results] := by
  unfold resultLists at *
  cases keyword_results with
  | nil => cases url_results <;> simp at *
  | cons first rest => simp at single

theorem merged_either_way (distinct : (ids dense_results).Nodup) :
    (if 1 < (resultLists dense_results keyword_results url_results).length
      then rrfMerge (resultLists dense_results keyword_results url_results)
      else dense_results) =
      rrfMerge (resultLists dense_results keyword_results url_results) := by
  by_cases several : 1 < (resultLists dense_results keyword_results url_results).length
  · rw [if_pos several]
  · have once := rrfMerge_replicate dense_results distinct 0
    rw [if_neg several, single_list _ _ _ several]
    exact once.symm

end List

theorem rrfMerge_sound (result_lists : List (List RetrievedDoc))
    (distinct : ∀ results ∈ result_lists, (ids results).Nodup) :
    (ids (rrfMerge result_lists)).Nodup ∧
    (∀ id, id ∈ ids (rrfMerge result_lists) ↔ ∃ results ∈ result_lists, id ∈ ids results) ∧
    (∀ doc ∈ rrfMerge result_lists,
      (result_lists.flatten.find? fun other => other.id = doc.id) = some doc) ∧
    (ids (rrfMerge result_lists)).Pairwise (precedes result_lists) ∧
    (∀ one other,
      (∀ results ∈ result_lists, other ∈ ids results →
        List.Sublist [one, other] (ids results)) →
      (∃ results ∈ result_lists, other ∈ ids results) →
      List.Sublist [one, other] (ids (rrfMerge result_lists))) ∧
    (∀ results ∈ result_lists, ∀ times,
      rrfMerge (List.replicate (times + 1) results) = results) ∧
    (∀ dense_results keyword_results url_results, dense_results ∈ result_lists →
      (if 1 < (resultLists dense_results keyword_results url_results).length
        then rrfMerge (resultLists dense_results keyword_results url_results)
        else dense_results) =
        rrfMerge (resultLists dense_results keyword_results url_results)) := by
  refine ⟨rrfMerge_nodup _, mem_rrfMerge _, rrfMerge_first _, rrfMerge_ordered _ distinct, ?_⟩
  constructor
  · intro one other ahead listed
    exact pareto result_lists distinct ahead listed
  · constructor
    · intro results among times
      exact rrfMerge_replicate results (distinct results among) times
    · intro dense_results keyword_results url_results among
      exact merged_either_way _ _ _ (distinct dense_results among)

def pricing : List (List RetrievedDoc) :=
  [[⟨"plans", 8 / 10, [], none⟩, ⟨"refunds", 7 / 10, [], none⟩],
   [⟨"plans", 6 / 10, [], none⟩, ⟨"trial", 5 / 10, [], none⟩, ⟨"refunds", 4 / 10, [], none⟩]]

theorem pricing_merged : List.Sublist ["plans", "refunds"] (ids (rrfMerge pricing)) :=
  (rrfMerge_sound pricing (by decide)).2.2.2.2.1 "plans" "refunds" (by decide) (by decide)

end RAGRetriever

end HelpForge.Chatbot
