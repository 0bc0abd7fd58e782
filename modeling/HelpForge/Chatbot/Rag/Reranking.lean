import HelpForge.Chatbot.Rag.Retriever
import HelpForge.Lib.Ranking
import Mathlib.Algebra.Order.Ring.Rat

set_option autoImplicit false

namespace HelpForge.Chatbot

open Lib

variable {scores : List Rat}

namespace Reranker

variable {Vector : Type} (engine : SearchEngine Vector) (python : Python) (model : LanguageModel)

def confident (docs : List RetrievedDoc) : Bool :=
  docs.head?.any fun top => skipRerankThreshold ≤ top.score

/-- The documents that a re-ranking chooses from. -/
def considered (docs : List RetrievedDoc) : List RetrievedDoc :=
  if confident docs then docs else docs.take maxCandidates

/-- The model answers with a list of one score for each document. -/
def Scored (org_id query : String) (docs : List RetrievedDoc) (scores : List Rat) : Prop :=
  ∃ lines answer items,
    docs.zipIdx.mapM (docLine python) = .ok lines ∧
    model.generate (scoreRequest org_id query ("\n\n".intercalate lines)) = .ok answer ∧
    python.loads (String.ofList (unfenced (strip answer.content.toList))) = .ok (.list items) ∧
    items.length = docs.length ∧ items.mapM (clamped engine) = .ok scores

def IsDoc (doc original : RetrievedDoc) : Prop :=
  { doc with rerank_score := original.rerank_score } = original

def relevance (doc : RetrievedDoc) : Rat := doc.rerank_score.getD 0

variable {engine python model} {org_id query : String} {docs : List RetrievedDoc} {top_n : Nat}

theorem rerank_confident (sure : confident docs = true) :
    rerank engine python model org_id query docs top_n = docs.take top_n := by
  cases docs with
  | nil => cases sure
  | cons top rest =>
    have above : skipRerankThreshold ≤ top.score := by simpa [confident] using sure
    rw [rerank, if_pos above]

section Places

variable (scored : List RetrievedDoc)

def sorted : List (RetrievedDoc × Nat) :=
  (byScore (fun entry => relevance entry.1) scored.zipIdx).filter fun entry =>
    minRerankScore ≤ relevance entry.1

theorem zipIdx_places : (scored.zipIdx.map Prod.snd).Pairwise fun one other => one < other := by
  rw [List.zipIdx_map_snd]
  exact List.pairwise_lt_range'

end Places

theorem Scored.length (scored : Scored engine python model org_id query docs scores) :
    scores.length = docs.length := by
  obtain ⟨lines, answer, items, -, -, -, counted, accepted⟩ := scored
  rw [← ((mapM_eq_ok _ _ _).mp accepted).length_eq, counted]

/-- The documents of a ranking are at distinct places of a list. -/
def Drawn (docs ranking : List RetrievedDoc) : Prop :=
  ∃ order : List Nat, order.Nodup ∧
    List.Forall₂ (fun doc index => ∃ original, docs[index]? = some original ∧ IsDoc doc original)
      ranking order

theorem drawn_entries (docs : List RetrievedDoc) (entries : List (RetrievedDoc × Nat))
    (distinct : (entries.map Prod.snd).Nodup)
    (placed : ∀ entry ∈ entries, ∃ original, docs[entry.2]? = some original ∧
      IsDoc entry.1 original) : Drawn docs (entries.map Prod.fst) := by
  refine ⟨entries.map Prod.snd, distinct, ?_⟩
  rw [List.forall₂_map_left_iff, List.forall₂_map_right_iff, List.forall₂_same]
  exact placed

theorem Drawn.refl (docs : List RetrievedDoc) : Drawn docs docs := by
  have places : (docs.zipIdx.map Prod.snd).Nodup := (zipIdx_places docs).imp Nat.ne_of_lt
  have drawn := drawn_entries docs docs.zipIdx places (by
    intro entry among
    exact ⟨entry.1, List.mem_zipIdx_iff_getElem?.mp among, rfl⟩)
  rwa [List.zipIdx_map_fst] at drawn

theorem Drawn.take {ranking : List RetrievedDoc} (drawn : Drawn docs ranking) (limit : Nat) :
    Drawn docs (ranking.take limit) := by
  obtain ⟨order, distinct, placed⟩ := drawn
  exact ⟨order.take limit, distinct.sublist (List.take_sublist ..), List.forall₂_take limit placed⟩

end Reranker

end HelpForge.Chatbot
