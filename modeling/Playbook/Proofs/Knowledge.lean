import Playbook.Proofs.Decimal.Order
import Playbook.Proofs.Knowledge.Terms

/-!
What a fixed list of documents answers. The documents of the tenant that share a term with the query
and reach its threshold are ranked by score, then by source, and the first of them are the answer; so
it hangs on no document of another tenant, and nothing that is left out goes before what is answered.
-/
namespace Playbook.Knowledge

open Decimal (placeSingle lt_iff_placeSingle beq_iff_placeSingle isNaN_of_le)

variable {documents : List Document} {q : KnowledgeQuery} {d e : Document}

/-! ### Documents that may be answered -/

/-- The share of the query's terms that are terms of a document too. -/
noncomputable def score (q : KnowledgeQuery) (d : Document) : Float32 :=
  single {t | IsTerm q.query t ∧ IsTerm d.content t}.ncard / single {t | IsTerm q.query t}.ncard

theorem score_eq (q : KnowledgeQuery) (d : Document) :
    score q d = single (overlap (terms q.query) d.content) / single (terms q.query).length := by
  rw [score, ncard_shared, ncard_isTerm]

/-- What is answered of a document. -/
noncomputable def chunk (q : KnowledgeQuery) (d : Document) : KnowledgeChunk :=
  ⟨d.content, score q d, d.source⟩

structure Eligible (q : KnowledgeQuery) (d : Document) : Prop where
  own : d.tenantId = q.tenantId
  shares : ∃ term, IsTerm q.query term ∧ IsTerm d.content term
  reaches : q.threshold ≤ score q d

theorem overlap_pos : 0 < overlap (terms q.query) d.content ↔
    ∃ term, IsTerm q.query term ∧ IsTerm d.content term := by
  simp [overlap, List.length_pos_iff_exists_mem, mem_terms]

theorem eligible_iff : Eligible q d ↔ d.tenantId = q.tenantId ∧
    0 < overlap (terms q.query) d.content ∧
    q.threshold ≤ single (overlap (terms q.query) d.content) / single (terms q.query).length := by
  rw [← score_eq]
  exact ⟨fun h => ⟨h.own, overlap_pos.2 h.shares, h.reaches⟩,
    fun ⟨own, shares, reaches⟩ => ⟨own, overlap_pos.1 shares, reaches⟩⟩

instance (q : KnowledgeQuery) : DecidablePred (Eligible q) := fun _ =>
  decidable_of_iff' _ eligible_iff

/-- A score that reaches a threshold is a number. -/
theorem Eligible.isNaN (h : Eligible q d) : (chunk q d).relevance.isNaN = false :=
  isNaN_of_le (decide_eq_true_iff.1 h.reaches)

/-- The chunks of the tenant's documents are those of the documents that may be answered. -/
theorem filterMap_chunk? (documents : List Document) (q : KnowledgeQuery) :
    (documents.filter fun d => d.tenantId == q.tenantId).filterMap
        (chunk? (terms q.query) q.threshold) =
      (documents.filter fun d => Eligible q d).map (chunk q) := by
  induction documents with
  | nil => rfl
  | cons d rest ih =>
    by_cases own : d.tenantId = q.tenantId
    · rw [List.filter_cons_of_pos (by simpa using own), List.filterMap_cons, ih]
      by_cases reached : 0 < overlap (terms q.query) d.content ∧
          q.threshold ≤ single (overlap (terms q.query) d.content) / single (terms q.query).length
      · have eligible : Eligible q d := eligible_iff.2 ⟨own, reached⟩
        have made : chunk? (terms q.query) q.threshold d = some (chunk q d) := by
          rw [chunk, score_eq]
          exact if_pos reached
        rw [made, List.filter_cons_of_pos (by simpa using eligible), List.map_cons]
      · have refused : ¬Eligible q d := fun h => reached (eligible_iff.1 h).2
        have made : chunk? (terms q.query) q.threshold d = Option.none := if_neg reached
        rw [made, List.filter_cons_of_neg (by simpa using refused)]
    · have refused : ¬Eligible q d := fun h => own h.own
      rw [List.filter_cons_of_neg (by simpa using own), ih,
        List.filter_cons_of_neg (by simpa using refused)]

/-! ### Ranks -/

/-- One chunk goes before another: by its score, or at the same score by its source. -/
def Precedes (a b : KnowledgeChunk) : Prop :=
  b.relevance < a.relevance ∨ (a.relevance == b.relevance) = true ∧ a.source < b.source

/-- One chunk goes before another, or has the same score and source. -/
def Ranked (a b : KnowledgeChunk) : Prop :=
  b.relevance < a.relevance ∨ (a.relevance == b.relevance) = true ∧ a.source ≤ b.source

/-- The rank of a chunk: its score, from the highest on, and then its source. -/
def rank (c : KnowledgeChunk) : (ℤ ×ₗ ℤ ×ₗ ℤ)ᵒᵈ ×ₗ String :=
  toLex (OrderDual.toDual (placeSingle c.relevance), c.source)

section
variable {a b : KnowledgeChunk} (ha : a.relevance.isNaN = false) (hb : b.relevance.isNaN = false)
include ha hb

theorem precedes_iff : Precedes a b ↔ rank a < rank b := by
  rw [Precedes, lt_iff_placeSingle hb ha, beq_iff_placeSingle ha hb, rank, rank,
    Prod.Lex.toLex_lt_toLex, OrderDual.toDual_lt_toDual, OrderDual.toDual_inj]

theorem ranked_iff : Ranked a b ↔ rank a ≤ rank b := by
  rw [Ranked, lt_iff_placeSingle hb ha, beq_iff_placeSingle ha hb, rank, rank,
    Prod.Lex.toLex_le_toLex, OrderDual.toDual_lt_toDual, OrderDual.toDual_inj]

theorem before_iff : before a b = true ↔ rank a ≤ rank b := by
  rw [rank, rank, Prod.Lex.toLex_le_toLex, OrderDual.toDual_lt_toDual, OrderDual.toDual_inj]
  simp only [before, Bool.or_eq_true, Bool.and_eq_true, Bool.not_eq_true', decide_eq_true_eq,
    decide_eq_false_iff_not, lt_iff_placeSingle hb ha, lt_iff_placeSingle ha hb]
  rcases lt_trichotomy (placeSingle a.relevance) (placeSingle b.relevance) with less | same | more
  · simp [less, less.not_gt, less.ne]
  · simp [same]
  · simp [more]

end

/-! ### Answers -/

/-- The documents that may be answered, from the best on. -/
noncomputable def ranking (q : KnowledgeQuery) (documents : List Document) : List Document :=
  (documents.filter fun d => Eligible q d).mergeSort fun d e => before (chunk q d) (chunk q e)

theorem perm_ranking (q : KnowledgeQuery) (documents : List Document) :
    (ranking q documents).Perm (documents.filter fun d => Eligible q d) :=
  List.mergeSort_perm ..

theorem eligible_of_mem_ranking (h : d ∈ ranking q documents) : Eligible q d := by
  simpa using (List.mem_filter.1 ((perm_ranking q documents).mem_iff.1 h)).2

/-- Among documents that may be answered the ranking is by rank, as none of their scores is no
number. -/
theorem pairwise_ranking (q : KnowledgeQuery) (documents : List Document) :
    (ranking q documents).Pairwise fun d e => rank (chunk q d) ≤ rank (chunk q e) := by
  have byRank : ranking q documents = (documents.filter fun d => Eligible q d).mergeSort
      fun d e => rank (chunk q d) ≤ rank (chunk q e) := by
    have agree : ∀ d ∈ documents.filter fun d => Eligible q d,
        ∀ e ∈ documents.filter fun d => Eligible q d,
          before (chunk q d) (chunk q e) = decide (rank (chunk q d) ≤ rank (chunk q e)) := by
      intro d hd e he
      have eligible : Eligible q d := by simpa using (List.mem_filter.1 hd).2
      have eligible' : Eligible q e := by simpa using (List.mem_filter.1 he).2
      rw [Bool.eq_iff_iff, before_iff eligible.isNaN eligible'.isNaN, decide_eq_true_iff]
    have same := List.map_mergeSort (f := id) (s := fun d e => rank (chunk q d) ≤ rank (chunk q e))
      agree
    rwa [List.map_id, List.map_id] at same
  have sorted := @List.pairwise_mergeSort _ (fun d e => rank (chunk q d) ≤ rank (chunk q e))
    (fun d e f hd he => by simpa using le_trans (by simpa using hd) (by simpa using he))
    (fun d e => by simpa using le_total (rank (chunk q d)) (rank (chunk q e)))
    (documents.filter fun d => Eligible q d)
  rw [byRank]
  simpa using sorted

theorem retrieve_eq (documents : List Document) (q : KnowledgeQuery) :
    retrieve documents q = ((ranking q documents).take q.limit).map (chunk q) := by
  have sorted : (ranking q documents).map (chunk q) =
      ((documents.filter fun d => Eligible q d).map (chunk q)).mergeSort before :=
    List.map_mergeSort fun _ _ _ _ => rfl
  unfold retrieve
  dsimp only
  rw [filterMap_chunk?, List.map_take, sorted]
  split
  · next blank =>
    have none : documents.filter (fun d => Eligible q d) = [] := by
      refine List.filter_eq_nil_iff.2 fun d _ eligible => ?_
      obtain ⟨term, asked, -⟩ := (of_decide_eq_true eligible).shares
      rw [← mem_terms, List.isEmpty_iff.1 blank] at asked
      cases asked
    rw [none, List.map_nil, List.mergeSort_nil, List.take_nil]
  · rfl

/-- The answer to a query is made of documents of the tenant that share a term with the query and
reach its threshold, each as often as it is there: of the first ones by score and then by source,
and of as many as the limit allows. What is left out goes before nothing that is answered, and lists
that agree on the tenant's own documents answer the same. -/
theorem best_of_tenant_are_answered (documents : List Document) (q : KnowledgeQuery) :
    (∃ answered left : List Document,
      (answered ++ left).Perm (documents.filter fun d => Eligible q d) ∧
      static documents q = .done (.ok (answered.map (chunk q))) ∧
      answered.length = min q.limit (documents.filter fun d => Eligible q d).length ∧
      (answered.map (chunk q)).Pairwise Ranked ∧
      ∀ d ∈ left, ∀ e ∈ answered, ¬Precedes (chunk q d) (chunk q e)) ∧
    ∀ others : List Document,
      (others.filter fun d => d.tenantId = q.tenantId) =
        (documents.filter fun d => d.tenantId = q.tenantId) →
      static others q = static documents q := by
  have split := List.take_append_drop q.limit (ranking q documents)
  have ranked := pairwise_ranking q documents
  rw [← split, List.pairwise_append] at ranked
  obtain ⟨first, -, apart⟩ := ranked
  have eligible : ∀ {d}, d ∈ (ranking q documents).take q.limit ∨
      d ∈ (ranking q documents).drop q.limit → Eligible q d := fun mem =>
    eligible_of_mem_ranking (mem.elim List.mem_of_mem_take List.mem_of_mem_drop)
  refine ⟨⟨(ranking q documents).take q.limit, (ranking q documents).drop q.limit, ?_, ?_, ?_, ?_,
    ?_⟩, ?_⟩
  · rw [split]
    exact perm_ranking q documents
  · rw [static, retrieve_eq]
  · rw [List.length_take, (perm_ranking q documents).length_eq]
  · refine List.pairwise_map.2 (first.imp_of_mem fun hd he le => ?_)
    exact (ranked_iff (eligible (.inl hd)).isNaN (eligible (.inl he)).isNaN).2 le
  · intro d hd e he
    rw [precedes_iff (eligible (.inr hd)).isNaN (eligible (.inl he)).isNaN]
    exact not_lt.2 (apart e he d hd)
  · intro others own
    have alike : ∀ documents : List Document, (documents.filter fun d => Eligible q d) =
        (documents.filter fun d => d.tenantId = q.tenantId).filter fun d => Eligible q d := by
      intro documents
      rw [List.filter_filter]
      refine List.filter_congr fun d _ => ?_
      by_cases eligible : Eligible q d
      · simp [eligible, eligible.own]
      · simp [eligible]
    rw [static, static, retrieve_eq, retrieve_eq, ranking, ranking, alike others, own, ← alike]

/-- Two documents of a tenant about pens, one about ink, and one of another tenant. -/
def shelf : List Document :=
  [⟨"acme", "pens.md", "Pens: one pen"⟩, ⟨"acme", "ink.md", "Ink"⟩, ⟨"acme", "red.md", "A red pen."⟩,
    ⟨"other", "all.md", "red pen"⟩]

/-- Asks for the best document about red pens, if it has one of the two terms at least. -/
def redPen : KnowledgeQuery := ⟨"Red pen?", "acme", 1, 0.5⟩

/-- The document that has both terms is answered, and not the one that has one of them. -/
theorem redPen_is_found : static shelf redPen = .done (.ok [⟨"A red pen.", 1.0, "red.md"⟩]) := by
  let red : Document := ⟨"acme", "red.md", "A red pen."⟩
  let pens : Document := ⟨"acme", "pens.md", "Pens: one pen"⟩
  obtain ⟨⟨answered, left, all, answers, length, -, better⟩, -⟩ :=
    best_of_tenant_are_answered shelf redPen
  have eligible : shelf.filter (fun d => Eligible redPen d) = [pens, red] := by decide +kernel
  rw [eligible] at all length
  have whole : score redPen red = 1.0 := (score_eq redPen red).trans (by decide +kernel)
  have half : score redPen pens = 0.5 := (score_eq redPen pens).trans (by decide +kernel)
  have first : Precedes (chunk redPen red) (chunk redPen pens) := by
    refine .inl ?_
    rw [chunk, chunk, whole, half]
    decide +kernel
  obtain ⟨d, rfl⟩ := List.length_eq_one_iff.1 length
  rcases List.mem_pair.1 (all.subset (List.mem_cons_self ..)) with rfl | rfl
  · have out : red ∈ left := by
      have mem : red ∈ [pens] ++ left := all.symm.subset (by simp)
      simpa [show red ≠ pens by decide] using mem
    exact absurd first (better red out pens (by simp))
  · rw [answers, List.map_singleton, chunk, whole]

end Playbook.Knowledge
