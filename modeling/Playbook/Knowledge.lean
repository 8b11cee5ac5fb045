import Playbook.Activity
import Playbook.Json.Record
import Playbook.Text.LetterCase
import Playbook.Text.Property
import Playbook.Settings.Basic

/-!
Knowledge for messages: a provider answers a query of a tenant with chunks of text. The provider
over a fixed list of documents scores a document of the tenant by the share of the query's terms
that occur in it, and answers with the best ones.
-/
namespace Playbook

open Json (Value)

structure KnowledgeChunk where
  content : String
  relevance : Float32
  source : String

def KnowledgeChunk.encode (c : KnowledgeChunk) : Value := .object [
  ("content", .text c.content),
  ("relevance_score", .ofSingle c.relevance),
  ("source", .text c.source)]

structure KnowledgeQuery where
  query : String
  tenantId : String
  limit : Nat
  threshold : Float32

/-- Answers a query with chunks, or says why it cannot. -/
abbrev KnowledgeProvider := KnowledgeQuery → Activity Empty (Except String (List KnowledgeChunk))

namespace Knowledge

/-- The provider that knows nothing. -/
def none : KnowledgeProvider := fun _ => .done (.ok [])

structure Document where
  tenantId : String
  source : String
  content : String
  deriving DecidableEq, Repr

/-- The maximal runs of alphanumeric characters. -/
def words : List Char → List Char → List (List Char)
  | word, [] => [word.reverse]
  | word, c :: rest =>
    if Text.isAlphanumeric c then words (c :: word) rest else word.reverse :: words [] rest

/-- The words of more than two bytes in lower case, each once. -/
def terms (text : String) : List String :=
  let long := ((words [] text.toList).map String.ofList).filter fun w => 2 < w.utf8ByteSize
  (long.map Text.lower).eraseDups

/-- How many of the terms occur in a text. -/
def overlap (queryTerms : List String) (content : String) : Nat :=
  let found := terms content
  (queryTerms.filter found.contains).length

def single (n : Nat) : Float32 := n.toUInt64.toFloat32

/-- The chunk of a document that shares a term with the query and reaches the threshold. -/
def chunk? (queryTerms : List String) (threshold : Float32) (d : Document) :
    Option KnowledgeChunk :=
  let shared := overlap queryTerms d.content
  let score := single shared / single queryTerms.length
  if 0 < shared ∧ threshold ≤ score then some ⟨d.content, score, d.source⟩ else .none

/-- Whether a chunk may stand before another: by score from the highest, then by source. -/
def before (a b : KnowledgeChunk) : Bool :=
  b.relevance < a.relevance || (!(a.relevance < b.relevance) && decide (a.source ≤ b.source))

/-- The best chunks that a list of documents has for a query. -/
def retrieve (documents : List Document) (q : KnowledgeQuery) : List KnowledgeChunk :=
  let queryTerms := terms q.query
  if queryTerms.isEmpty then []
  else
    let own := documents.filter fun d => d.tenantId == q.tenantId
    ((own.filterMap (chunk? queryTerms q.threshold)).mergeSort before).take q.limit

/-- The provider over a fixed list of documents. -/
def static (documents : List Document) : KnowledgeProvider :=
  fun q => .done (.ok (retrieve documents q))

end Knowledge
end Playbook
