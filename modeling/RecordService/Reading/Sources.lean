import RecordService.Query.Draft
import RecordService.Service

namespace RecordService

/-!
# Sources of queries

Queries come as drafts, which are built by the metadata of the service, or as XML. Both leave
their lines in the journal.

* `QueryDraft.toQuery`: the query of a draft.
* `QueryDraft.ask`: the query of a draft, after its entities have been looked up.
* `Query.fromXml`: the query of an XML text.
-/

variable {σ : Type}

/-- The query of a draft. -/
def QueryDraft.toQuery (d : QueryDraft) (catalog : Catalog) : Call σ Query := do
  Call.notes (d.journal catalog)
  Call.ofAnswer (d.build catalog)

/-- The query of a draft, by what the service tells of some entities. -/
def QueryDraft.ask (d : QueryDraft) (service : Service σ) (entities : List String) :
    Call σ Query := do
  d.toQuery (← Catalog.load service entities)

/-- The query of an XML text. -/
def Query.fromXml (s : String) : Call σ Query := do
  Call.notes (xmlJournal s)
  Call.ofAnswer (ofXml s)

end RecordService
