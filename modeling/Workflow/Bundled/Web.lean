import Workflow.Tool

/-!
The web as the bundled tools see it: how a search and a post answer, and a record of what was asked.
-/
namespace Workflow

/-- How the search engine answers. -/
inductive SearchAnswer where
  | rows (rows : List Value)
  | failed (message : String)

/-- How a post answers: with a status and a body, with a failure of the transfer, or by raising. -/
inductive PostAnswer where
  | response (status : Int) (body : String)
  | failed (message : String)
  | raised (error : Raised)

inductive WebRequest where
  | search (query : String) (maxResults : Nat)
  | post (url : String) (payload timeout : Value)

structure Web where
  onSearch : SearchAnswer
  onPost : PostAnswer
  requests : List WebRequest

namespace Web

/-- Without a connection a search finds nothing and a post fails. -/
def offline : Web := ⟨.rows [], .failed "no network", []⟩

def ask (request : WebRequest) (web : Web) : Web :=
  { web with requests := web.requests ++ [request] }

end Web
end Workflow
