import Rollup.Cluster.Url
import Rollup.Config.Basic
import Rollup.Json.Reader
import Rollup.Text.Base64

/-!
# Searching a cluster

A cluster runs a request that is posted to a path made of the index, the type and
`_search`. What it replies is either the response or an error, told apart by the status.
-/

namespace Rollup

structure Cluster where
  url : Cluster.Url
  username : Option String := none
  password : Option String := none
deriving DecidableEq, Repr

namespace Cluster

structure Message where
  url : Url
  authorization : Option String
  body : Json
deriving Repr

structure Reply where
  status : Nat
  body : String
deriving DecidableEq, Repr

def ofAddress? (address : String) : Option Cluster :=
  (Url.parse? address).map (fun url => { url := url })

def ofConfig? (config : Config) : Option Cluster :=
  (Url.parse? config.url).map (fun url =>
    { url := url, username := config.username, password := config.password })

def targetNames (request : Request.Search) : List String :=
  [request.index] ++ request.docType.toList ++ ["_search"]

def searchUrl (cluster : Cluster) (request : Request.Search) : Url :=
  { cluster.url with
    path :=
      (targetNames request).foldl (Url.push cluster.url.scheme)
        (Url.dropEmptyLast cluster.url.path) }

def authorization? (cluster : Cluster) : Option String :=
  cluster.username.map (fun username =>
    let pair := username ++ ":" ++ cluster.password.getD ""
    "Basic " ++ String.ofList (Text.base64 (Text.utf8 pair.toList)))

def message (cluster : Cluster) (request : Request.Search) : Message :=
  { url := cluster.searchUrl request
    authorization := cluster.authorization?
    body := request.body.json }

def Message.requestLine (message : Message) : String :=
  "POST " ++ message.url.pathText ++ message.url.queryText

def missingIndex? (body : String) : Option String := do
  let error <- (<- Json.parse? body).field? "error"
  if (<- (<- error.field? "type").toString?) = "index_not_found_exception" then
    (<- error.field? "index").toString?
  else
    none

def response (request : Request.Search) (reply : Reply) : Except BackendError Json :=
  if 200 <= reply.status && reply.status < 300 then
    match Json.parse? reply.body with
    | some value => .ok value
    | none => .error (.malformed (.other "the body is not JSON"))
  else if reply.status = 404 then
    .error (.indexNotFound ((missingIndex? reply.body).getD request.index))
  else
    .error (.status reply.status reply.body)

end Cluster
end Rollup
