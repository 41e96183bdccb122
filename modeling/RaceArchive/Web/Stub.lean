import RaceArchive.Web.Http

/-!
# A scripted server

A stand-in for remote services: a list of routes, each a method and a URL with a queue of
replies. A request takes the route whose method and URL equal its own, or failing that the route
whose URL equals its URL without the query (a URL that ends in a `?` with nothing after it keeps
that `?`). Each request takes the route's next reply, and the
last reply repeats. A request that no route takes gets status 404 with the body `no route`. A
reply may instead be a failure on the way, with its reason.

The server keeps every request it received, in order.
-/

namespace RaceArchive.Stub

/-- One scripted reply: a response, or a failure with its reason. -/
structure Reply where
  status : Int := 200
  headers : List (String × String) := []
  body : ByteArray := ByteArray.empty
  failure : Option String := none

/-- A route and how many of its replies have been taken. -/
structure Route where
  method : String := "GET"
  url : String
  replies : List Reply
  taken : Nat := 0

/-- The server: its routes and the requests received. -/
structure Server where
  routes : Array Route := #[]
  received : Array Http.Request := #[]

/-- The index of the route that takes a request. -/
def Server.routeFor (s : Server) (method : String) (url : Url.Url) : Option Nat :=
  match s.routes.findIdx? (fun r => r.method == method && r.url == url.render) with
  | some i => some i
  | none =>
    let bare := { url with rawQuery := [] }.render
    s.routes.findIdx? (fun r => r.method == method && r.url == bare)

def Reply.toResponse (r : Reply) : Http.Response :=
  ⟨r.status, r.headers.foldl (fun h (k, v) => h.add k v) [], r.body⟩

/-- Serves a request: the outcome and the server after it. -/
def Server.serve (s : Server) (req : Http.Request) : Except String Http.Response × Server :=
  let s := { s with received := s.received.push req }
  match s.routeFor req.method req.url with
  | none => (.ok ⟨404, [], "no route".toUTF8⟩, s)
  | some i =>
    match s.routes[i]? with
    | none => (.ok ⟨404, [], "no route".toUTF8⟩, s)
    | some route =>
      let reply := route.replies[route.taken]?.getD (route.replies.getLast?.getD {})
      let s := { s with routes := s.routes.modify i fun r => { r with taken := r.taken + 1 } }
      match reply.failure with
      | some reason => (.error reason, s)
      | none => (.ok reply.toResponse, s)

end RaceArchive.Stub
