import VolumeAttacher.Csi.Identity
import VolumeAttacher.Http.Route
import VolumeAttacher.Net.Uri
import VolumeAttacher.Settings.CommandLine

/-!
# Health and metrics over HTTP

The server answers two routes: the health, which is what a probe of the driver says, and the
metrics. The route of the metrics is a setting. The server can only be set up if that is a route,
and one that differs from the route of the health; where both match, the health is served.
-/

namespace VolumeAttacher.Http

/-- What a path leads to. -/
inductive Page where
  | health
  | metrics
deriving DecidableEq, Repr

/-- The routes of the server. -/
structure Server where
  metricsRoute : Route
deriving DecidableEq, Repr

namespace Server

def healthRoute : Route :=
  Route.literal healthPath

/-- The server with a path for the metrics, if it can be set up. -/
def ofMetricsPath? (path : String) : Option Server :=
  (Route.ofText? path).bind fun route =>
    if route = healthRoute then none else some ⟨route⟩

def page? (server : Server) (path : String) : Option Page :=
  if healthRoute.accepts path then some .health
  else if server.metricsRoute.accepts path then some .metrics
  else none

end Server

/-- A method of a request. -/
inductive Method where
  | get
  /-- Get what the page would come with, without its body. -/
  | head
  | other
deriving DecidableEq, Repr

namespace Method

def allows (c : Char) : Bool :=
  c.isAlphanum || "!#$%&'*+-.^_|~".toList.contains c || c.val = 0x60

/-- The method of a name, if a method can be named so. -/
def ofName? (name : String) : Option Method :=
  match name with
  | "GET" => some get
  | "HEAD" => some head
  | _ => if name ≠ "" && name.toList.all allows then some other else none

end Method

/-- A response, in which the metrics are not spelled out. -/
structure Response where
  status : Nat
  contentType : Option String := none
  /-- The body; none stands for the metrics. -/
  body : Option String := some ""
deriving DecidableEq, Repr

namespace Response

def textType : String := "text/plain; charset=utf-8"

def metricsType : String := "text/plain; version=0.0.4"

def health : Csi.ProbeAnswer → Response
  | .ok true => ⟨200, textType, "ok"⟩
  | .ok false => ⟨503, textType, "driver not ready"⟩
  | .error error => ⟨503, textType, error.message⟩

def metrics : Response := ⟨200, metricsType, none⟩

/-- The response to a request for a page that is not there. -/
def notFound : Response := ⟨404, none, some ""⟩

/-- The response to a request with a method that the page does not have. -/
def methodNotAllowed : Response := ⟨405, none, some ""⟩

/-- The response without its text. -/
def withoutText (response : Response) : Response :=
  { response with body := response.body.map fun _ => "" }

end Response

/-- Answers a request. A probe is made only for the health, and its answer is the first of a list;
a driver that has given all its answers is ready. -/
def Server.respond (server : Server) (method : Method) (uri : Uri)
    (probes : List Csi.ProbeAnswer) : Response × List Csi.ProbeAnswer :=
  match server.page? uri.path, method with
  | none, _ => (.notFound, probes)
  | some _, .other => (.methodNotAllowed, probes)
  | some .health, method =>
      let response := Response.health (probes.head?.getD (.ok true))
      (if method = .head then response.withoutText else response, probes.tail)
  | some .metrics, _ => (.metrics, probes)

end VolumeAttacher.Http
