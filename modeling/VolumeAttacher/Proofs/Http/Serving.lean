import VolumeAttacher.Http.Server
import VolumeAttacher.Proofs.Http.Routes

/-!
# Accepted settings and the server

Settings are accepted if the path for the metrics begins with a slash and is not the path of the
health. A server can be set up with such a path just if it writes a route, and then the health is
served as the driver's probe says, whatever the route of the metrics matches.
-/

namespace VolumeAttacher

open Http (Route Response Server)

namespace CommandLine

variable {settings : CommandLine}

theorem validate_eq_ok_iff : settings.validate = .ok () ↔ settings.fault? = none := by
  unfold validate
  split <;> simp_all

theorem metricsPath_ne_of_accepted (accepted : settings.validate = .ok ()) :
    settings.metricsPath ≠ healthPath := by
  intro same
  have faultless := validate_eq_ok_iff.mp accepted
  simp only [fault?, Option.orElse_eq_orElse, Option.orElse_eq_or, Option.or_eq_none_iff,
    same, or_true, if_true] at faultless
  rcases faultless with ⟨-, -, last⟩
  split at last
  · contradiction
  · split at last <;> contradiction

end CommandLine

namespace Http.Server

variable {path : String} {server : Server}

/-- No other path has the route of the health. -/
theorem eq_healthPath_of_isWrittenBy (written : healthRoute.IsWrittenBy path) :
    path = healthPath :=
  String.toList_injective (Route.eq_of_writes_literal (by decide) (by decide) written.writes)

theorem ofMetricsPath?_eq_some_iff :
    ofMetricsPath? path = some server ↔
      server.metricsRoute.IsWrittenBy path ∧ server.metricsRoute ≠ healthRoute := by
  rw [ofMetricsPath?, Option.bind_eq_some_iff]
  constructor
  · rintro ⟨route, read, set⟩
    split at set
    · contradiction
    next other =>
        rcases Option.some.inj set with rfl
        exact ⟨Route.ofText?_eq_some_iff.mp read, other⟩
  · rintro ⟨written, other⟩
    exact ⟨server.metricsRoute, Route.ofText?_eq_some_iff.mpr written, if_neg other⟩

theorem respond_health (server : Server) {uri : Uri} (asked : uri.path = healthPath)
    (probes : List Csi.ProbeAnswer) :
    server.respond .get uri probes =
      (Response.health (probes.head?.getD (.ok true)), probes.tail) := by
  have isHealth : server.page? uri.path = some .health := by
    rw [asked, page?]
    exact if_pos (by decide)
  simp [respond, isHealth]

end Http.Server

/-- A server can be set up, and answers requests for the health with what the driver's probes
say. -/
def ServesHealth (metricsPath : String) : Prop :=
  ∃ server, Server.ofMetricsPath? metricsPath = some server ∧
    ∀ (uri : Uri) (probes : List Csi.ProbeAnswer), uri.path = healthPath →
      server.respond .get uri probes =
        (Response.health (probes.head?.getD (.ok true)), probes.tail)

/-- Of the paths for the metrics in settings that are accepted, just those that write a route let
the health be served. -/
theorem servesHealth_iff {settings : CommandLine} (accepted : settings.validate = .ok ()) :
    ServesHealth settings.metricsPath ↔
      ∃ route : Route, route.IsWrittenBy settings.metricsPath := by
  constructor
  · rintro ⟨server, set, -⟩
    exact ⟨_, (Server.ofMetricsPath?_eq_some_iff.mp set).1⟩
  · rintro ⟨route, written⟩
    have other : route ≠ Server.healthRoute := by
      rintro rfl
      exact CommandLine.metricsPath_ne_of_accepted accepted
        (Server.eq_healthPath_of_isWrittenBy written)
    refine ⟨⟨route⟩, Server.ofMetricsPath?_eq_some_iff.mpr ⟨written, other⟩, ?_⟩
    intro uri probes asked
    exact Server.respond_health _ asked probes

/-- Settings whose metrics are below any path with a name and a brace in it. -/
def nestedMetrics : CommandLine where
  metricsPath := "/\x7bnode\x7d/\x7b\x7b/\x7b*rest\x7d"

theorem servesHealth_of_nestedMetrics :
    nestedMetrics.validate = .ok () ∧ ServesHealth nestedMetrics.metricsPath := by
  have accepted : nestedMetrics.validate = .ok () := by decide
  have read : Route.ofText? nestedMetrics.metricsPath = some
      ⟨.char '/' :: .segment :: ['/', '\x7b', '/'].map .char ++ [.rest]⟩ := by decide
  exact ⟨accepted, (servesHealth_iff accepted).mpr ⟨_, Route.ofText?_eq_some_iff.mp read⟩⟩

/-- Settings whose path for the metrics opens a name that does not end. -/
def openMetrics : CommandLine where
  metricsPath := "/\x7b"

/-- A path that writes no route is accepted, and no server can be set up with it, so that the health
is not served. -/
theorem exists_accepted_not_served :
    openMetrics.validate = .ok () ∧ Server.ofMetricsPath? openMetrics.metricsPath = none ∧
      ¬ ServesHealth openMetrics.metricsPath := by
  have refused : Server.ofMetricsPath? openMetrics.metricsPath = none := by decide
  refine ⟨by decide, refused, ?_⟩
  rintro ⟨server, set, -⟩
  exact nomatch refused.symm.trans set

end VolumeAttacher
