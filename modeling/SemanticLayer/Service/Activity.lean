import SemanticLayer.Registry.Source
import SemanticLayer.Service.Basic

/-!
What happens to a service over time. Sources of tables are registered from outside, and requests are
replied to, in any order.
-/

namespace SemanticLayer

inductive Activity where
  | connection (entry : NewConnection)
  | syncedTable (entry : NewSyncedTable)
  | runtimeTable (entry : NewRuntimeTable)
  | request (request : HttpRequest) (now : String)

namespace Service

variable {δ σ : Type} [Duration δ]

def act (service : Service δ σ) (state : ServiceState σ) : Activity → ServiceState σ
  | .connection entry => { state with registry := (state.registry.registerConnection entry).2 }
  | .syncedTable entry => { state with registry := (state.registry.registerSyncedTable entry).2 }
  | .runtimeTable entry => { state with registry := (state.registry.registerRuntimeTable entry).2 }
  | .request request now => (service.handle request now state).2

/-- What the activities leave, one after another. -/
def run (service : Service δ σ) (activities : List Activity) (state : ServiceState σ) :
    ServiceState σ :=
  activities.foldl service.act state

end Service

end SemanticLayer
