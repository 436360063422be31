import SemanticLayer.Error

/-!
Access tokens. A token is kept once it is known; one that is missing or to be renewed is looked up
among the variables of the surroundings.
-/

namespace SemanticLayer

/-- Where tokens come from: the one that is known, and the name of the variable that others are
looked up in. An empty token counts as none. -/
structure TokenSource where
  key : String
  token : Option String
  deriving Repr, DecidableEq

namespace TokenSource

/-- The name of the variable that holds the token unless another one is given. -/
def defaultKey : String := "BIGQUERY_ACCESS_TOKEN"

def someToken (token : Option String) : Option String :=
  token.filter fun s => !s.isEmpty

def missing : Report :=
  .make .warehouseAuth "No BigQuery access token configured"

/-- The source after looking for a token where none is known. -/
def resolve (source : TokenSource) (env : String → Option String) : TokenSource :=
  { source with token := (someToken source.token).or (env source.key) }

/-- The source after looking for a new token; without one the old token stays. -/
def renew (source : TokenSource) (env : String → Option String) : TokenSource :=
  { source with token := (someToken (env source.key)).or source.token }

/-- The token that is known. -/
def current (source : TokenSource) : Except Report String :=
  match someToken source.token with
  | some token => .ok token
  | none => .error missing

end TokenSource

end SemanticLayer
