import Accession.Load.Batch
import Accession.Yaml.Decode

/-!
# Options in YAML

`Load.Options.ofYaml` reads how records are loaded from a mapping with the keys `on_error` and
`transaction_scope`, either of which may be missing.
-/

namespace Accession.Load

namespace ErrorPolicy

/-- The policy of a name. -/
def ofName? : String → Option ErrorPolicy
  | "abort" => some abort
  | "skip" => some skip
  | _ => none

end ErrorPolicy

namespace TransactionScope

/-- The scope of a name. -/
def ofName? : String → Option TransactionScope
  | "per_row" => some perRow
  | "per_record" => some perRecord
  | _ => none

end TransactionScope

namespace Options

open Yaml (Decode)

/-- The options that a node writes. -/
def decode (n : Yaml.Node) : Decode Options := do
  let found ← Decode.fields ["on_error", "transaction_scope"] n
  let onError ← Decode.field found "on_error" default.onError (Decode.name ErrorPolicy.ofName?)
  let scope ← Decode.field found "transaction_scope" default.scope
    (Decode.name TransactionScope.ofName?)
  pure ⟨onError, scope⟩

/-- The options of a document. -/
def ofYaml (contents : String) : Except Yaml.Error Options := Decode.run decode contents

end Options

end Accession.Load
