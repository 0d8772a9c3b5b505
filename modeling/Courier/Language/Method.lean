import Courier.Language.Method.Bytes
import Courier.Language.Method.Items
import Courier.Language.Method.Map
import Courier.Language.Method.Number
import Courier.Language.Method.Text

/-!
The methods of all values.
-/

namespace Courier.Language

namespace Method

/-- Calls a method of a settled value. The arguments that are streams were read before. -/
def call (owner : Value) (name : String) (a : Arguments) : Effect :=
  match owner with
  | .text identity s => .unchanged (if name == "encode" then encode s a else onText identity s name a)
  | .safeText s => .unchanged (if name == "encode" then encode s a else onSafeText s name a)
  | .bytes b => .unchanged (onBytes b name a)
  | .list identity items => .ofStep (onList identity items name a)
  | .map identity entries => .ofStep (onMap identity entries name a)
  | .builtin .dict => .ofStep (onMapType name a)
  | .view _ _ _ => .unchanged (onView owner name a)
  | .tuple _ items => .unchanged (onItems "tuple" items name a)
  | .range start stop step => .unchanged (onItems "range" (Value.rangeItems start stop step) name a)
  | .slice start stop step => .unchanged (sliceIndices start stop step a)
  | .int _ _ | .bool _ | .float _ _ | .complex _ _ => .unchanged (onNumber owner name a)
  | v => .unchanged (.error (.noAttribute v.typeName name))

end Method

end Courier.Language
