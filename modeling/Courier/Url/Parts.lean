import Courier.Language.Access
import Courier.Language.Comparison
import Courier.Language.Shown
import Courier.Url.Address

/-!
URLs from parts that are any values. A scheme, port, query or fragment that counts as false is missing; host, path and
user are shown as they are, and a password that is there at all is written.
-/

namespace Courier.Url.Address

open Courier.Language

/-- The text of a part. -/
def shown? (entries : List (String × Document)) (name : String) (needed : Value → Bool) :
    Except Language.Fault (Option String) :=
  match entryOf? name entries with
  | none => .ok none
  | some d =>
    let v := Value.ofDocument name [] d
    if needed v then do return some (← v.toText) else .ok none

/-- The parts that entries name. -/
def ofEntries (entries : List (String × Document)) : Except Language.Fault Address := do
  let hasPassword := (entryOf? "pass" entries).isSome
  let always : Value → Bool := fun _ => true
  let scheme ← shown? entries "scheme" Value.isTrue
  let port ← shown? entries "port" Value.isTrue
  let user ← shown? entries "user" fun v => hasPassword || v.isTrue
  let password ← shown? entries "pass" always
  let host ← shown? entries "host" always
  let path ← shown? entries "path" always
  let query ← shown? entries "query" Value.isTrue
  let fragment ← shown? entries "fragment" Value.isTrue
  return ⟨scheme, user, password, host, port, path, query, fragment⟩

end Courier.Url.Address
