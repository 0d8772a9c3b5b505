import Courier.Exchange.Inflate
import Courier.Exchange.Message
import Courier.Text.Search

/-!
Bodies that were compressed on their way. The header of a reply names what was done to its body, the last step last;
steps that are not known are taken for none.
-/

namespace Courier.Exchange.ContentEncoding

/-- A step that can be undone. -/
inductive Coding
  | file
  | deflated
  deriving DecidableEq, Repr

/-- The step of a name. -/
def ofName? (name : String) : Option Coding :=
  match (Text.trim name).map Char.toLower with
  | "gzip" => some .file
  | "deflate" => some .deflated
  | _ => none

/-- The steps that headers name. -/
def codings (headers : Headers) : List Coding :=
  ((headers.valuesOf "Content-Encoding").flatMap fun v => v.splitOn ",").filterMap ofName?

/-- Undoes a step. Deflated data without the envelope that belongs around them are read all the same. -/
def Coding.undo (coding : Coding) (bytes : Text.Bytes) : Except Inflate.Fault Text.Bytes :=
  match coding with
  | .file => Inflate.read .file bytes
  | .deflated =>
    match Inflate.read .summed bytes with
    | .ok plain => .ok plain
    | .error _ => Inflate.read .bare bytes

/-- The body as it was before all steps. -/
def plainBody (headers : Headers) (body : Text.Bytes) : Except Inflate.Fault Text.Bytes :=
  (codings headers).reverse.foldlM (fun bytes coding => coding.undo bytes) body

end Courier.Exchange.ContentEncoding
