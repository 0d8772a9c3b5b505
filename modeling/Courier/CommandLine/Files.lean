import Courier.Error

/-!
The files that a command reads. A name is written without the parts that lead nowhere before it is looked up, and that
is how it shows in messages.
-/

namespace Courier.CommandLine

/-- Files by their names: what each of them holds. -/
abbrev Files := List (String × String)

/-- The root that a name of a file starts at. Exactly two slashes are a root of their own. -/
def rootOf (name : String) : String :=
  if name.startsWith "//" && !name.startsWith "///" then "//" else if name.startsWith "/" then "/" else ""

/-- The name of a file without empty parts and parts that stay where they are. -/
def plainName (name : String) : String :=
  let parts := (name.splitOn "/").filter fun p => !p.isEmpty && p != "."
  let plain := rootOf name ++ Text.join "/" parts
  if plain.isEmpty then "." else plain

/-- What a file holds, if there is one of that name. -/
def Files.read (files : Files) (name : String) : Except Error (Option String) :=
  let name := plainName name
  let files := files.map fun (n, text) => (plainName n, text)
  match entryOf? name files with
  | some text => .ok (some (String.ofList (Text.unifyLines text.toList)))
  | none =>
    if name == "." || files.any fun (n, _) => n.startsWith (name ++ "/") then .error (.isDirectory name)
    else if files.any fun (n, _) => name.startsWith (n ++ "/") then .error (.throughFile name)
    else .ok none

end Courier.CommandLine
