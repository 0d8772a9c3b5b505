/-!
The arguments of the program: options of its own, the name of a command, and the options and arguments of the command.
Options of a command can stand anywhere among its arguments, and nothing behind two dashes is an option.
-/

namespace Courier.CommandLine

/-- The names of the commands. -/
inductive CommandName
  | call
  | composeUrl
  | eval
  | render
  deriving DecidableEq, Repr

/-- The words for the commands. -/
def CommandName.words : List (String × CommandName) :=
  [("call", .call), ("compose-url", .composeUrl), ("eval", .eval), ("render", .render)]

/-- A command with what it works on. Data is the name of a file. -/
inductive Command
  | call (source config : String) (data : Option String)
  | composeUrl (source config : String) (data : Option String)
  | eval (expression : String) (data : Option String)
  | render (template : String) (data : Option String)
  deriving DecidableEq, Repr

/-- What arguments ask for. -/
inductive Asked (α : Type)
  /-- To do something. -/
  | work (what : α)
  /-- To be told how the program is used. -/
  | help
  /-- Nothing that the program knows. -/
  | misuse

/-- Whether an argument is an option. -/
def isOption (argument : String) : Bool := argument.startsWith "-" && 1 < argument.length

/-- The value that an argument gives to a long option behind an equals sign. -/
def attached? (option argument : String) : Option String :=
  if argument.startsWith (option ++ "=") then some (argument.drop (option.length + 1)).toString else none

/-- The level of the log, the command, and the arguments of the command. -/
structure Invocation where
  logLevel : String
  name : CommandName
  arguments : List String

/-- The invocation of the command that arguments start with. -/
def ofCommand (logLevel : String) (help : Bool) : List String → Asked Invocation
  | [] => if help then .help else .misuse
  | name :: arguments =>
    if help then .help
    else match CommandName.words.find? fun w => w.1 == name with
      | some (_, name) => .work ⟨logLevel, name, arguments⟩
      | none => .misuse

/-- Reads the options in front of the command. -/
def readInvocation (logLevel : String) (help : Bool) : List String → Asked Invocation
  | "--" :: rest => ofCommand logLevel help rest
  | "--help" :: rest => readInvocation logLevel true rest
  | ["--log-level"] => .misuse
  | "--log-level" :: level :: rest => readInvocation level help rest
  | argument :: rest =>
    if !isOption argument then ofCommand logLevel help (argument :: rest)
    else match attached? "--log-level" argument with
      | some level => readInvocation level help rest
      | none => .misuse
  | [] => ofCommand logLevel help []

/-- The arguments of a command with the options taken out. -/
structure Taken where
  positional : List String
  data : Option String
  help : Bool

/-- Takes the options out of the arguments of a command. -/
def takeOptions : Taken → List String → Option Taken
  | t, [] => some t
  | t, "--" :: rest => some { t with positional := t.positional ++ rest }
  | t, "--help" :: rest => takeOptions { t with help := true } rest
  | _, ["--data"] => none
  | _, ["-d"] => none
  | t, "--data" :: file :: rest => takeOptions { t with data := some file } rest
  | t, "-d" :: file :: rest => takeOptions { t with data := some file } rest
  | t, argument :: rest =>
    if !isOption argument then takeOptions { t with positional := t.positional ++ [argument] } rest
    else match attached? "--data" argument with
      | some file => takeOptions { t with data := some file } rest
      | none =>
        if argument.startsWith "-d" then takeOptions { t with data := some (argument.drop 2).toString } rest else none

/-- The command of a name with its arguments. -/
def readCommand (name : CommandName) (arguments : List String) : Asked Command :=
  match takeOptions ⟨[], none, false⟩ arguments with
  | none => .misuse
  | some t =>
    if t.help then .help
    else match name, t.positional with
      | .call, [source, config] => .work (.call source config t.data)
      | .composeUrl, [source, config] => .work (.composeUrl source config t.data)
      | .eval, [expression] => .work (.eval expression t.data)
      | .render, [template] => .work (.render template t.data)
      | _, _ => .misuse

end Courier.CommandLine
