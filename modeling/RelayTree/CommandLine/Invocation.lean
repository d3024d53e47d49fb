import RelayTree.CommandLine.Arguments

/-!
# Invocations

What can be asked on the command line about a deployment: its tree, the route
between two hosts, the table of a host, or a check of everything.
-/
namespace RelayTree.CommandLine

/-- How an answer is written: as lines for people, or as one document. -/
inductive Format where
  | text
  | json
deriving DecidableEq, Repr

/-- What is asked, with the hosts it is asked about. -/
inductive Command where
  | tree
  | route (source target : String)
  | table (host : String)
  | check
deriving DecidableEq, Repr

/-- A question about a deployment file, and how its answer shall be written. -/
structure Invocation where
  path : String
  format : Format
  command : Command
deriving DecidableEq, Repr

/-- What a line of arguments asks for: an answer, help, or nothing that makes sense. -/
inductive Request where
  | run (invocation : Invocation)
  | help
  | misuse
deriving DecidableEq, Repr

/-- The deployment file that is read when none is named, in the current directory. -/
def defaultPath : String := "claid.json"

/-- The options for all commands, which stand before the command. -/
def commonSpecs : List Spec :=
  [⟨"config", some 'c', true, false⟩, ⟨"json", none, false, true⟩]

/-- An option whose value is a name. It has no letter, and the name may be empty. -/
def nameSpec (name : String) : Spec := ⟨name, none, true, true⟩

/-- The commands and their options, all of which a command needs. -/
def commandSpecs : List (String × List Spec) :=
  [ ("tree", []), ("route", [nameSpec "from", nameSpec "to"]), ("table", [nameSpec "host"]),
    ("check", []) ]

/-- The command with a name, if it has all its options. -/
def command? (name : String) (options : SortedMap String String) : Option Command :=
  match name with
  | "tree" => some .tree
  | "route" => do return .route (← options.get? "from") (← options.get? "to")
  | "table" => (options.get? "host").map .table
  | "check" => some .check
  | _ => none

/-- Whether help is available on what follows the word help: nothing, or one name. -/
def isHelpTopic : List String → Bool
  | [] => true
  | [name] => name = "help" || (commandSpecs.lookup name).isSome
  | _ => false

/-- Read a command and its options. Help can be asked for as a command too. -/
def readCommand (common : SortedMap String String) (name : String) (arguments : List String) :
    Request :=
  match commandSpecs.lookup name with
  | none => if name = "help" && isHelpTopic arguments then .help else .misuse
  | some specs =>
    match readLast specs arguments with
    | .help => .help
    | .misuse => .misuse
    | .given options _ =>
      match command? name options with
      | none => .misuse
      | some command =>
        .run
          ⟨(common.get? "config").getD defaultPath,
            if common.contains "json" then .json else .text, command⟩

/-- Read a line of arguments. A line without a command makes no sense. -/
def Request.ofArguments (arguments : List String) : Request :=
  match readOptions commonSpecs .empty arguments with
  | .help => .help
  | .misuse => .misuse
  | .given _ none => .misuse
  | .given common (some (name, rest)) => readCommand common name rest

/-- What is shown on a request for help, whichever way it was asked for. -/
def usage : String :=
  String.join
    [ "Inspect routing topologies\n\n",
      "Usage: [-c, --config <CONFIG>] [--json] <COMMAND>\n\n",
      "Commands:\n",
      "  tree                       Print the routing tree, one host per line\n",
      "  route --from <A> --to <B>  Resolve the route between two hosts, as seen from the source\n",
      "  table --host <HOST>        Show which strategy a host uses for every other host\n",
      "  check                      Validate topology and module channel bindings of every host\n" ]

end RelayTree.CommandLine
