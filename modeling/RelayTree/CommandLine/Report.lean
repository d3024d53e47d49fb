import RelayTree.CommandLine.Invocation
import RelayTree.Dispatcher.Reload
import RelayTree.Json.Value

/-!
# Reports

How the answers of the command line are written: as lines, or as one document on
several lines. A failure is written with what caused it, each cause indented below.
-/
namespace RelayTree.CommandLine

/-- A failure as people see it: what could not be done, and why. -/
structure Trouble where
  message : String
  causes : List String
deriving DecidableEq, Repr

namespace Trouble

/-- A failure on its own, with its cause if it has one. -/
def ofFailure (failure : Failure) : Trouble := ⟨failure.message, failure.cause?.toList⟩

/-- What could not be done because of a failure, which thereby becomes the first cause. -/
def during (activity : String) (failure : Failure) : Trouble :=
  ⟨activity, failure.message :: failure.cause?.toList⟩

/-- A text whose lines after the first are indented, so that a cause of several lines stays
together. -/
def indent (blanks : Nat) (text : String) : String :=
  String.ofList (text.toList.flatMap fun c =>
    if c = '\n' then '\n' :: List.replicate blanks ' ' else [c])

/-- The lines of several causes, each with its number, counted from the one given. -/
def numbered (number : Nat) : List String → String
  | [] => ""
  | cause :: rest =>
    "\n    " ++ number.repr ++ ": " ++ indent 7 cause ++ numbered (number + 1) rest

/-- The lines of the causes. A single cause has no number, and no cause has no lines. -/
def causesText : List String → String
  | [] => ""
  | [cause] => "\n\nCaused by:\n    " ++ indent 4 cause
  | several => "\n\nCaused by:" ++ numbered 0 several

/-- The lines of a failure, with a line break after the last one. -/
def text (trouble : Trouble) : String :=
  "Error: " ++ trouble.message ++ causesText trouble.causes ++ "\n"

end Trouble

/-- A document and a line break, with one member a line. -/
def page (value : Json.Value) : String := value.pretty ++ "\n"

/-- A tree: its rendering, or its hosts with their parents, in the order of the description. -/
def treeReport (tree : RoutingTree) : Format → String
  | .text => tree.render
  | .json => page (.array (tree.hosts.map fun host =>
      .object [("host", .string host), ("parent", .ofOption (tree.parent? host))]))

/-- The line of the next hop, if the path has one; without it the report just ends sooner. -/
def nextHopLine (route : Route) : String :=
  match route.nextHop? with
  | some hop => "  next hop: " ++ hop ++ "\n"
  | none => ""

/-- A route between two hosts, with its direction, its path and its next hop. -/
def routeReport (source target : String) (route : Route) : Format → String
  | .text =>
    source ++ " -> " ++ target ++ " (" ++ route.direction.name ++ ")\n  path: "
      ++ " -> ".intercalate route.path ++ "\n" ++ nextHopLine route
  | .json => page (.object
      [ ("from", .string source), ("to", .string target),
        ("direction", .string route.direction.name),
        ("path", .array (route.path.map .string)), ("next_hop", .ofOption route.nextHop?) ])

/-- A name with blanks after it up to a number of characters. A longer name is not cut. -/
def padded (width : Nat) (name : String) : String :=
  name ++ String.ofList (List.replicate (width - name.length) ' ')

/-- The width of the first column: the size of the longest name in bytes. Names are
padded by characters, so the column is wider than needed when names have characters
of several bytes. -/
def columnWidth (names : List String) : Nat :=
  names.foldl (fun width name => max width name.utf8ByteSize) 0

/-- The table of a host, with the strategies in one column or one member for each host. -/
def tableReport (host : String) (table : SortedMap String Strategy) : Format → String
  | .text =>
    "routing table of " ++ host ++ ":\n" ++ String.join (table.entries.map fun entry =>
      "  " ++ padded (columnWidth table.keys) entry.1 ++ "  " ++ entry.2.name ++ "\n")
  | .json => page (.object (table.entries.map fun entry => (entry.1, .string entry.2.name)))

/-- What a check found. Without a tree there is no root, and its name is empty. -/
structure CheckReport where
  hosts : Nat
  modules : Nat
  root : String
  problems : List String
deriving DecidableEq, Repr

/-- The result of a check, which is good news if it has no problems. -/
def CheckReport.text (report : CheckReport) : Format → String
  | .text =>
    report.hosts.repr ++ " hosts, " ++ report.modules.repr ++ " modules, root " ++ report.root
      ++ "\n" ++ (if report.problems.isEmpty then "configuration OK\n" else "")
      ++ String.join (report.problems.map fun problem => "  problem: " ++ problem ++ "\n")
  | .json => page (.object
      [ ("hosts", .natural report.hosts), ("modules", .natural report.modules),
        ("root", .string report.root), ("problems", .array (report.problems.map .string)) ])

end RelayTree.CommandLine
