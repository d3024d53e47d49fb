import RelayTree.SortedMap

/-!
# Arguments

A line of arguments has options for all commands, then a command, then the options
of that command. An option is written out with two hyphens, and some have a letter
of their own behind a single one. The value of an option follows as the next
argument, or after an equals sign; only in the second form may it start with a
hyphen, a lone hyphen excepted. No option may be given twice, and nothing may follow
two lone hyphens. A request for help wins over everything after it.
-/
namespace RelayTree.CommandLine

/-- An option of a command, with all that decides how it may be written. -/
structure Spec where
  name : String
  letter : Option Char
  takesValue : Bool
  /-- Whether the value may be empty. -/
  allowsEmpty : Bool

/-- What an argument looks like, before it is known which options there are. -/
inductive Token where
  /-- Two lone hyphens. -/
  | separator
  /-- A written-out option, perhaps with a value attached. -/
  | long (name : String) (value : Option String)
  /-- Letters behind a single hyphen. -/
  | short (letter : Char) (attached : List Char)
  | word (text : String)
deriving DecidableEq, Repr

/-- Take a written-out option apart at its first equals sign. Without one no value is attached to
it. -/
def Token.ofLong (text : List Char) : Token :=
  match text.span (· ≠ '=') with
  | (name, []) => .long (String.ofList name) none
  | (name, _ :: value) => .long (String.ofList name) (some (String.ofList value))

/-- What an argument looks like. A lone hyphen is a word, and so is everything that does not start
with one. -/
def Token.ofText (text : String) : Token :=
  match text.toList with
  | ['-', '-'] => .separator
  | '-' :: '-' :: rest => .ofLong rest
  | '-' :: letter :: attached => .short letter attached
  | _ => .word text

/-- What the options in front of a word say: a request for help, a misuse, or the
options given, with the first word and what follows it, if there is one. -/
inductive Reading where
  | help
  | misuse
  | given (options : SortedMap String String) (rest : Option (String × List String))

/-- What letters behind a hyphen attach as a value; an equals sign may come first. -/
def attachedValue : List Char → Option String
  | [] => none
  | '=' :: value => some (String.ofList value)
  | value => some (String.ofList value)

/-- Note the value of an option, unless it has one already or may not be empty. -/
def Spec.note (spec : Spec) (options : SortedMap String String) (value : String) :
    Option (SortedMap String String) :=
  if options.contains spec.name || (value.isEmpty && !spec.allowsEmpty) then none
  else some (options.insert spec.name value)

/-- The option that a token names, with the value attached to it, if any of the options has that
name or letter. -/
def Token.option? (specs : List Spec) : Token → Option (Spec × Option String)
  | .long name value => (specs.find? (·.name = name)).map (·, value)
  | .short letter attached =>
    (specs.find? (·.letter = some letter)).map (·, attachedValue attached)
  | .separator => none
  | .word _ => none

/-- Whether a token asks for help, which every command does for and which needs no option of its
own. -/
def Token.asksHelp : Token → Bool
  | .long name value => name = "help" && value.isNone
  | .short letter _ => letter = 'h'
  | .separator => false
  | .word _ => false

/-- Read options up to the first word, which is left to the caller together with what follows it. -/
def readOptions (specs : List Spec) (options : SortedMap String String) :
    List String → Reading
  | [] => .given options none
  | argument :: rest =>
    match Token.ofText argument with
    | .word text => .given options (some (text, rest))
    | .separator => if rest.isEmpty then .given options none else .misuse
    | token =>
      if token.asksHelp then .help
      else
        match token.option? specs with
        | none => .misuse
        | some (spec, attached) =>
          match spec.takesValue, attached with
          | false, some _ => .misuse
          | false, none =>
            if options.contains spec.name then .misuse
            else readOptions specs (options.insert spec.name "") rest
          | true, some value =>
            match spec.note options value with
            | none => .misuse
            | some options => readOptions specs options rest
          | true, none =>
            match rest with
            | [] => .misuse
            | value :: rest =>
              match Token.ofText value, spec.note options value with
              | .word _, some options => readOptions specs options rest
              | _, _ => .misuse

/-- Read the options of a command after which no word may follow. -/
def readLast (specs : List Spec) (arguments : List String) : Reading :=
  match readOptions specs .empty arguments with
  | .given _ (some _) => .misuse
  | reading => reading

end RelayTree.CommandLine
