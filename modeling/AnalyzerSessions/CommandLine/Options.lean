namespace AnalyzerSessions.CommandLine

/-!
# Options

The words of a command line are options, the values of options, and arguments.
An option may be followed by its value or hold it behind an equals sign, short
options may be joined, and two dashes end the options.
-/

/-- An option of a command. -/
structure OptionSpec where
  name : String
  /-- Its names with two dashes. -/
  longNames : List String
  /-- Its names of one character, behind one dash. -/
  shortNames : List Char
  takesValue : Bool
  deriving Repr, DecidableEq

/-- How a command line is misused. -/
inductive Misused where
  | unknownOption (name : String)
  | missingValue (name : String)
  | unexpectedValue (name : String)
  | missingArgument
  | unexpectedArgument (argument : String)
  | missingCommand
  | unknownCommand (name : String)
  | noSuchPath (path : String)
  | unreadablePath (path : String)
  | notANumber (text : String)
  deriving Repr, DecidableEq

/-- What is wrong with a command line, in words. -/
def Misused.message : Misused → String
  | .unknownOption name => "No such option: " ++ name
  | .missingValue name => "Option '" ++ name ++ "' requires an argument."
  | .unexpectedValue name => "Option '" ++ name ++ "' does not take a value."
  | .missingArgument => "Missing argument."
  | .unexpectedArgument argument => "Got unexpected extra argument (" ++ argument ++ ")"
  | .missingCommand => "Missing command."
  | .unknownCommand name => "No such command '" ++ name ++ "'."
  | .noSuchPath path => "Path '" ++ path ++ "' does not exist."
  | .unreadablePath path => "Path '" ++ path ++ "' is not readable."
  | .notANumber text => "'" ++ text ++ "' is not a valid float."

/-- The words of a command line: options with their values, and arguments, in order. -/
structure Words where
  options : List (String × String)
  arguments : List String
  deriving Repr, DecidableEq

namespace Words

/-- Whether an option is given. -/
def has (words : Words) (name : String) : Bool :=
  words.options.any fun option => option.1 == name

/-- The last value of an option. -/
def value? (words : Words) (name : String) : Option String :=
  (words.options.reverse.find? fun option => option.1 == name).map Prod.snd

/-- Put an option in front. -/
def withOption (name value : String) (words : Words) : Words :=
  { words with options := (name, value) :: words.options }

/-- Put an argument in front. -/
def withArgument (argument : String) (words : Words) : Words :=
  { words with arguments := argument :: words.arguments }

end Words

/-- A word as an option: its name, and the value behind an equals sign. -/
def cutValue (word : String) : String × Option String :=
  let name := word.toList.takeWhile (· ≠ '=')
  match word.toList.dropWhile (· ≠ '=') with
  | [] => (word, none)
  | _ :: value => (String.ofList name, some (String.ofList value))

/-- The options that joined short names stand for; none of them may take a value. -/
def shortOptions (specs : List OptionSpec) : List Char → Except Misused (List (String × String))
  | [] => .ok []
  | char :: rest =>
    match specs.find? fun spec => spec.shortNames.contains char with
    | none => .error (.unknownOption (String.ofList ['-', char]))
    | some spec => (shortOptions specs rest).map fun options => (spec.name, "") :: options

/-- Whether a word is looked at as an option. -/
def looksLikeOption (word : String) : Bool :=
  match word.toList with
  | '-' :: _ :: _ => true
  | _ => false

/--
Read words, where an option may still be waiting for its value.  If arguments and
options may not be mixed, the first argument ends the options.
-/
def readFrom (specs : List OptionSpec) (mixed : Bool) :
    (waiting : Option OptionSpec) → List String → Except Misused Words
  | some spec, [] => .error (.missingValue ("--" ++ spec.name))
  | some spec, value :: rest =>
    (readFrom specs mixed none rest).map (Words.withOption spec.name value)
  | none, [] => .ok ⟨[], []⟩
  | none, word :: rest =>
    if word = "--" then .ok ⟨[], rest⟩
    else if looksLikeOption word then
      let (name, inline) := cutValue word
      match specs.find? fun spec => spec.longNames.contains name with
      | some spec =>
        match spec.takesValue, inline with
        | true, some value =>
          (readFrom specs mixed none rest).map (Words.withOption spec.name value)
        | true, none => readFrom specs mixed (some spec) rest
        | false, some _ => .error (.unexpectedValue name)
        | false, none => (readFrom specs mixed none rest).map (Words.withOption spec.name "")
      | none =>
        if word.startsWith "--" then .error (.unknownOption name)
        else
          match shortOptions specs (word.toList.drop 1) with
          | .error misused => .error misused
          | .ok options => (readFrom specs mixed none rest).map fun words =>
              { words with options := options ++ words.options }
    else if mixed then (readFrom specs mixed none rest).map (Words.withArgument word)
    else .ok ⟨[], word :: rest⟩

/-- Read the words of a command line. -/
def readWords (specs : List OptionSpec) (mixed : Bool) (line : List String) :
    Except Misused Words :=
  readFrom specs mixed none line

end AnalyzerSessions.CommandLine
