import Mailroom.Number.Reading
import Mailroom.Text.Blank
import Mailroom.Text.Quoted
import Mailroom.Text.Similarity
/-!
  Mailroom.Cli.Grammar
  ────────────────────────────────
  **OPTIONS AND ARGUMENTS OF A COMMAND LINE.**

  An option with a value is written `--name value`, `--name=value`, `-n value` or
  `-nvalue`; two hyphens alone end the options.  Options may stand between
  arguments, except before the name of a command.  Values are checked in the order
  in which the options were given, then those of the arguments, and what was not
  given last.
-/
namespace Mailroom.Cli

open Mailroom.Number Mailroom.Text

/-! ## §1. Parameters. -/

/-- What a value has to be. -/
inductive Kind where
  | text
  | integer
  | atLeast (least : Int)
  deriving Repr, DecidableEq

/-- A parameter of a command. -/
inductive Parameter where
  /-- An option with a value, which may be required or be given many times. -/
  | option (key : String) (names : List String) (kind : Kind) (required many : Bool)
  /-- An option that is on or off. -/
  | switch (key on off : String)
  /-- An argument; many stand for at least one. -/
  | argument (key : String) (kind : Kind) (many : Bool)
  deriving Repr, DecidableEq

namespace Parameter

/-- The key of the values of a parameter. -/
def key : Parameter → String
  | option key _ _ _ _ => key
  | switch key _ _ => key
  | argument key _ _ => key

/-- Whether a parameter is an argument. -/
def isArgument : Parameter → Bool
  | argument _ _ _ => true
  | _ => false

/-- The names under which a parameter is given as an option. -/
def names : Parameter → List String
  | option _ names _ _ _ => names
  | switch _ on off => [on, off]
  | argument _ _ _ => []

/-- How a parameter is called in messages. -/
def hint : Parameter → String
  | option _ names _ _ _ => " / ".intercalate (names.map fun n => "'" ++ n ++ "'")
  | switch _ on _ => "'" ++ on ++ "'"
  | argument key _ many => "'" ++ key.map Char.toUpper ++ (if many then "..." else "") ++ "'"

end Parameter

/-- The option that asks for help. -/
def helpName : String := "--help"

/-! ## §2. Errors. -/

/-- What is wrong with a command line. -/
inductive UsageError where
  | noSuchOption (name : String) (close : List String)
  | needsValue (name : String)
  | takesNoValue (name : String)
  | missing (p : Parameter)
  | notInteger (p : Parameter) (value : String) (range : Bool)
  | below (p : Parameter) (value least : Int)
  | extraArguments (arguments : List String)
  | missingCommand
  | noSuchCommand (name : String) (close : List String)
  deriving Repr, DecidableEq

/-- A suggestion of names that may be meant. -/
def suggestion : List String → String
  | [] => ""
  | [name] => " Did you mean " ++ quoted name ++ "?"
  | names =>
    " (Did you mean one of: "
      ++ ", ".intercalate ((names.mergeSort fun a b => !(b < a)).map quoted) ++ "?)"

/-- The message for a usage error. -/
def UsageError.message : UsageError → String
  | noSuchOption name close => "No such option " ++ quoted name ++ "." ++ suggestion close
  | needsValue name => "Option " ++ quoted name ++ " requires an argument."
  | takesNoValue name => "Option " ++ quoted name ++ " does not take a value."
  | missing p =>
    (if p.isArgument then "Missing argument " else "Missing option ") ++ p.hint ++ "."
  | notInteger p value range =>
    "Invalid value for " ++ p.hint ++ ": " ++ quoted value ++ " is not a valid integer"
      ++ (if range then " range." else ".")
  | below p value least =>
    s!"Invalid value for {p.hint}: {value} is not in the range x>={least}."
  | extraArguments arguments =>
    "Got unexpected extra argument" ++ (if arguments.length == 1 then "" else "s") ++ " ("
      ++ " ".intercalate arguments ++ ")"
  | missingCommand => "Missing command."
  | noSuchCommand name close => "No such command " ++ quoted name ++ "." ++ suggestion close

/-! ## §3. Taking a command line apart. -/

/-- The words of a command line: the texts given for keys, in order, the
arguments, and whether help is asked for. -/
structure Words where
  given : List (String × String) := []
  arguments : List String := []
  help : Bool := false
  deriving Repr, DecidableEq

/-- What an option is for. -/
inductive Use where
  | value (key : String)
  | set (key text : String)
  | help
  deriving Repr, DecidableEq

/-- The text for a switch that is on. -/
def onText : String := "on"

/-- The text for a switch that is off. -/
def offText : String := "off"

/-- What an option is for, if there is one with its name. -/
def useOf? (ps : List Parameter) (name : String) : Option Use :=
  if name == helpName then some .help
  else
    match ps.find? fun p => p.names.contains name with
    | some (.switch key on _) => some (.set key (if name == on then onText else offText))
    | some p => some (.value p.key)
    | none => none

/-- The names of options that start with two hyphens. -/
def longNames (ps : List Parameter) : List String :=
  (ps.flatMap (·.names) ++ [helpName]).filter fun n => "--".toList.isPrefixOf n.toList

/-- A word that is an option: what it sets, or the option whose value the next
word is. -/
inductive OptionWord where
  | done (words : Words)
  | needs (name key : String)
  deriving Repr, DecidableEq

/-- The words with a text for a key. -/
def Words.give (w : Words) (key text : String) : Words := { w with given := w.given ++ [(key, text)] }

/-- Reads an option of one hyphen and letters. -/
def shortWord (ps : List Parameter) (w : Words) : List Char → Except UsageError OptionWord
  | [] => .ok (.done w)
  | c :: cs =>
    let name := String.ofList ['-', c]
    match useOf? ps name with
    | none => .error (.noSuchOption name [])
    | some (.value key) =>
      if cs.isEmpty then .ok (.needs name key) else .ok (.done (w.give key (String.ofList cs)))
    | some (.set key text) => shortWord ps (w.give key text) cs
    | some .help => shortWord ps { w with help := true } cs

/-- Reads an option. -/
def optionWord (ps : List Parameter) (w : Words) (word : String) : Except UsageError OptionWord :=
  let cs := word.toList
  let name := String.ofList (cs.takeWhile (· != '='))
  let value? := if cs.contains '=' then
    some (String.ofList ((cs.dropWhile (· != '=')).drop 1)) else none
  let isLong := "--".toList.isPrefixOf cs
  match (if isLong then useOf? ps name else none), value? with
  | none, _ =>
    if isLong then .error (.noSuchOption name (closest name (longNames ps)))
    else shortWord ps w (cs.drop 1)
  | some (.value key), some value => .ok (.done (w.give key value))
  | some (.value key), none => .ok (.needs name key)
  | some _, some _ => .error (.takesNoValue name)
  | some (.set key text), none => .ok (.done (w.give key text))
  | some .help, none => .ok (.done { w with help := true })

/-- Whether a word is an option. -/
def isOption (word : String) : Bool := word.toList.head? == some '-' && word.length != 1

/-- Takes a command line apart; `mixed` says whether options may stand behind
arguments. -/
def wordsOf (ps : List Parameter) (mixed : Bool) (w : Words) :
    List String → Except UsageError Words
  | [] => .ok w
  | word :: rest =>
    if word == "--" then .ok { w with arguments := w.arguments ++ rest }
    else if isOption word then
      match optionWord ps w word with
      | .error e => .error e
      | .ok (.done w) => wordsOf ps mixed w rest
      | .ok (.needs name key) =>
        match rest with
        | [] => .error (.needsValue name)
        | value :: rest => wordsOf ps mixed (w.give key value) rest
    else if mixed then wordsOf ps mixed { w with arguments := w.arguments ++ [word] } rest
    else .ok { w with arguments := w.arguments ++ word :: rest }

/-! ## §4. Values. -/

/-- A value of a parameter. -/
inductive Value where
  | text (s : String)
  | int (n : Int)
  deriving Repr, DecidableEq

/-- The values of the parameters of a command, by their keys. -/
abbrev Values := List (String × List Value)

/-- The texts of the parameters by their keys, and the arguments that are left
over. -/
def assign (w : Words) : List Parameter → List String → List (String × List String) × List String
  | [], rest => ([], rest)
  | .argument key _ many :: ps, rest =>
    let n := if many then rest.length else 1
    let (more, left) := assign w ps (rest.drop n)
    ((key, rest.take n) :: more, left)
  | .option key _ _ _ many :: ps, rest =>
    let texts := (w.given.filter (·.1 == key)).map (·.2)
    let (more, left) := assign w ps rest
    ((key, if many then texts else texts.getLast?.toList) :: more, left)
  | .switch key _ _ :: ps, rest =>
    let texts := (w.given.filter (·.1 == key)).map (·.2)
    let (more, left) := assign w ps rest
    ((key, texts.getLast?.toList) :: more, left)

/-- The value that a text stands for. -/
def valueOf (p : Parameter) (kind : Kind) (s : String) : Except UsageError Value :=
  match kind with
  | .text => .ok (.text s)
  | .integer =>
    match readInteger s.toList with
    | .ok n => .ok (.int n)
    | .error _ => .error (.notInteger p s false)
  | .atLeast least =>
    match readInteger s.toList with
    | .ok n => if least ≤ n then .ok (.int n) else .error (.below p n least)
    | .error _ => .error (.notInteger p s true)

/-- The values of a parameter from their texts. -/
def valuesOf (p : Parameter) (texts : List String) : Except UsageError (List Value) :=
  match p with
  | .option _ _ kind required _ =>
    if required && texts.isEmpty then .error (.missing p) else texts.mapM (valueOf p kind)
  | .argument _ kind _ =>
    if texts.isEmpty then .error (.missing p) else texts.mapM (valueOf p kind)
  | .switch _ _ _ => .ok (texts.map .text)

/-- The place of a parameter in the order in which values are checked: options in
the order in which they were given, then arguments, then the others. -/
def placeOf (w : Words) (p : Parameter) : Nat :=
  let n := w.given.length
  if p.isArgument then n
  else
    match w.given.findIdx? (·.1 == p.key) with
    | some i => i
    | none => n + 1

/-- What a command line says: help is asked for, or there are values. -/
inductive Reading where
  | help
  | values (values : Values)
  deriving Repr, DecidableEq

/-- Reads the command line of a command. -/
def read (ps : List Parameter) (line : List String) : Except UsageError Reading := do
  let w ← wordsOf ps true {} line
  if w.help then return .help
  let (texts, left) := assign w ps w.arguments
  let inOrder := ps.mergeSort fun p q => placeOf w p ≤ placeOf w q
  let values ← inOrder.mapM fun p => do
    return (p.key, ← valuesOf p ((texts.lookup p.key).getD []))
  if left.isEmpty then return .values values else throw (.extraArguments left)

namespace Values

/-- The texts for a key. -/
def texts (vs : Values) (key : String) : List String :=
  ((vs.lookup key).getD []).filterMap fun
    | .text s => some s
    | .int _ => none

/-- The text for a key, if there is one. -/
def text? (vs : Values) (key : String) : Option String := (vs.texts key).head?

/-- The integer for a key, if there is one. -/
def int? (vs : Values) (key : String) : Option Int :=
  ((vs.lookup key).getD []).findSome? fun
    | .int n => some n
    | .text _ => none

end Values

end Mailroom.Cli
