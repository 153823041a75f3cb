/-!
# Command line arguments

Arguments are read from left to right, and each is checked when it is met, so that a wrong argument
counts before a later request for help. Options have a long name and maybe a one-letter name; those
that take a value take it from the same argument (`--name=value`, `-nvalue`) or from the next one,
which must not look like an option. No option may be given twice. The first argument that is no
option names the command; options that hold for all commands may stand before or behind it. What a
command cannot do without is asked for at the end.
-/

namespace Arboretum

namespace Cli

/-- The values an option takes. -/
inductive ValueRule where
  | any
  /-- Any value but the empty one. -/
  | nonEmpty
  | oneOf (names : List String)
  deriving DecidableEq, Repr

def ValueRule.allows : ValueRule → String → Bool
  | .any, _ => true
  | .nonEmpty, value => value != ""
  | .oneOf names, value => names.contains value

/-- An option of the command line; without a rule for values it is a switch. -/
structure Flag where
  long : String
  short : Option Char := none
  value : Option ValueRule := none
  deriving DecidableEq, Repr

/-- Whether an option takes a value. -/
def Flag.takesValue (flag : Flag) : Bool := flag.value.isSome

/-- Whether a value is right for an option. -/
def Flag.allows (flag : Flag) (value : String) : Bool := flag.value.all (·.allows value)

/-- What a command takes besides the options for all commands. -/
structure Form where
  flags : List Flag := []
  /-- The command takes the path of a file. -/
  takesFile : Bool := false
  deriving DecidableEq, Repr

/-- Why arguments do not lead to a command. -/
inductive Stop where
  /-- The arguments are wrong. -/
  | usage
  /-- Help was asked for. -/
  | help
  /-- The version of the program was asked for. -/
  | version
  deriving DecidableEq, Repr

/-- What was read so far: options with their values, and the path of a file. -/
structure Matches where
  options : List (String × String) := []
  file : Option String := none
  deriving DecidableEq, Repr

namespace Matches

def value? (m : Matches) (name : String) : Option String :=
  (m.options.find? fun o => o.1 = name).map Prod.snd

def has (m : Matches) (name : String) : Bool := (m.value? name).isSome

end Matches

/-- Records an option; the options for help and the version end the reading. -/
def record (flag : Flag) (value : String) (m : Matches) : Except Stop Matches :=
  if flag.long = "help" then .error .help
  else if flag.long = "version" then .error .version
  else if m.has flag.long then .error .usage
  else if !flag.allows value then .error .usage
  else .ok { m with options := m.options ++ [(flag.long, value)] }

/-- An argument that begins with a hyphen is an option, a single hyphen apart. -/
def looksLikeOption (arg : String) : Bool :=
  match arg.toList with
  | '-' :: _ :: _ => true
  | _ => false

/-- What an argument gave: all recorded, or an option that wants the next argument as its value. -/
inductive Progress where
  | read (m : Matches)
  | wants (flag : Flag) (m : Matches)

/-- Reads the letters of an argument with one hyphen. -/
def readShorts (flags : List Flag) : List Char → Matches → Except Stop Progress
  | [], m => .ok (.read m)
  | c :: rest, m =>
    match flags.find? fun f => f.short = some c with
    | none => .error .usage
    | some flag =>
      if flag.takesValue then
        match rest with
        | [] => .ok (.wants flag m)
        | '=' :: value => (record flag (String.ofList value) m).map .read
        | value => (record flag (String.ofList value) m).map .read
      else do
        let m ← record flag "" m
        readShorts flags rest m

/-- Reads an argument with two hyphens. -/
def readLong (flags : List Flag) (body : List Char) (m : Matches) : Except Stop Progress :=
  let name := String.ofList (body.takeWhile (· != '='))
  let value : Option (List Char) :=
    if body.contains '=' then some ((body.dropWhile (· != '=')).drop 1) else none
  match flags.find? fun f => f.long = name with
  | none => .error .usage
  | some flag =>
    match flag.takesValue, value with
    | true, some value => (record flag (String.ofList value) m).map .read
    | true, none => .ok (.wants flag m)
    | false, none => (record flag "" m).map .read
    | false, some _ => .error .usage

def readOption (flags : List Flag) (arg : String) (m : Matches) : Except Stop Progress :=
  match arg.toList with
  | '-' :: '-' :: body => readLong flags body m
  | '-' :: letters => readShorts flags letters m
  | _ => .error .usage

/-- Records an argument that is no option: the path of a file, where the command takes one and none
was given before. A path is not empty. -/
def recordFile (form : Form) (arg : String) (m : Matches) : Except Stop Matches :=
  if form.takesFile && m.file.isNone && arg != "" then .ok { m with file := some arg }
  else .error .usage

/-- Reads the arguments of a command to the end. Behind `--` nothing is an option. -/
def readArguments (form : Form) : List String → Matches → Except Stop Matches
  | [], m => .ok m
  | arg :: rest, m =>
    if arg = "--" then rest.foldlM (fun m arg => recordFile form arg m) m
    else if looksLikeOption arg then
      match readOption form.flags arg m, rest with
      | .error stop, _ => .error stop
      | .ok (.read m), rest => readArguments form rest m
      | .ok (.wants flag m), value :: rest =>
        if looksLikeOption value then .error .usage
        else
          match record flag value m with
          | .error stop => .error stop
          | .ok m => readArguments form rest m
      | .ok (.wants _ _), [] => .error .usage
    else
      match recordFile form arg m with
      | .error stop => .error stop
      | .ok m => readArguments form rest m

/-- Reads options up to the name of a command; gives the name and the arguments behind it. -/
def readUpToCommand (flags : List Flag) :
    List String → Matches → Except Stop (Matches × String × List String)
  | [], _ => .error .usage
  | arg :: rest, m =>
    if arg = "--" then .error .usage
    else if looksLikeOption arg then
      match readOption flags arg m, rest with
      | .error stop, _ => .error stop
      | .ok (.read m), rest => readUpToCommand flags rest m
      | .ok (.wants flag m), value :: rest =>
        if looksLikeOption value then .error .usage
        else
          match record flag value m with
          | .error stop => .error stop
          | .ok m => readUpToCommand flags rest m
      | .ok (.wants _ _), [] => .error .usage
    else .ok (m, arg, rest)

/-! ## Commands -/

/-- Which parser to use, and how. -/
structure Selection where
  language : Option String := none
  parser : Option String := none
  options : Option String := none
  /-- The options text is TOML rather than JSON. -/
  optionsToml : Bool := false
  engineVersion : Option String := none
  deriving DecidableEq, Repr

inductive Command where
  | languages
  | parse (file : String) (selection : Selection)
  | version (selection : Selection)
  | locate (file pointer : String) (selection : Selection)
  | init (force : Bool)
  deriving DecidableEq, Repr

def Command.name : Command → String
  | .languages => "languages"
  | .parse .. => "parse"
  | .version _ => "version"
  | .locate .. => "locate"
  | .init _ => "init"

/-- A command with the options that hold for all commands. -/
structure Invocation where
  json : Bool
  verbose : Bool
  config : Option String
  command : Command
  deriving DecidableEq, Repr

def globalFlags : List Flag :=
  [{ long := "verbose", short := some 'v' }, { long := "json" },
   { long := "config", short := some 'c', value := some .nonEmpty },
   { long := "help", short := some 'h' }]

def versionFlag : Flag := { long := "version", short := some 'V' }

def choiceFlags : List Flag :=
  [{ long := "language", short := some 'l', value := some .any },
   { long := "parser", short := some 'p', value := some .any },
   { long := "engine-version", value := some .any }]

def optionFlags : List Flag :=
  [{ long := "options", short := some 'o', value := some .any },
   { long := "options-format", value := some (.oneOf ["json", "toml"]) }]

/-- The commands and what they take. -/
def forms : List (String × Form) :=
  [("languages", {}),
   ("parse", { flags := choiceFlags ++ optionFlags, takesFile := true }),
   ("version", { flags := choiceFlags }),
   ("locate", { flags := { long := "pointer", value := some .any } :: choiceFlags ++ optionFlags,
                takesFile := true }),
   ("init", { flags := [{ long := "force" }] })]

def form? (name : String) : Option Form := (forms.find? fun f => f.1 = name).map Prod.snd

/-- What the words behind `help` lead to: help on the program or on one command. -/
def helpOn : List String → Stop
  | [] => .help
  | [name] => if name = "help" || (form? name).isSome then .help else .usage
  | _ => .usage

/-- The choices made; options are JSON unless said otherwise. -/
def selection (m : Matches) : Selection where
  language := m.value? "language"
  parser := m.value? "parser"
  options := m.value? "options"
  optionsToml := m.value? "options-format" == some "toml"
  engineVersion := m.value? "engine-version"

/-- The command that its arguments describe, unless something is missing. -/
def command? (name : String) (m : Matches) : Option Command :=
  if name = "parse" then do
    return .parse (← m.file) (selection m)
  else if name = "locate" then do
    return .locate (← m.file) (← m.value? "pointer") (selection m)
  else if name = "languages" then some .languages
  else if name = "version" then some (.version (selection m))
  else if name = "init" then some (.init (m.has "force"))
  else none

/-- Reads a whole command line. An option for all commands that is given on both sides of the
command's name counts as given behind it. -/
def parse (args : List String) : Except Stop Invocation := do
  let (before, name, rest) ← readUpToCommand (versionFlag :: globalFlags) args {}
  if name = "help" then .error (helpOn rest)
  match form? name with
  | none => .error .usage
  | some form =>
    let m ← readArguments { form with flags := globalFlags ++ form.flags } rest {}
    match command? name m with
    | none => .error .usage
    | some command =>
      return { json := before.has "json" || m.has "json",
               verbose := before.has "verbose" || m.has "verbose",
               config := m.value? "config" <|> before.value? "config", command }

end Cli

end Arboretum
