import TypedResources.CommandLine.Switch

-- The commands with their switches and their usage, and what a list of arguments asks for.

namespace TypedResources.CommandLine

inductive Command
  | generate
  | migrate
deriving DecidableEq

def Command.name : Command → String
  | generate => "generate"
  | migrate  => "migrate"

def Command.all : List Command :=
  [generate, migrate]

-- What the words that are no switches are: a command with all that follows it, or a module.
inductive Operand
  | command
  | module
deriving DecidableEq

structure Grammar where
  program  : String
  switches : List Switch
  operand  : Operand
  usage    : String
  -- What is shown below the usage for help.
  help     : String

def commonSwitches : List Switch :=
  [⟨["-h", "--help"], .help⟩, ⟨["-v", "--verbose"], .verbose⟩, ⟨["--log-file"], .logFile⟩]

def moduleSwitches : List Switch :=
  commonSwitches ++ [⟨["--project-root"], .projectRoot⟩]

def programGrammar : Grammar where
  program  := "resourcegen"
  switches := commonSwitches
  operand  := .command
  usage    := "usage: resourcegen [-h] [-v] [--log-file LOG_FILE] \x7bgenerate,migrate\x7d ...\n"
  help     :=
"
Generate a typed ResourceManager accessor and migrate call sites to it.

positional arguments:
  \x7bgenerate,migrate\x7d
    generate           Generate ResourceManager.kt for a module.
    migrate            Rewrite getString(R.string.x)-style calls to
                       ResourceManager accessors.

options:
  -h, --help           show this help message and exit
  -v, --verbose        Increase log verbosity for troubleshooting.
  --log-file LOG_FILE  Also write a DEBUG-level transcript of the run to this
                       file.
"

-- The part of the help that the commands share.
def moduleHelp : String :=
"
positional arguments:
  module                Path to the module root (defaults to current
                        directory).

options:
  -h, --help            show this help message and exit
  -v, --verbose         Increase log verbosity for troubleshooting.
  --log-file LOG_FILE   Also write a DEBUG-level transcript of the run to this
                        file.
  --project-root PROJECT_ROOT
                        Project root used to resolve project(':name')
                        dependencies (defaults to the module's parent
                        directory).
"

def generateGrammar : Grammar where
  program  := "resourcegen generate"
  switches := moduleSwitches ++
    [⟨["--output"], .output⟩, ⟨["--no-cache"], .noCache⟩, ⟨["--lenient"], .lenient⟩]
  operand  := .module
  usage    :=
"usage: resourcegen generate [-h] [-v] [--log-file LOG_FILE]
                            [--project-root PROJECT_ROOT] [--output OUTPUT]
                            [--no-cache] [--lenient]
                            [module]
"
  help     := moduleHelp ++
"  --output OUTPUT       Output file (defaults to
                        build/generated/resourcegen/main/ResourceManager.kt).
  --no-cache            Always regenerate, ignoring and clearing the cached
                        result.
  --lenient             Skip malformed resource documents instead of failing.
"

def migrateGrammar : Grammar where
  program  := "resourcegen migrate"
  switches := moduleSwitches ++ [⟨["--confirm"], .confirm⟩]
  operand  := .module
  usage    :=
"usage: resourcegen migrate [-h] [-v] [--log-file LOG_FILE]
                           [--project-root PROJECT_ROOT] [--confirm]
                           [module]
"
  help     := moduleHelp ++
"  --confirm             Confirm that source files may be modified in place.
"

def Command.grammar : Command → Grammar
  | generate => generateGrammar
  | migrate  => migrateGrammar

-- What the arguments ask for. A text that is left empty counts as not given.
structure Arguments where
  verbose     : Bool   := false
  logFile     : String := ""
  module      : String := "."
  projectRoot : String := ""
  output      : String := ""
  noCache     : Bool   := false
  lenient     : Bool   := false
  confirm     : Bool   := false
deriving DecidableEq

def Arguments.apply (a : Arguments) : Effect × String → Arguments
  | (.help, _)            => a
  | (.verbose, _)         => { a with verbose := true }
  | (.logFile, value)     => { a with logFile := value }
  | (.projectRoot, value) => { a with projectRoot := value }
  | (.output, value)      => { a with output := value }
  | (.noCache, _)         => { a with noCache := true }
  | (.lenient, _)         => { a with lenient := true }
  | (.confirm, _)         => { a with confirm := true }

-- Why a command line is not carried out: it asks for help, or it is wrong.
inductive Stop
  | help (grammar : Grammar)
  | wrong (grammar : Grammar) (message : String)

-- What was read so far. `operand` holds the words of the operand once it is found.
structure Reading where
  arguments : Arguments
  operand   : Option (List String) := none
  extras    : List String := []

def complain {α : Type} (g : Grammar) : Except String α → Except Stop α
  | .ok a    => .ok a
  | .error e => .error (.wrong g e)

def Reading.carryOut (g : Grammar) (r : Reading) (effects : List (Effect × String)) : Except Stop Reading :=
  if effects.any (·.1 = .help) then .error (.help g)
  else .ok { r with arguments := effects.foldl Arguments.apply r.arguments }

-- A module may have a separator before and behind it.
def takeModule : List Word → Option (List String × List Word)
  | .separator :: .plain m :: t => some ([m], t)
  | .separator :: t             => some ([], t)
  | .plain m :: .separator :: t => some ([m], t)
  | .plain m :: t               => some ([m], t)
  | _                           => none

-- A command takes all words from it on.
def takeCommand : List Word → Option (List String × List Word)
  | [.separator] => none
  | ws           => some (ws.map Word.text, [])

def Operand.take : Operand → List Word → Option (List String × List Word)
  | .module  => takeModule
  | .command => takeCommand

-- Reads the words one after another. `fuel` bounds their number.
def readFrom (g : Grammar) : Nat → Reading → List Word → Except Stop Reading
  | 0,        r, _       => .ok r
  | _ + 1,    r, []      => .ok r
  | fuel + 1, r, w :: ws => do
    match w with
    | .unknown text  => readFrom g fuel { r with extras := r.extras ++ [text] } ws
    | .switch _ use  =>
      let (effects, ws) ← complain g (useSwitch g.switches use ws)
      readFrom g fuel (← r.carryOut g effects) ws
    | w =>
      match if r.operand.isNone then g.operand.take (w :: ws) else none with
      | some (operand, ws) => readFrom g fuel { r with operand := some operand } ws
      | none               => readFrom g fuel { r with extras := r.extras ++ [w.text] } ws

def Grammar.read (g : Grammar) (start : Arguments) (words : List String) : Except Stop Reading := do
  let words ← complain g (readWords g.switches words)
  readFrom g (words.length + 1) { arguments := start } words

def Command.find (g : Grammar) (name : String) : Except Stop Command :=
  match all.find? (·.name = name) with
  | some c => .ok c
  | none   =>
    .error (.wrong g ("argument command: invalid choice: " ++ Text.quoted name ++ " (choose from " ++
      ", ".intercalate (all.map fun c => Text.quoted c.name) ++ ")"))

-- The command of a command line and what it is to work with.
def readArguments (words : List String) : Except Stop (Command × Arguments) := do
  let g := programGrammar
  let outer ← g.read {} words
  match outer.operand with
  | some (name :: rest) =>
    let command ← Command.find g name
    let inner ← command.grammar.read outer.arguments rest
    let extras := outer.extras ++ inner.extras
    if extras.isEmpty then
      let a := inner.arguments
      return (command, { a with module := (inner.operand.bind List.head?).getD a.module })
    else throw (.wrong g ("unrecognized arguments: " ++ " ".intercalate extras))
  | _ => throw (.wrong g "the following arguments are required: command")

end TypedResources.CommandLine
