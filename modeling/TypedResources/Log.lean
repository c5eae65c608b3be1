-- What a run tells its reader: records with a level and the component they come from, in the order
-- in which they were made.

namespace TypedResources

inductive Level
  | debug
  | info
  | warning
  | error
  | critical
deriving DecidableEq

def Level.name : Level → String
  | debug    => "DEBUG"
  | info     => "INFO"
  | warning  => "WARNING"
  | error    => "ERROR"
  | critical => "CRITICAL"

def Level.rank : Level → Nat
  | debug    => 10
  | info     => 20
  | warning  => 30
  | error    => 40
  | critical => 50

inductive Component
  | modules
  | locator
  | generation
  | cache
  | generator
  | migration
deriving DecidableEq

def Component.name : Component → String
  | modules    => "modules"
  | locator    => "locator"
  | generation => "generation"
  | cache      => "cache"
  | generator  => "generator"
  | migration  => "migration"

structure Record where
  level     : Level
  component : Component
  message   : String
deriving DecidableEq

abbrev Log := List Record

-- What is shown of a run on the console, and whether all of it goes to a file as well.
structure Logging where
  verbose       : Bool := false
  hasTranscript : Bool := false
deriving DecidableEq

namespace Logging

-- The least level that is shown on the console.
def consoleLevel (l : Logging) : Level :=
  if l.verbose then .debug else .info

-- The least level of a record that goes anywhere.
def level (l : Logging) : Level :=
  if l.hasTranscript then .debug else l.consoleLevel

def shows (l : Logging) (level : Level) : Bool :=
  l.consoleLevel.rank ≤ level.rank

def consoleLine (level : Level) (message : String) : String :=
  "[resourcegen] " ++ level.name ++ " " ++ message ++ "
"

-- The name of a component among all that log; without a component it is the program's.
def fullName (component : String) : String :=
  if component = "" then "resourcegen" else "resourcegen." ++ component

-- A line of a transcript; the name of the level fills seven places at least.
def transcriptLine (stamp : String) (level : Level) (component message : String) : String :=
  stamp ++ " " ++ level.name ++ String.ofList (List.replicate (7 - level.name.length) ' ') ++ " " ++
    fullName component ++ ": " ++ message ++ "
"

def console (l : Logging) (log : Log) : String :=
  String.join ((log.filter (l.shows ·.level)).map fun r => consoleLine r.level r.message)

def transcript (stamp : String) (log : Log) : String :=
  String.join (log.map fun r => transcriptLine stamp r.level r.component.name r.message)

end Logging

end TypedResources
