import TypedResources.Text.Class
import TypedResources.Text.Quoted

-- Reading a command line. A switch may be shortened to what tells it from all others and may carry
-- its value behind an equals sign; one-letter switches may be run together. Two hyphens alone end
-- the switches.

namespace TypedResources.CommandLine

-- What a switch says.
inductive Effect
  | help
  | verbose
  | logFile
  | projectRoot
  | output
  | noCache
  | lenient
  | confirm
deriving DecidableEq

def Effect.takesValue : Effect → Bool
  | logFile     => true
  | projectRoot => true
  | output      => true
  | _           => false

structure Switch where
  names  : List String
  effect : Effect
deriving DecidableEq

def Switch.title (s : Switch) : String :=
  "/".intercalate s.names

-- A switch as it was named, and the value that is attached to it.
structure Use where
  switch : Switch
  name   : String
  value  : Option (List Char)
deriving DecidableEq

inductive Word
  | separator
  | plain (text : String)
  | switch (text : String) (use : Use)
  -- It looks like a switch and is none.
  | unknown (text : String)
deriving DecidableEq

-- A word as it was given.
def Word.text : Word → String
  | separator     => "--"
  | plain text    => text
  | switch text _ => text
  | unknown text  => text

-- All names of all switches in order, each with its switch.
def names (switches : List Switch) : List (String × Switch) :=
  switches.flatMap fun s => s.names.map (·, s)

def find? (switches : List Switch) (name : String) : Option Switch :=
  (names switches).lookup name

-- The parts before and after the first equals sign, if there is one.
def splitValue (s : List Char) : List Char × Option (List Char) :=
  match s.dropWhile (· ≠ '=') with
  | []     => (s, none)
  | _ :: v => (s.takeWhile (· ≠ '='), some v)

-- The switches that a word may be short for.
def candidates (switches : List Switch) (s : List Char) : List Use :=
  if s.take 2 = ['-', '-'] then
    let (stem, value) := splitValue s
    (names switches).filterMap fun (name, switch) =>
      if stem.isPrefixOf name.toList then some ⟨switch, name, value⟩ else none
  else
    (names switches).filterMap fun (name, switch) =>
      if name.toList = s.take 2 then some ⟨switch, name, some (s.drop 2)⟩
      else if s.isPrefixOf name.toList then some ⟨switch, name, none⟩
      else none

-- Digits behind a hyphen, with a point among them or not. A line feed may end them.
def isNegativeNumber (s : List Char) : Bool :=
  match if s.getLast? = some '\n' then s.dropLast else s with
  | '-' :: t =>
    let fraction := (t.dropWhile Text.isDecimal).tail
    t ≠ [] && (t.all Text.isDecimal ||
      ((t.dropWhile Text.isDecimal).head? = some '.' && fraction ≠ [] && fraction.all Text.isDecimal))
  | _ => false

-- A word before two hyphens; the error is the message about a word that is short for several.
def readWord (switches : List Switch) (text : String) : Except String Word :=
  let s := text.toList
  let (stem, value) := splitValue s
  if s.head? ≠ some '-' then .ok (.plain text)
  else if let some switch := find? switches text then .ok (.switch text ⟨switch, text, none⟩)
  else if s.length = 1 then .ok (.plain text)
  else if let some use := value.bind fun v =>
      (find? switches (String.ofList stem)).map fun switch => ⟨switch, String.ofList stem, some v⟩ then
    .ok (.switch text use)
  else match candidates switches s with
    | [use] => .ok (.switch text use)
    | []    => .ok (if isNegativeNumber s || s.contains ' ' then .plain text else .unknown text)
    | uses  =>
      .error ("ambiguous option: " ++ text ++ " could match " ++ ", ".intercalate (uses.map Use.name))

def readWords (switches : List Switch) : List String → Except String (List Word)
  | []        => .ok []
  | "--" :: t => .ok (.separator :: t.map .plain)
  | text :: t => do
    let w ← readWord switches text
    return w :: (← readWords switches t)

def complaint (s : Switch) (message : String) : String :=
  "argument " ++ s.title ++ ": " ++ message

-- What a switch with a value attached says. To a one-letter switch the rest of its run is attached;
-- none of these takes a value.
def attached (switches : List Switch) (switch : Switch) (name : String) :
    List Char → Except String (List (Effect × String))
  | []        =>
    if switch.effect.takesValue then .ok [(switch.effect, "")]
    else .error (complaint switch ("ignored explicit argument " ++ Text.quoted ""))
  | c :: rest =>
    let value := String.ofList (c :: rest)
    if switch.effect.takesValue then
      -- Two hyphens are no value.
      .ok [(switch.effect, if value = "--" then "" else value)]
    else if name.toList[1]? = some '-' then
      .error (complaint switch ("ignored explicit argument " ++ Text.quoted value))
    else
      let next := String.ofList ['-', c]
      match find? switches next with
      | none   => .error (complaint switch ("ignored explicit argument " ++ Text.quoted value))
      | some s =>
        if rest = [] then .ok [(switch.effect, ""), (s.effect, "")]
        else (attached switches s next rest).map ((switch.effect, "") :: ·)

-- What a switch says, with its value from the words behind it, and the words that are left.
def useSwitch (switches : List Switch) (u : Use) (words : List Word) :
    Except String (List (Effect × String) × List Word) :=
  match u.value with
  | some value => (attached switches u.switch u.name value).map (·, words)
  | none       =>
    if u.switch.effect.takesValue then
      match words with
      | .plain value :: t => .ok ([(u.switch.effect, value)], t)
      | _                 => .error (complaint u.switch "expected one argument")
    else .ok ([(u.switch.effect, "")], words)

end TypedResources.CommandLine
