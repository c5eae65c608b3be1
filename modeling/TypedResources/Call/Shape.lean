import TypedResources.Pattern.Search
import TypedResources.Resource

-- The shapes of calls that look a resource up by its reference, each with a pattern that finds its
-- calls. Parentheses inside an argument are followed one level deep.

namespace TypedResources.Call

-- What the parentheses of a call hold beside the reference.
inductive Arguments
  | none
  -- Anything after the reference, at least one argument.
  | rest
  -- Two arguments after the reference.
  | two
  -- One argument before the reference, which is dropped.
  | context
deriving DecidableEq

structure Shape where
  method    : String
  blocks    : List Block
  arguments : Arguments := .none
deriving DecidableEq

-- All blocks of a shape share one type of resource.
def Shape.tag (s : Shape) : String :=
  (s.blocks.head?.map Block.tag).getD ""

def shapes : List Shape := [
  ⟨"getBoolean", [.values .boolean], .none⟩,
  ⟨"getColor", [.values .color], .none⟩,
  ⟨"getDimension", [.values .dimension], .none⟩,
  ⟨"getDrawable", [.drawables], .none⟩,
  ⟨"getIntArray", [.values .intArray], .none⟩,
  ⟨"getInteger", [.values .integer], .none⟩,
  ⟨"getString", [.values .string], .none⟩,
  ⟨"getStringArray", [.values .stringArray, .values .array], .none⟩,
  ⟨"getFraction", [.values .fraction], .none⟩,
  ⟨"getColor", [.values .color], .rest⟩,
  ⟨"getDrawable", [.drawables], .rest⟩,
  ⟨"getQuantityString", [.values .plural], .rest⟩,
  ⟨"getString", [.values .string], .rest⟩,
  ⟨"getFraction", [.values .fraction], .two⟩,
  ⟨"getColor", [.values .color], .context⟩,
  ⟨"getDrawable", [.drawables], .context⟩,
  ⟨"getString", [.values .string], .context⟩]

-- The parts of a call that a replacement is made from.
inductive Slot
  | package
  | field
  | arguments
deriving DecidableEq

namespace Pattern

open TypedResources.Pattern

abbrev P := TypedResources.Pattern Slot

def noneOf (s : String) : P :=
  one fun c => !s.toList.contains c

def noneOfOrBlank (s : String) : P :=
  one fun c => !s.toList.contains c && !Text.isBlank c

-- A group in parentheses, with no further ones inside.
def parenthesized : P :=
  all [char '(', many (noneOf "()"), char ')']

-- One argument: no comma stands outside parentheses.
def argument : P :=
  alt
    (all [noneOfOrBlank "(),", many (noneOf "(),"), many (seq parenthesized (many (noneOf "(),")))])
    (seq parenthesized (many (noneOf "(),")))

-- Any number of arguments, but not none.
def arguments : P :=
  alt
    (all [noneOfOrBlank "()", many (noneOf "()"), many (seq parenthesized (many (noneOf "()")))])
    (all [parenthesized, many (noneOf "()"), many (seq parenthesized (many (noneOf "()")))])

-- A safe call or an assertion, and the dot.
def access : P :=
  seq (opt (alt (char '?') (word "!!"))) (char '.')

-- What stands before the method: names, labelled names and calls without arguments.
def receiver : P :=
  many (alt
    (all [wordChars, opt (seq (char '@') wordChars), access])
    (all [wordChars, opt (all [char '<', many (noneOf "<>"), char '>']), word "()", access]))

def comma : P :=
  all [blanks, char ',', blanks]

def resource (tag : String) : P :=
  all [opt (keep .package (many1 (seq wordChars (char '.')))), word ("R." ++ tag ++ "."),
    keep .field wordChars]

end Pattern

open TypedResources.Pattern in
def Shape.pattern (s : Shape) : TypedResources.Pattern Slot :=
  let head := all [notAfter (fun c => Text.isWord c || c = '.' || c = '@'), Pattern.receiver,
    word (s.method ++ "("), blanks]
  let close := seq blanks (char ')')
  match s.arguments with
  | .none    => all [head, Pattern.resource s.tag, close]
  | .rest    =>
    all [head, Pattern.resource s.tag, Pattern.comma, keep .arguments Pattern.arguments, close]
  | .two     =>
    all [head, Pattern.resource s.tag, Pattern.comma,
      keep .arguments (all [Pattern.argument, Pattern.comma, Pattern.argument]), close]
  | .context => all [head, Pattern.argument, Pattern.comma, Pattern.resource s.tag, close]

end TypedResources.Call
