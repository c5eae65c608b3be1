import TypedResources.Sorting
import TypedResources.Text.Case
import TypedResources.Text.Split

-- Plural categories of integers, language by language, and what a set of quantity items lacks or
-- has in excess. `reachable` looks at two hundred numbers only: from a hundred on every rule depends
-- on the last two digits alone.

namespace TypedResources.Plural

inductive Category
  | zero
  | one
  | two
  | few
  | many
  | other
deriving DecidableEq

namespace Category

def keyword : Category → String
  | zero  => "zero"
  | one   => "one"
  | two   => "two"
  | few   => "few"
  | many  => "many"
  | other => "other"

-- The order in which categories are listed.
def all : List Category :=
  [zero, one, two, few, many, other]

theorem mem_all (c : Category) : c ∈ all := by
  cases c <;> decide

end Category

-- Languages fall into few classes, named for a family or for the categories told apart.
inductive Rule
  | oneOther
  | zeroOneOther
  | otherOnly
  | eastSlavic
  | polish
  | westSlavic
  | arabic
deriving DecidableEq

def endsInFew (n : Nat) : Bool :=
  2 ≤ n % 10 && n % 10 ≤ 4 && !(12 ≤ n % 100 && n % 100 ≤ 14)

def Rule.category : Rule → Nat → Category
  | oneOther,     n => if n = 1 then .one else .other
  | zeroOneOther, n => if n ≤ 1 then .one else .other
  | otherOnly,    _ => .other
  | eastSlavic,   n =>
    if n % 10 = 1 && n % 100 ≠ 11 then .one else if endsInFew n then .few else .many
  | polish,       n =>
    if n = 1 then .one else if endsInFew n then .few else .many
  | westSlavic,   n =>
    if n = 1 then .one else if 2 ≤ n && n ≤ 4 then .few else .other
  | arabic,       n =>
    if n = 0 then .zero
    else if n = 1 then .one
    else if n = 2 then .two
    else if 3 ≤ n % 100 && n % 100 ≤ 10 then .few
    else if 11 ≤ n % 100 then .many
    else .other

def rules : List (String × Rule) := [
  ("ar", .arabic), ("be", .eastSlavic), ("cs", .westSlavic), ("de", .oneOther), ("en", .oneOther),
  ("es", .oneOther), ("fr", .zeroOneOther), ("id", .otherOnly), ("it", .oneOther),
  ("ja", .otherOnly), ("ko", .otherOnly), ("nl", .oneOther), ("pl", .polish),
  ("pt", .zeroOneOther), ("ru", .eastSlavic), ("sk", .westSlavic), ("sv", .oneOther),
  ("th", .otherOnly), ("uk", .eastSlavic), ("vi", .otherOnly), ("zh", .otherOnly)]

-- The primary part of a language tag, whichever of the two separators the tag uses.
def primaryTag (language : String) : String :=
  String.ofList (Text.lower (language.toList.takeWhile fun c => c ≠ '_' && c ≠ '-'))

-- An unknown language tells one from all other numbers.
def ruleOf (language : String) : Rule :=
  (rules.lookup (primaryTag language)).getD .oneOther

def category (language : String) (quantity : Int) : Category :=
  (ruleOf language).category quantity.natAbs

def reachable (language : String) : List Category :=
  let seen := (List.range 200).map (ruleOf language).category
  Category.all.filter (seen.contains ·)

-- Categories that some integer selects and that have no item of their own.
def missing (language : String) (items : List String) : List String :=
  ((reachable language).filter fun c => c ≠ .other && !items.contains c.keyword).map
    Category.keyword

-- Items that no integer selects: keywords in their order, then all else by code points. An item
-- for all other numbers is always of use.
def unused (language : String) (items : List String) : List String :=
  let selected := (reachable language).map Category.keyword
  let idle     := items.filter fun q => q ≠ Category.other.keyword && !selected.contains q
  let keywords := Category.all.map Category.keyword
  keywords.filter (idle.contains ·) ++
    sortBy (fun a b => a ≤ b) (idle.filter (!keywords.contains ·)).eraseDups

def lacksFallback (items : List String) : Bool :=
  !items.contains Category.other.keyword

-- The position at which an item is listed: keywords first.
def itemRank (item : String) : Nat :=
  (Category.all.map Category.keyword).idxOf item

def itemLe (a b : String) : Bool :=
  itemRank a < itemRank b || (itemRank a = itemRank b && a ≤ b)

-- The items in listing order, each once.
def listItems (items : List String) : List String :=
  sortBy itemLe items.eraseDups

end TypedResources.Plural
