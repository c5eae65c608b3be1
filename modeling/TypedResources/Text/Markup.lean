-- Escaping of text in markup: five characters are written as entities, all others as they are.

namespace TypedResources.Text

def markupEntity : Char → List Char
  | '&'  => ['&', 'a', 'm', 'p', ';']
  | '<'  => ['&', 'l', 't', ';']
  | '>'  => ['&', 'g', 't', ';']
  | '\'' => ['&', '#', '3', '9', ';']
  | '"'  => ['&', '#', '3', '4', ';']
  | c    => [c]

def escapeMarkup (s : List Char) : List Char :=
  s.flatMap markupEntity

end TypedResources.Text
