import TypedResources.Text.Quoted
import TypedResources.Xml.CharsetTable

-- What can be wrong with an XML document, in the order in which a reader meets it.

namespace TypedResources.Xml

inductive Fault
  | noElement
  | invalidToken
  | unclosedToken
  | partialCharacter
  | mismatchedTag
  | duplicateAttribute
  | junkAfterRoot
  | parameterReference
  | undefinedEntity
  -- The entity may be defined in a part of the document type that is not read.
  | unresolvedEntity (name : List Char)
  | recursiveEntity
  | asynchronousEntity
  | characterNumber
  | binaryEntity
  | externalEntityInAttribute
  | misplacedDeclaration
  | malformedDeclaration
  | incompatibleEncoding
  | unusableEncoding
  | unclosedCharacterData
  | syntaxError
  | publicId
  | unboundPrefix
  | undeclaredPrefix
  | reservedPrefixXml
  | reservedPrefixXmlns
  | reservedNamespace
deriving DecidableEq

def Fault.message : Fault → String
  | noElement                 => "no element found"
  | invalidToken              => "not well-formed (invalid token)"
  | unclosedToken             => "unclosed token"
  | partialCharacter          => "partial character"
  | mismatchedTag             => "mismatched tag"
  | duplicateAttribute        => "duplicate attribute"
  | junkAfterRoot             => "junk after document element"
  | parameterReference        => "illegal parameter entity reference"
  | undefinedEntity           => "undefined entity"
  | unresolvedEntity name     => "undefined entity &" ++ String.ofList name ++ ";"
  | recursiveEntity           => "recursive entity reference"
  | asynchronousEntity        => "asynchronous entity"
  | characterNumber           => "reference to invalid character number"
  | binaryEntity              => "reference to binary entity"
  | externalEntityInAttribute => "reference to external entity in attribute"
  | misplacedDeclaration      => "XML or text declaration not at start of entity"
  | malformedDeclaration      => "XML declaration not well-formed"
  | incompatibleEncoding      => "encoding specified in XML declaration is incorrect"
  | unusableEncoding          => "unknown encoding"
  | unclosedCharacterData     => "unclosed CDATA section"
  | syntaxError               => "syntax error"
  | publicId                  => "illegal character(s) in public id"
  | unboundPrefix             => "unbound prefix"
  | undeclaredPrefix          => "must not undeclare prefix"
  | reservedPrefixXml         =>
    "reserved prefix (xml) must not be undeclared or bound to another namespace name"
  | reservedPrefixXmlns       => "reserved prefix (xmlns) must not be declared or undeclared"
  | reservedNamespace         => "prefix must not be bound to one of the reserved namespace names"

-- The name stands in a message up to its 400th character where it may be of any length.
def Unreadable.message (name : String) : Unreadable → String
  | unknown   => "unknown encoding: " ++ name
  | multiByte => "multi-byte encodings are not supported"
  | noText    =>
    Text.quoted (name.take 400).toString ++
    " is not a text encoding; use codecs.decode() to handle arbitrary codecs"
  | strict    =>
    "decoding with " ++ Text.quoted name ++
    " codec failed (UnicodeError: Unsupported error handling replace)"
  | undefined => "decoding with " ++ Text.quoted name ++ " codec failed (UnicodeError: undefined encoding)"
  | asciiOnly => "'ascii' codec can't decode byte 0x80 in position 82: ordinal not in range(128)"

-- A document is malformed, or written in an encoding that cannot be read at all.
inductive Failure
  | malformed (fault : Fault)
  | unreadable (reason : Unreadable) (encoding : String)
deriving DecidableEq

end TypedResources.Xml
