/-! Why a document is no markup, and the wording of it. -/

namespace TiledStream

inductive MarkupPart where
  | tag
  | comment
  | characterData
  | doctype
  | instruction
  deriving DecidableEq

def MarkupPart.name : MarkupPart → String
  | .tag => "tag"
  | .comment => "comment"
  | .characterData => "CDATA"
  | .doctype => "DOCTYPE"
  | .instruction => "processing instruction or xml declaration"

def MarkupPart.ending : MarkupPart → String
  | .tag => ">"
  | .comment => "-->"
  | .characterData => "]]>"
  | .doctype => ">"
  | .instruction => "?>"

inductive CodeError where
  | signed
  | empty
  | badDigit
  | tooLarge
  | zero
  | noCharacter (code : Nat)
  deriving DecidableEq

def CodeError.message : CodeError → String
  | .signed => "unexpected number sign"
  | .empty => "cannot parse integer from empty string"
  | .badDigit => "invalid digit found in string"
  | .tooLarge => "number too large to fit in target type"
  | .zero => "0x0 character is not permitted in XML"
  | .noCharacter code => s!"\x60{code}\x60 is not a valid codepoint"

/-- Why a reference names nothing. Places are in bytes from the start of the character data or of the
value that holds it. -/
inductive ReferenceError where
  | unknown (first last : Nat) (name : String)
  | unfinished (first last : Nat)
  | code (error : CodeError)
  deriving DecidableEq

def ReferenceError.message : ReferenceError → String
  | .unknown first last name => s!"at {first}..{last}: unrecognized entity \x60{name}\x60"
  | .unfinished first last =>
    s!"Error while escaping character at range {first}..{last}: Cannot find ';' after '&'"
  | .code error => "invalid character reference: " ++ error.message

/-- Why a tag has no readable attributes. Places are in bytes from the name of the tag. -/
inductive AttributeError where
  | noEquals (place : Nat)
  | noValue (place : Nat)
  | unquoted (place : Nat)
  | openQuote (place : Nat) (mark : Char)
  | repeated (place earlier : Nat)
  deriving DecidableEq

def AttributeError.message : AttributeError → String
  | .noEquals place =>
    s!"position {place}: attribute key must be directly followed by \x60=\x60 or space"
  | .noValue place => s!"position {place}: \x60=\x60 must be followed by an attribute value"
  | .unquoted place =>
    s!"position {place}: attribute value must be enclosed in \x60\"\x60 or \x60'\x60"
  | .openQuote place mark =>
    s!"position {place}: missing closing quote \x60{mark}\x60 in attribute value"
  | .repeated place earlier =>
    s!"position {place}: duplicated attribute, previous declaration at position {earlier}"

inductive MarkupError where
  | unfinished
  | unclosed (part : MarkupPart)
  | unknownDeclaration
  | unnamedDoctype
  | strayEnd (name : String)
  | wrongEnd (expected found : String)
  | badAttribute (error : AttributeError)
  | badReference (error : ReferenceError)
  | other (description : String)
  deriving DecidableEq

def MarkupError.message : MarkupError → String
  | .unfinished => "unexpected end of document"
  | .unclosed part =>
    s!"syntax error: {part.name} not closed: \x60{part.ending}\x60 not found before end of input"
  | .unknownDeclaration => "syntax error: unknown or missed symbol in markup"
  | .unnamedDoctype =>
    "ill-formed document: \x60<!DOCTYPE>\x60 declaration does not contain a name of a document type"
  | .strayEnd name =>
    s!"ill-formed document: close tag \x60</{name}>\x60 does not match any open tag"
  | .wrongEnd expected found =>
    s!"ill-formed document: expected \x60</{expected}>\x60, but \x60</{found}>\x60 was found"
  | .badAttribute error => error.message
  | .badReference error => error.message
  | .other description => description

end TiledStream
