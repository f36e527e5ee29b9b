/-!
Why a text is not a document. A cause carries the data its wording needs; the wording itself is in
the `message` functions and nowhere else.
-/

namespace LicenseChooser.Markup

/-- What is wrong with a numeric character reference. -/
inductive NumberError where
  | signed
  | noDigits
  | badDigit
  | tooLarge
  | null
  | notScalar (value : Nat)
  deriving DecidableEq, Repr

/-- What is wrong with a reference; positions are byte offsets in the text that holds it. -/
inductive EntityError where
  | unterminated (start stop : Nat)
  | unknown (start stop : Nat) (name : String)
  | number (cause : NumberError)
  deriving DecidableEq, Repr

/-- What is wrong with an attribute; positions are byte offsets in its tag. -/
inductive AttributeError where
  | missingEquals (position : Nat)
  | missingValue (position : Nat)
  | unquotedValue (position : Nat)
  /-- The quote that opens the value does not come again. -/
  | openValue (position : Nat) (quote : Char)
  | duplicated (position previous : Nat)
  deriving DecidableEq, Repr

/-- Why a text does not split into well-formed markup. -/
inductive MarkupError where
  | unknownDeclaration
  | openInstruction
  | openComment
  | openDoctype
  | openCData
  | openTag
  | namelessDoctype
  | mismatchedEnd (expected found : String)
  | unmatchedEnd (found : String)
  | attribute (cause : AttributeError)
  | entity (cause : EntityError)
  deriving DecidableEq, Repr

/-- Why a text is not a document: its markup is wrong, or it does not hold exactly one complete
top-level element. -/
inductive DocumentError where
  | malformed (cause : MarkupError)
  | unclosed (name : String)
  | noRoot
  | secondRoot (name : String)
  deriving DecidableEq, Repr

def NumberError.message : NumberError → String
  | .signed => "unexpected number sign"
  | .noDigits => "cannot parse integer from empty string"
  | .badDigit => "invalid digit found in string"
  | .tooLarge => "number too large to fit in target type"
  | .null => "0x0 character is not permitted in XML"
  | .notScalar value => "`" ++ toString value ++ "` is not a valid codepoint"

def EntityError.message : EntityError → String
  | .unterminated start stop =>
      "Error while escaping character at range " ++ toString start ++ ".." ++ toString stop ++
        ": Cannot find ';' after '&'"
  | .unknown start stop name =>
      "at " ++ toString start ++ ".." ++ toString stop ++ ": unrecognized entity `" ++ name ++ "`"
  | .number cause => "invalid character reference: " ++ cause.message

def AttributeError.message : AttributeError → String
  | .missingEquals position =>
      "position " ++ toString position ++
        ": attribute key must be directly followed by `=` or space"
  | .missingValue position =>
      "position " ++ toString position ++ ": `=` must be followed by an attribute value"
  | .unquotedValue position =>
      "position " ++ toString position ++
        ": attribute value must be enclosed in `\"` or `'`"
  | .openValue position quote =>
      "position " ++ toString position ++ ": missing closing quote `" ++ quote.toString ++
        "` in attribute value"
  | .duplicated position previous =>
      "position " ++ toString position ++
        ": duplicated attribute, previous declaration at position " ++ toString previous

/-- The text that says `delimiter` is missing at the end of `what`. -/
private def neverClosed (what delimiter : String) : String :=
  "syntax error: " ++ what ++ " not closed: `" ++ delimiter ++ "` not found before end of input"

def MarkupError.message : MarkupError → String
  | .unknownDeclaration => "syntax error: unknown or missed symbol in markup"
  | .openInstruction => neverClosed "processing instruction or xml declaration" "?>"
  | .openComment => neverClosed "comment" "-->"
  | .openDoctype => neverClosed "DOCTYPE" ">"
  | .openCData => neverClosed "CDATA" "]]>"
  | .openTag => neverClosed "tag" ">"
  | .namelessDoctype =>
      "ill-formed document: `<!DOCTYPE>` declaration does not contain a name of a document type"
  | .mismatchedEnd expected found =>
      "ill-formed document: expected `</" ++ expected ++ ">`, but `</" ++ found ++ ">` was found"
  | .unmatchedEnd found =>
      "ill-formed document: close tag `</" ++ found ++ ">` does not match any open tag"
  | .attribute cause => "error while parsing attribute: " ++ cause.message
  | .entity cause => cause.message

def DocumentError.message : DocumentError → String
  | .malformed cause => cause.message
  | .unclosed name => "element <" ++ name ++ "> is never closed"
  | .noRoot => "document has no root element"
  | .secondRoot name => "document has more than one root element (found <" ++ name ++ ">)"

end LicenseChooser.Markup
