/-
SchemaDoc.Uri.Malformed — why a text is no URI reference.

Nearly every text is one; only the authority has a form that can fail: its
brackets, the address between them, and characters that compatibility
normalisation would turn into delimiters.
-/

namespace SchemaDoc.Uri

/-- A defect of an authority. -/
inductive Malformed where
  /-- One bracket stands without the other, or they do not enclose the whole host. -/
  | unbalancedBrackets
  /-- A bracketed address of a future version has not its form. -/
  | badFutureAddress
  /-- A version 4 address stands between brackets. -/
  | bracketedVersion4
  /-- The text between brackets, shown in quotes, is no address. -/
  | notAddress (shown : String)
  /-- The authority holds a character that normalises to a delimiter. -/
  | unstableAuthority (authority : String)
  deriving DecidableEq

/-- The wording of a defect. -/
def Malformed.message : Malformed → String
  | unbalancedBrackets => "Invalid IPv6 URL"
  | badFutureAddress => "IPvFuture address is invalid"
  | bracketedVersion4 => "An IPv4 address cannot be in brackets"
  | notAddress shown => shown ++ " does not appear to be an IPv4 or IPv6 address"
  | unstableAuthority authority =>
    "netloc '" ++ authority ++ "' contains invalid characters under NFKC normalization"

end SchemaDoc.Uri
