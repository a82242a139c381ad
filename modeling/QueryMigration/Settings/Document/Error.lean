import QueryMigration.Text.Quoted

/-! Why a settings document cannot be used, and the words for it. -/

namespace QueryMigration.Settings.Document

open Text

inductive Problem where
  | control
  | encoding
  | stray
  | noColon
  | entryPlace
  | keyPlace
  | valuePlace
  | directiveName
  | directiveUnknown
  | directiveLetter
  | versionNumber
  | versionLength
  | versionPoint
  | lineEnd
  | handle
  | handleEnd
  | tagEnd
  | tagName
  | tagBracket
  | tagOctet
  | anchorName
  | documentMark
  | unclosed
  | escape
  | escapeDigits
  | escapeCode
  | plainTab
  | blockTab
  | blockIndent
  | noContent
  | noKey
  | noDash
  | listEnd
  | mappingEnd
  | noDocument
  | versionTwice
  | versionOther
  | handleTwice
  | handleUnknown
deriving DecidableEq, Repr

def Problem.text : Problem → String
  | .control => "control characters are not allowed"
  | .encoding => "invalid text encoding"
  | .stray => "found character that cannot start any token"
  | .noColon => "could not find expected ':'"
  | .entryPlace => "block sequence entries are not allowed in this context"
  | .keyPlace => "mapping keys are not allowed in this context"
  | .valuePlace => "mapping values are not allowed in this context"
  | .directiveName => "could not find expected directive name"
  | .directiveUnknown => "found unknown directive name"
  | .directiveLetter => "found unexpected non-alphabetical character"
  | .versionNumber => "did not find expected version number"
  | .versionLength => "found extremely long version number"
  | .versionPoint => "did not find expected digit or '.' character"
  | .lineEnd => "did not find expected comment or line break"
  | .handle => "did not find expected '!'"
  | .handleEnd => "did not find expected whitespace"
  | .tagEnd => "did not find expected whitespace or line break"
  | .tagName => "did not find expected tag URI"
  | .tagBracket => "did not find the expected '>'"
  | .tagOctet => "did not find URI escaped octet"
  | .anchorName => "did not find expected alphabetic or numeric character"
  | .documentMark => "found unexpected document indicator"
  | .unclosed => "found unexpected end of stream"
  | .escape => "found unknown escape character"
  | .escapeDigits => "did not find expected hexdecimal number"
  | .escapeCode => "found invalid Unicode character escape code"
  | .plainTab => "found a tab character that violates indentation"
  | .blockTab => "found a tab character where an indentation space is expected"
  | .blockIndent => "found an indentation indicator equal to 0"
  | .noContent => "did not find expected node content"
  | .noKey => "did not find expected key"
  | .noDash => "did not find expected '-' indicator"
  | .listEnd => "did not find expected ',' or ']'"
  | .mappingEnd => "did not find expected ',' or '\x7d'"
  | .noDocument => "did not find expected <document start>"
  | .versionTwice => "found duplicate %YAML directive"
  | .versionOther => "found incompatible YAML document"
  | .handleTwice => "found duplicate %TAG directive"
  | .handleUnknown => "found undefined tag handle"

inductive Misfit where
  | kind (line : Nat) (found wanted : String)
  | duplicate (line : Nat) (key : Text) (first : Nat)
deriving DecidableEq, Repr

def Misfit.text : Misfit → String
  | .kind line found wanted =>
    "line " ++ line.repr ++ ": cannot unmarshal " ++ found ++ " into " ++ wanted
  | .duplicate line key first =>
    "line " ++ line.repr ++ ": mapping key " ++ String.ofList (Quoted.quote key) ++
      " already defined at line " ++ first.repr

/-- Why a document cannot be used. Lines are counted from one, and a line zero is not told. -/
inductive Error where
  | malformed (line : Nat) (problem : Problem)
  | unknownAnchor (name : Text)
  | endlessAnchor (name : Text)
  | badTag (raw : Text) (tag wanted : String)
  | badBase64
  | badMerge
  | badKey (shown : Text)
  | excessiveAliases
  | misfits (found : List Misfit)
deriving DecidableEq, Repr

def Error.message : Error → String
  | .malformed line problem =>
    "yaml: " ++ (if line = 0 then "" else "line " ++ line.repr ++ ": ") ++ problem.text
  | .unknownAnchor name => "yaml: unknown anchor '" ++ String.ofList name ++ "' referenced"
  | .endlessAnchor name => "yaml: anchor '" ++ String.ofList name ++ "' value contains itself"
  | .badTag raw tag wanted =>
    "yaml: cannot decode " ++ tag ++ " `" ++ String.ofList raw ++ "` as a " ++ wanted
  | .badBase64 => "yaml: !!binary value contains invalid base64 data"
  | .badMerge => "yaml: map merge requires map or sequence of maps as the value"
  | .badKey shown => "yaml: invalid map key: " ++ String.ofList shown
  | .excessiveAliases => "yaml: document contains excessive aliasing"
  | .misfits found => "yaml: unmarshal errors:\n  " ++ "\n  ".intercalate (found.map Misfit.text)

end QueryMigration.Settings.Document
