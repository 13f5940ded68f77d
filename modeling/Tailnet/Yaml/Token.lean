import Tailnet.Yaml.Error

/-!
The tokens of YAML texts: marks of structure, anchors and aliases, and scalars.
-/

namespace Tailnet.Yaml

/-- What a directive says: the version of the language, or what the handle of tags stands for.
Others say nothing. -/
inductive Directive where
  | version (major : Nat)
  | handle (name written : String)
  | other
deriving DecidableEq, Repr

/-- What a token stands for. A tag may have a handle, and a scalar knows whether it was written
without quotes. -/
inductive TokenKind where
  | directive (said : Directive)
  | documentStart
  | documentEnd
  | streamEnd
  | blockSequenceStart
  | blockMappingStart
  | blockEnd
  | flowSequenceStart
  | flowSequenceEnd
  | flowMappingStart
  | flowMappingEnd
  | blockEntry
  | flowEntry
  | key
  | value
  | aliasOf (name : String)
  | anchor (name : String)
  | tag (handle : Option String) (suffix : String)
  | scalar (text : String) (isPlain : Bool)
deriving DecidableEq, Repr

def TokenKind.mark : TokenKind → String
  | directive _ => "<directive>"
  | documentStart => "<document start>"
  | documentEnd => "<document end>"
  | streamEnd => "<stream end>"
  | blockSequenceStart => "<block sequence start>"
  | blockMappingStart => "<block mapping start>"
  | blockEnd => "<block end>"
  | flowSequenceStart => "["
  | flowSequenceEnd => "]"
  | flowMappingStart => "\x7b"
  | flowMappingEnd => "\x7d"
  | blockEntry => "-"
  | flowEntry => ","
  | key => "?"
  | value => ":"
  | aliasOf _ => "<alias>"
  | anchor _ => "<anchor>"
  | tag .. => "<tag>"
  | scalar .. => "<scalar>"

/-- A token and where it begins. -/
structure Token where
  kind : TokenKind
  place : Position
deriving DecidableEq, Repr

end Tailnet.Yaml
