import Converge.Yaml.Cursor

/-!
This module contains the tokens of a YAML document.
-/

namespace Converge.Yaml

inductive Directive
  | version (major : Nat)
  | tag (handle beginning : Text)
  | reserved
deriving Inhabited, Repr

/--
A token. `failed` stands where the document stops being readable; the tokens before it are sound.
-/
inductive Token
  | directive (d : Directive)
  | documentStart
  | documentEnd
  | streamEnd
  | blockSequenceStart
  | blockMappingStart
  | blockEnd
  | flowSequenceStart
  | flowSequenceEnd
  | flowMappingStart
  | flowMappingEnd
  | blockEntry
  | flowEntry
  | key
  | value
  | alias (name : Text)
  | anchor (name : Text)
  | tag (handle? : Option Text) (suffix : Text)
  | scalar (text : Text) (plain : Bool)
  | failed (trouble : Trouble)
deriving Inhabited, Repr

end Converge.Yaml
