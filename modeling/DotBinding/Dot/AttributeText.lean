import DotBinding.Dot.Identifier
import DotBinding.Value.Literal
import DotBinding.Value.Record

/-!
# Attributes as text

Bundles of attributes as the text of an attribute list: `key=value` pairs joined by commas.
-/

namespace DotBinding.Dot.AttributeText

inductive Error where
  | noEquals (text : String)
  | noValue (key : Value)
  | incompletePair (pair : Value)
  | noPair (item : Value)
  | unsupported (bundle : Value)
  /-- What is to be written, or to be shown in an error, has too long a number in it. -/
  | tooLong

def Error.message : Error → String
  | noEquals text =>
    "Strings passed into to_attributes() must contain an equals sign, e.g. idName=id (got " ++
      Text.quoted text ++ ")"
  | noValue key => "The key " ++ key.literal ++ " has no value in the attributes passed in"
  | incompletePair pair =>
    "Attribute pairs given as mappings need 'key' and 'value', got " ++ pair.literal
  | noPair item => "Attribute pairs must be (key, value) sequences, got " ++ item.literal
  | unsupported bundle =>
    "Cannot convert " ++ bundle.kindName ++
      " into attributes; expected a mapping, a list of pairs or key=value text"
  | tooLong => Value.tooLongMessage

/-- An error that shows a value, if the value can be written. -/
def Error.showing (v : Value) (e : Error) : Error :=
  if v.isWritable then e else tooLong

/-- An ASCII word or a whole numeral. -/
def isPlain : List Char → Bool
  | [] => false
  | c :: rest =>
    (c.isAlpha || c == '_') && rest.all (fun d => d.isAlphanum || d == '_') ||
      Numeral.length? (c :: rest) == some (rest.length + 1)

/-- Whether a text is written without quotes. One line feed at its end does not count. -/
def isBare (cs : List Char) : Bool :=
  isPlain cs || cs.getLast? == some '\n' && isPlain cs.dropLast

/-- The text that a value is read back as. -/
def textOf : Value → String
  | .bool true => "true"
  | .bool false => "false"
  | v => v.display

def encodeText (s : String) : String :=
  if isBare s.toList then s else enclose s

def encodeValue (v : Value) : String :=
  encodeText (textOf v)

/-- The text of a pair, whose parts must both be writable. -/
def pairText (key value : Value) : Except Error String :=
  if key.isWritable && value.isWritable then .ok (key.display ++ "=" ++ encodeValue value)
  else .error .tooLong

/-- One pair: a map with a key and a value, or anything that holds two things. -/
def encodePair : Value → Except Error String
  | .map entries =>
    match Record.get? ⟨entries⟩ "key", Record.get? ⟨entries⟩ "value" with
    | some key, some value => pairText key value
    | _, _ => .error (.showing (.map entries) (.incompletePair (.map entries)))
  | .list [key, value] | .tuple [key, value] => pairText key value
  | .text s =>
    match s.toList with
    | [a, b] => pairText (.text (String.singleton a)) (.text (String.singleton b))
    | _ => .error (.noPair (.text s))
  | item => .error (.showing item (.noPair item))

def encodeEntry (entry : Value × Value) : Except Error String :=
  if entry.2.isNull then .error (.showing entry.1 (.noValue entry.1))
  else pairText entry.1 entry.2

/-- The text of a bundle: a map, a list of pairs, or text that already is in this form. -/
def encode : Value → Except Error String
  | .null => .ok ""
  | .text s => if s.toList.contains '=' then .ok s else .error (.noEquals s)
  | .map entries => (entries.mapM encodeEntry).map (",".intercalate ·)
  | .list items | .tuple items => (items.mapM encodePair).map (",".intercalate ·)
  | v => .error (.unsupported v)

end DotBinding.Dot.AttributeText
