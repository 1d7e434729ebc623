import ClassTaint.Yaml.Fault
import ClassTaint.Yaml.Character

namespace ClassTaint.Yaml

/-! Tags: what a node says it is. -/

inductive Tag
  | null
  | bool
  | integer
  | float
  | timestamp
  | text
  | list
  | mapping
  | set
  | merge
  | value
  | other (name : String)
  deriving DecidableEq, Repr

def standardTagStart : String := "tag:yaml.org,2002:"

/-- The last parts of the names of the standard tags. Those for bytes, for ordered
mappings and for lists of pairs are left out: there are no values for them, and a text
that has one of them counts as malformed. -/
def standardTags : List (String × Tag) :=
  [("null", .null), ("bool", .bool), ("int", .integer), ("float", .float),
    ("timestamp", .timestamp), ("str", .text), ("seq", .list),
    ("map", .mapping), ("set", .set), ("merge", .merge), ("value", .value)]

def Tag.ofName (name : String) : Tag :=
  let standard := standardTags.find? fun entry =>
    standardTagStart ++ entry.1 == name
  match standard with
  | some (_, tag) => tag
  | none => .other name

/-- A tag as written: a handle that stands for the start of its name, if there is
one, and the rest of the name. -/
structure WrittenTag where
  handle : Option String
  rest : String
  deriving DecidableEq, Repr

/-- The tag that leaves the choice to the reader. -/
def WrittenTag.isOpen (tag : WrittenTag) : Bool :=
  tag.handle.isNone && tag.rest == "!"

def isUriLetter (character : Char) : Bool :=
  character.isAlphanum || "-;/?:@&=+$,_.!~*'()[]".toList.contains character

def decodeBytes (bytes : List UInt8) : Except Fault (List Char) :=
  match String.fromUTF8? ⟨bytes.toArray⟩ with
  | some text => .ok text.toList
  | none => .error .malformed

/-- Reads the letters of a name, in which escaped bytes in a row are one text. -/
def uriFrom : List UInt8 → List Char → Except Fault (List Char × List Char)
  | bytes, '%' :: high :: low :: rest =>
      match hexValue? high, hexValue? low with
      | some first, some second =>
          uriFrom (bytes ++ [UInt8.ofNat (first * 16 + second)]) rest
      | _, _ => .error .malformed
  | _, '%' :: _ => .error .malformed
  | bytes, character :: rest => do
      let front ← decodeBytes bytes
      if isUriLetter character then
        let (more, rest) ← uriFrom [] rest
        pure (front ++ character :: more, rest)
      else
        pure (front, character :: rest)
  | bytes, [] => do
      let front ← decodeBytes bytes
      pure (front, [])

/-- A name has at least one letter. -/
def readUri (text : List Char) : Except Fault (List Char × List Char) :=
  match text with
  | [] => .error .malformed
  | first :: _ =>
      if isUriLetter first || first == '%' then
        uriFrom [] text
      else
        .error .malformed

/-- A handle is one exclamation mark before a space, and else two marks around a
name that may be empty. -/
def readHandle (text : List Char) : Except Fault (List Char × List Char) :=
  match text with
  | '!' :: ' ' :: rest => .ok (['!'], ' ' :: rest)
  | '!' :: rest =>
      match rest.dropWhile isNameLetter with
      | '!' :: after => .ok ('!' :: rest.takeWhile isNameLetter ++ ['!'], after)
      | _ => .error .malformed
  | _ => .error .malformed

def readTag (text : List Char) : Except Fault (WrittenTag × List Char) := do
  let (tag, rest) ←
    match text with
    | '!' :: '<' :: rest => do
        let (name, rest) ← readUri rest
        match rest with
        | '>' :: rest => pure (⟨none, String.ofList name⟩, rest)
        | _ => throw .malformed
    | '!' :: rest =>
        if atGap rest then
          pure (⟨none, "!"⟩, rest)
        else if (rest.takeWhile fun character =>
            !(character == ' ' || isBreak character)).contains '!' then do
          let (handle, rest) ← readHandle text
          let (name, rest) ← readUri rest
          pure (⟨some (String.ofList handle), String.ofList name⟩, rest)
        else do
          let (name, rest) ← readUri rest
          pure (⟨some "!", String.ofList name⟩, rest)
    | _ => throw .malformed
  if atBreakOrBlank rest then
    pure (tag, rest)
  else
    throw .malformed

end ClassTaint.Yaml
