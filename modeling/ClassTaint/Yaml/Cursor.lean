import ClassTaint.Yaml.Character

namespace ClassTaint.Yaml

/-! A place in a text: what is left of it, and how far the place is from the
start of the text and of its line. -/

structure Cursor where
  rest : List Char
  index : Nat
  line : Nat
  column : Nat
  deriving DecidableEq, Repr

namespace Cursor

def start (text : List Char) : Cursor :=
  ⟨text, 0, 0, 0⟩

/-- Byte order marks take up no column. -/
def next (cursor : Cursor) : Cursor :=
  match cursor.rest with
  | [] => cursor
  | character :: rest =>
      if isBreak character then
        ⟨rest, cursor.index + 1, cursor.line + 1, 0⟩
      else if character == '\uFEFF' then
        ⟨rest, cursor.index + 1, cursor.line, cursor.column⟩
      else
        ⟨rest, cursor.index + 1, cursor.line, cursor.column + 1⟩

def skip : Nat → Cursor → Cursor
  | 0, cursor => cursor
  | count + 1, cursor => skip count cursor.next

/-- Goes on to a later place, given by what is left there. -/
def skipTo (rest : List Char) (cursor : Cursor) : Cursor :=
  cursor.skip (cursor.rest.length - rest.length)

end Cursor

end ClassTaint.Yaml
