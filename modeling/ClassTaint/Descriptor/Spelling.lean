import ClassTaint.Descriptor.Reader
import ClassTaint.Text.Blank

namespace ClassTaint

/-! The spellings of a class name. A name may be written as a descriptor, or
plainly with dots or slashes between its parts, with blanks around it. -/

/-- A plain name is written out as an object descriptor, whatever it holds. -/
def wrapName (name : List Char) : List Char :=
  'L' :: name.map (fun letter => if letter = '.' then '/' else letter) ++ [';']

/-- The descriptor meant by a spelling. A spelling that is a descriptor already
stands for itself. -/
def spelledDescriptor (spelling : List Char) : List Char :=
  let name := Text.trim spelling
  if isDescriptor name then name else wrapName name

end ClassTaint
