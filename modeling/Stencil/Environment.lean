import Stencil.Text.OsText

namespace Stencil

abbrev Environment := String → Option OsText

namespace Environment

def empty : Environment := fun _ => none

def text? (env : Environment) (name : String) : Option String :=
  (env name).bind OsText.text?

/-- The value of a variable, if it is set to anything but the empty text. -/
def filled? (env : Environment) (name : String) : Option OsText :=
  (env name).filter fun value => !value.isEmpty

end Environment

end Stencil
