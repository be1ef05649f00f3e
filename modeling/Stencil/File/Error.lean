namespace Stencil.File

inductive ErrorKind where
  | notFound
  | notADirectory
  | isADirectory
  | alreadyExists
  | nameTooLong
  | invalidInput
  | invalidData
  | other (name : String)
  deriving DecidableEq, Repr, Inhabited

structure Error where
  kind : ErrorKind
  message : String
  deriving DecidableEq, Repr, Inhabited

namespace Error

def notFound : Error := ⟨.notFound, "No such file or directory (os error 2)"⟩

def notADirectory : Error := ⟨.notADirectory, "Not a directory (os error 20)"⟩

def isADirectory : Error := ⟨.isADirectory, "Is a directory (os error 21)"⟩

def alreadyExists : Error := ⟨.alreadyExists, "File exists (os error 17)"⟩

def nameTooLong : Error := ⟨.nameTooLong, "File name too long (os error 36)"⟩

def unexpectedNul : Error := ⟨.invalidInput, "file name contained an unexpected NUL byte"⟩

def notText : Error := ⟨.invalidData, "stream did not contain valid UTF-8"⟩

end Error

end Stencil.File
