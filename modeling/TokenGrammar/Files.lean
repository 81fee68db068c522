/-!
Access to files: what a program needs to know of them, and why reading one can fail.
-/

namespace TokenGrammar

inductive FileError where
  | system (text : String) (number : Nat)
  | unusablePath
  | notText
  deriving DecidableEq

namespace FileError

def notFound : FileError := .system "No such file or directory" 2

def notFolder : FileError := .system "Not a directory" 20

def isFolder : FileError := .system "Is a directory" 21

def nameTooLong : FileError := .system "File name too long" 36

def message : FileError → String
  | .system text number => text ++ " (os error " ++ toString number ++ ")"
  | .unusablePath => "file name contained an unexpected NUL byte"
  | .notText => "stream did not contain valid UTF-8"

def isAbsence : FileError → Bool
  | .system _ number => [2, 20, 36, 40].contains number
  | .unusablePath => true
  | .notText => false

end FileError

structure Files (m : Type → Type) where
  readText : String → m (Except FileError String)
  isPresent : String → m Bool
  isFile : String → m Bool

end TokenGrammar
