/-!
What a run asks of the files around it.
-/

namespace MixinExterns

/-- Why a file cannot be read or written. -/
inductive FileFault where
  | notFound
  | isFolder
  | notFolder
  | notUtf8
  | nulInName
  | nameTooLong
  /-- Any other reason, in the words of the system. -/
  | system (message : String)
  deriving DecidableEq, Repr

def FileFault.message : FileFault → String
  | notFound => "No such file or directory (os error 2)"
  | isFolder => "Is a directory (os error 21)"
  | notFolder => "Not a directory (os error 20)"
  | notUtf8 => "stream did not contain valid UTF-8"
  | nulInName => "file name contained an unexpected NUL byte"
  | nameTooLong => "File name too long (os error 36)"
  | system message => message

/-- Files and folders that can be looked at, read and written by path. -/
class FileAccess (m : Type → Type) where
  isFolder : String → m Bool
  isFile : String → m Bool
  read : String → m (Except FileFault String)
  write : String → String → m (Except FileFault Unit)

end MixinExterns
