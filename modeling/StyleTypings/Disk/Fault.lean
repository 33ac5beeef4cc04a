namespace StyleTypings.Disk

inductive Fault where
  | noEntry
  | denied
  | notDirectory
  | isDirectory
  | noSpace
  | nameTooLong
  | linkLoop
  | nulInName
  | notText
  | other (text : String)
deriving DecidableEq, Repr, Inhabited

def Fault.message : Fault → String
  | .noEntry => "No such file or directory (os error 2)"
  | .denied => "Permission denied (os error 13)"
  | .notDirectory => "Not a directory (os error 20)"
  | .isDirectory => "Is a directory (os error 21)"
  | .noSpace => "No space left on device (os error 28)"
  | .nameTooLong => "File name too long (os error 36)"
  | .linkLoop => "Too many levels of symbolic links (os error 40)"
  | .nulInName => "file name contained an unexpected NUL byte"
  | .notText => "stream did not contain valid UTF-8"
  | .other text => text

end StyleTypings.Disk
