/-!
# Files

Files are a map from names to bytes. Which name a path leads to is up to the system, and so is
whether it may be read or written; a file that is written is replaced or added, and every other file
stays.
-/

namespace ViewCode.CommandLine

/-- Why something could not be read or written. -/
inductive IoFault where
  /-- The system refuses, for a reason with a number. -/
  | system (reason : String) (code : Nat)
  /-- The bytes are not text in UTF-8. -/
  | invalidUtf8
  /-- Any other reason. -/
  | other (reason : String)
  deriving DecidableEq, Repr

namespace IoFault

/-- There is no such file. -/
def notFound : IoFault :=
  system "No such file or directory" 2

/-- The fault in words. -/
def message : IoFault → String
  | system reason code => reason ++ " (os error " ++ toString code ++ ")"
  | invalidUtf8 => "stream did not contain valid UTF-8"
  | other reason => reason

end IoFault

/-- Files by name. -/
structure Store where
  /-- Names and contents. -/
  files : List (String × ByteArray)

namespace Store

/-- The content of the named file. -/
def get? (store : Store) (name : String) : Option ByteArray :=
  store.files.lookup name

/-- The store with the content under the name, in place of what was there. -/
def set (store : Store) (name : String) (content : ByteArray) : Store :=
  if (store.get? name).isSome then
    ⟨store.files.map fun file => if file.1 = name then (name, content) else file⟩
  else ⟨store.files ++ [(name, content)]⟩

end Store

/-- The files that a run may reach, with the way to them. A path leads to the name by which the
system knows the file, through whatever directories and links there are, or it leads nowhere. -/
structure FileSystem where
  /-- The files. -/
  store : Store
  /-- The name of the file that is read under a path, or why there is none. -/
  toRead : String → Except IoFault String
  /-- The name of the file that is written under a path, or why there can be none. -/
  toWrite : String → Except IoFault String

namespace FileSystem

/-- Reads the file that the path leads to. -/
def read (system : FileSystem) (path : String) : Except IoFault ByteArray := do
  match system.store.get? (← system.toRead path) with
  | none => .error .notFound
  | some content => .ok content

/-- The files after the one that the path leads to has been written, which need not exist yet. -/
def write (system : FileSystem) (path : String) (content : ByteArray) : Except IoFault Store := do
  return system.store.set (← system.toWrite path) content

end FileSystem

end ViewCode.CommandLine
