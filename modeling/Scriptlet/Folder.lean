import Scriptlet.CommandLine

/-! A folder held in memory, from which scripts can be read by their paths. -/

namespace Scriptlet

inductive Folder.Entry where
  | file (content : ByteArray)
  | folder

/-- The entries of a folder and of the folders in it, by path. -/
structure Folder where
  entries : List (List String × Folder.Entry)

namespace Folder

/-- The longest name of a file or folder, in bytes. -/
def nameLimit : Nat := 255

/-- A path has to be shorter than this, in bytes. -/
def pathLimit : Nat := 4096

def names (path : String) : List String :=
  (path.splitOn "/").filter (· != "")

/-- The steps that a path asks for. A slash at its end is a step that stays where it is, which only
a folder allows. -/
def steps (path : String) : List String :=
  if path.endsWith "/" then names path ++ ["."] else names path

def ofList (entries : List (String × Entry)) : Folder :=
  ⟨entries.map fun entry => (names entry.1, entry.2)⟩

def find? (folder : Folder) (path : List String) : Option Entry :=
  if path.isEmpty then some .folder
  else
    match folder.entries.find? fun entry => entry.1 == path with
    | some entry => some entry.2
    | none =>
        if folder.entries.any fun entry => path.isPrefixOf entry.1 then some .folder else none

/-- Follows steps from a place around the folder. Nothing else is known to be there. -/
def walkOutside : List String → CommandLine.Reading
  | [] => .isDirectory
  | step :: rest =>
      if step == "." || step == ".." then walkOutside rest
      else if nameLimit < step.utf8ByteSize then .nameTooLong
      else .notFound

def walk (folder : Folder) (here : List String) : List String → CommandLine.Reading
  | [] =>
      match folder.find? here with
      | some (.file content) => .bytes content
      | some .folder => .isDirectory
      | none => .notFound
  | step :: rest =>
      match folder.find? here with
      | none => .notFound
      | some (.file _) => .notDirectory
      | some .folder =>
          if step == "." then walk folder here rest
          else if step == ".." then
            if here.isEmpty then walkOutside rest else walk folder here.dropLast rest
          else if nameLimit < step.utf8ByteSize then .nameTooLong
          else walk folder (here ++ [step]) rest

def read (folder : Folder) (path : String) : CommandLine.Reading :=
  if path.isEmpty then .notFound
  else if pathLimit ≤ path.utf8ByteSize then .nameTooLong
  else if path.startsWith "/" then walkOutside (steps path)
  else folder.walk [] (steps path)

end Folder

end Scriptlet
