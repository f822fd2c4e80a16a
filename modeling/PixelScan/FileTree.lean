import PixelScan.Text.Pieces

namespace PixelScan

structure ReadFault where
  cause : String
  number : Nat
deriving DecidableEq, Repr

namespace ReadFault

def notFound : ReadFault := ⟨"No such file or directory", 2⟩

def notADirectory : ReadFault := ⟨"Not a directory", 20⟩

def isADirectory : ReadFault := ⟨"Is a directory", 21⟩

def message (f : ReadFault) : String := f.cause ++ " (os error " ++ toString f.number ++ ")"

end ReadFault

structure FileTree where
  files : List (List String × ByteArray)

namespace FileTree

/-- Where a walk has come to. Above the directory nothing is known but that there are directories. -/
inductive Place
  | inside (names : List String)
  | above
deriving DecidableEq, Repr

def file? (t : FileTree) (names : List String) : Option ByteArray := t.files.lookup names

def isDirectory (t : FileTree) (names : List String) : Bool :=
  names.isEmpty || t.files.any fun f => names.isPrefixOf f.1 && names != f.1

def enter (t : FileTree) (place : Place) (name : String) : Except ReadFault Place :=
  match place with
  | .above => if name ∈ ["", ".", ".."] then .ok .above else .error .notFound
  | .inside names =>
    if (t.file? names).isSome then .error .notADirectory
    else if !t.isDirectory names then .error .notFound
    else if name ∈ ["", "."] then .ok place
    else if name = ".." then .ok (if names.isEmpty then .above else .inside names.dropLast)
    else .ok (.inside (names ++ [name]))

def read (t : FileTree) (path : String) : Except ReadFault ByteArray := do
  let origin := if path.toList.head? = some '/' then .above else .inside []
  match ← (textPieces '/' path).foldlM t.enter origin with
  | .above => throw .isADirectory
  | .inside names =>
    match t.file? names with
    | some bytes => return bytes
    | none => throw (if t.isDirectory names then .isADirectory else .notFound)

end FileTree

end PixelScan
