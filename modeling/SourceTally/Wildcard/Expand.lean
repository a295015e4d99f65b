import SourceTally.FileTree.Basic
import SourceTally.Wildcard.Basic

/- The paths that a path with wildcards stands for. Each part of it is matched against names;
   `**` as a whole part stands for any number of folders, and links to folders are entered. Names
   that start with a dot match only parts that do. -/
namespace SourceTally.Wildcard

def isWild (cs : List Char) : Bool := cs.any fun c => c = '*' || c = '?' || c = '['

def isHidden (cs : List Char) : Bool := cs.head? = some '.'

def isDeep (cs : List Char) : Bool := cs = ['*', '*']

def splitLast (path : List Char) : List Char × List Char :=
  let last := (path.reverse.takeWhile (· ≠ '/')).reverse
  let before := path.take (path.length - last.length)
  if before.all (· = '/') then (before, last)
  else ((before.reverse.dropWhile (· = '/')).reverse, last)

def join (path part : List Char) : List Char :=
  if path.isEmpty || path.getLast? = some '/' then path ++ part else path ++ '/' :: part

def folderText (folder : List Char) : String :=
  if folder.isEmpty then "." else String.ofList folder

def names (t : FileTree) (folder : List Char) (foldersOnly : Bool) : List (List Char) :=
  let all := (t.entries (folderText folder)).map (·.1.toList)
  if foldersOnly then all.filter fun name => t.isFolder (String.ofList (join folder name))
  else all

def matchingNames (t : FileTree) (folder wildcard : List Char) (foldersOnly : Bool) :
    List (List Char) :=
  (names t folder foldersOnly).filter fun name =>
    (isHidden wildcard || !isHidden name) && nameMatches wildcard name

def pathsBelow (t : FileTree) (foldersOnly : Bool) : Nat → List Char → List (List Char)
  | 0, _ => []
  | fuel + 1, folder =>
    ((names t folder foldersOnly).filter (!isHidden ·)).flatMap fun name =>
      name :: (pathsBelow t foldersOnly fuel (join folder name)).map (join name)

/-- Between two links on a path stand no more names than the tree is deep. -/
def depthLimit (t : FileTree) : Nat := (FileTree.linkLimit + 1) * (t.root.depth + 1) + 1

def deepPaths (t : FileTree) (folder : List Char) (foldersOnly : Bool) : List (List Char) :=
  (if folder.isEmpty || t.isFolder (String.ofList folder) then [[]] else []) ++
    pathsBelow t foldersOnly (depthLimit t) folder

def literalPart (t : FileTree) (folder part : List Char) : List (List Char) :=
  let found :=
    if part.isEmpty then t.isFolder (String.ofList folder)
    else t.hasEntry (String.ofList (join folder part))
  if found then [part] else []

def partsIn (t : FileTree) (folder part : List Char) (foldersOnly : Bool) : List (List Char) :=
  if isDeep part then deepPaths t folder foldersOnly
  else if isWild part then matchingNames t folder part foldersOnly
  else literalPart t folder part

def expandPath (t : FileTree) (path : List Char) (foldersOnly : Bool) : List (List Char) :=
  let (folder, part) := splitLast path
  if !isWild path then
    let found :=
      if part.isEmpty then t.isFolder (String.ofList folder) else t.hasEntry (String.ofList path)
    if found then [path] else []
  else if folder.isEmpty then partsIn t [] part foldersOnly
  else
    let folders :=
      if folder.length < path.length && isWild folder then expandPath t folder true else [folder]
    folders.flatMap fun found => (partsIn t found part foldersOnly).map (join found)
termination_by path.length
decreasing_by simp_all

def expand (t : FileTree) (path : String) : List String :=
  let found := expandPath t path.toList false
  (if found.head? = some [] then found.drop 1 else found).map String.ofList

end SourceTally.Wildcard
