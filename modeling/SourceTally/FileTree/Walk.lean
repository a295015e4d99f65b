import SourceTally.FileTree.Basic
import SourceTally.Text.Order

/- The files below a folder. In each folder its files come first and then its subfolders, both in
   the order of their names. Links to folders are not entered and are no files; all other links are
   files. -/
namespace SourceTally.FileTree

def excludedFolders : List String :=
  [".git", ".hg", ".svn", "__pycache__", "node_modules", ".venv", "venv", ".idea", ".vscode"]

def isExcludedFolder (extra : List String) (name : String) : Bool :=
  excludedFolders.contains name || extra.contains name

def isFileEntry (t : FileTree) (folder : Path) (entry : String × Node) : Bool :=
  match entry.2 with
  | .file _ => true
  | .folder _ => false
  | .link _ => !t.isFolder (folder.child entry.1).text

def fileNames (t : FileTree) (folder : Path) (entries : List (String × Node)) : List String :=
  Text.sorted ((entries.filter (t.isFileEntry folder)).map (·.1))

mutual

def filesBelow (t : FileTree) (extra : List String) (path : Path) : Node → List Path
  | .folder entries =>
    (t.fileNames path entries).map path.child ++
      (Text.sortedByFirst (filesInSubfolders t extra path entries)).flatMap (·.2)
  | _ => []

def filesInSubfolders (t : FileTree) (extra : List String) (path : Path) :
    List (String × Node) → List (String × List Path)
  | [] => []
  | (name, .folder entries) :: rest =>
    if isExcludedFolder extra name then filesInSubfolders t extra path rest
    else
      (name, filesBelow t extra (path.child name) (.folder entries)) ::
        filesInSubfolders t extra path rest
  | _ :: rest => filesInSubfolders t extra path rest

end

/-- The files below a folder, which may be given as a link and has any name. -/
def walk (t : FileTree) (extra : List String) (folder : Path) : List Path :=
  match t.find folder.text with
  | .ok (_, node) => t.filesBelow extra folder node
  | .error _ => []

end SourceTally.FileTree
