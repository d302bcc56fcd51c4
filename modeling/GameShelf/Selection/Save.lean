import GameShelf.Selection.Basic
import GameShelf.Storage.FileTree

/-!
# Saving a selection

The names of a selection are written to a file, one on each line. A file that is there is replaced
as a whole, and a selection that cannot be saved leaves all files as they are.
-/

namespace GameShelf.Selection

/-- Saves a selection to a path, unless the system refuses to go on at a stage. -/
def save (s : Selection) (path : String) (files : FileTree)
    (stop : Option FileTree.Stage := none) : Except SelectionError Unit × FileTree :=
  let (result, files) := files.replace path s.lines stop
  (result.mapError fun e ↦ .save path e.message, files)

end GameShelf.Selection
