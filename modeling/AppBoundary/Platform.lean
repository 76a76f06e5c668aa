-- The installed Android platforms: directories that are named for an API level
-- and hold the platform's classes.
import AppBoundary.FileTree
import AppBoundary.Text.Affix

namespace AppBoundary.Platform

/-! ## Levels of a listing -/

/-- The level that the name of a directory gives. -/
def levelOf? (name : String) : Option Nat :=
  (Text.afterStart? "android-" name).bind Text.word?

/-- The levels of a listing of names, each with whether the platform's classes are there, in
ascending order. -/
def levelsOf (listing : List (String × Bool)) : List Nat :=
  (listing.filterMap fun entry => if entry.2 then levelOf? entry.1 else none).mergeSort

/-! ## Levels of a directory -/

/-- The names in a directory, each with whether the platform's classes are there. A directory that
cannot be listed has none. -/
def listing (tree : FileTree) (directory : Path) : List (String × Bool) :=
  match tree.list directory with
  | .ok names =>
    names.map fun name => (name, tree.isFile ((directory.join name).join "android.jar"))
  | .error _ => []

/-- The installed levels, in ascending order. -/
def installedLevels (tree : FileTree) (directory : Path) : List Nat :=
  levelsOf (listing tree directory)

/-- The highest installed level. -/
def apiLevel? (tree : FileTree) (directory : Path) : Option Nat :=
  (installedLevels tree directory).getLast?

end AppBoundary.Platform
