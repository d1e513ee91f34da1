import PageBoot.Dict

/-!
The files that a run can read. Paths are absolute once they are resolved against the working
directory.
-/

namespace PageBoot

structure Disk where
  cwd : Text := "/"
  home : Text := "/"
  /-- Contents by absolute path. -/
  files : Dict Text := []

namespace Disk

def slash : UInt8 := 47

/-- Takes a step of a path, from the parts before it, the last one first. -/
def step (parts : List Text) (part : Text) : List Text :=
  if part.isEmpty || part == Text.ofString "." then parts
  else if part == Text.ofString ".." then parts.drop 1
  else part :: parts

/-- An absolute path without empty parts and without dots. -/
def normal (path : Text) : Text :=
  "/" ++ Text.join "/" ((Text.splitOn slash path).foldl step []).reverse

/-- A path seen from a directory. -/
def resolve (dir path : Text) : Text :=
  if path.head? == some slash then normal path else normal (dir ++ "/" ++ path)

/-- The contents of a file, `none` when it is not there. -/
def read? (d : Disk) (path : Text) : Option Text :=
  if path.isEmpty then none else d.files.get? (resolve d.cwd path)

def put (d : Disk) (path contents : Text) : Disk :=
  { d with files := d.files.set (resolve d.cwd path) contents }

/-- Whether a path leads to a directory: one that is known, or one on the way to a file. -/
def isDirectory (d : Disk) (path : Text) : Bool :=
  let whole := resolve d.cwd path
  !path.isEmpty &&
    (whole == Text.ofString "/" || (d.cwd :: d.home :: d.files.keys).any fun known =>
      whole == d.cwd || whole == d.home || (whole ++ "/").isPrefixOf known)

/-- The last part of a path. -/
def baseName (path : Text) : Text :=
  match (Text.splitOn slash path).filter (!·.isEmpty) |>.getLast? with
  | some part => part
  | none => if path.isEmpty then "." else "/"

end Disk

end PageBoot
