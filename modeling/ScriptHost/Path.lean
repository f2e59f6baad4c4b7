/-
Paths as texts: joining, the directory part, the absolute form, and the tidy form without empty and
single-dot components. None of them looks at the file tree.
-/
import ScriptHost.Text.Basic

namespace ScriptHost.Path

def slash : CodePoint := CodePoint.ofChar '/'

def isAbsolute (p : Text) : Bool := p.head? = some slash

/-- `p` below the directory `dir`; an absolute `p` stands for itself. -/
def join (dir p : Text) : Text :=
  if isAbsolute p then p
  else if dir.isEmpty || dir.getLast? = some slash then dir ++ p
  else dir ++ "/" ++ p

/-- The slashes a path begins with that count: none, one, or exactly two. -/
def rootOf (p : Text) : Text :=
  match (p.takeWhile (· = slash)).length with
  | 0 => []
  | 2 => "//"
  | _ => "/"

/-- Components without empty and single-dot ones, `..` taking back the component before it; at the
root it is dropped. `kept` is in reverse. -/
def collapse (rooted : Bool) : List Text → List Text → List Text
  | kept, [] => kept.reverse
  | kept, c :: rest =>
    if c.isEmpty || c = Text.ofString "." then collapse rooted kept rest
    else if c = Text.ofString ".." then
      match kept with
      | [] => collapse rooted (if rooted then [] else [c]) rest
      | k :: before =>
        if k = Text.ofString ".." then collapse rooted (c :: kept) rest
        else collapse rooted before rest
    else collapse rooted (c :: kept) rest

/-- The path with its components collapsed. -/
def normal (p : Text) : Text :=
  let root := rootOf p
  let whole := root ++ Text.join "/" (collapse (!root.isEmpty) [] (Text.split slash p))
  if whole.isEmpty then "." else whole

/-- The absolute form of a path, seen from a working directory. -/
def absolute (working p : Text) : Text := normal (join working p)

/-- The path up to its last slash, without the slashes at its end. -/
def directory (p : Text) : Text :=
  let head := (p.reverse.dropWhile (· ≠ slash)).reverse
  if head.all (· = slash) then head else (head.reverse.dropWhile (· = slash)).reverse

/-- The path without empty and single-dot components; `..` stays. -/
def tidy (p : Text) : Text :=
  let parts := (Text.split slash p).filter fun c => !c.isEmpty && c ≠ Text.ofString "."
  let whole := rootOf p ++ Text.join "/" parts
  if whole.isEmpty then "." else whole

end ScriptHost.Path
