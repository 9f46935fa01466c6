import Wab.Dictionary
import Wab.Files

/-!
# Where archives come from

The surroundings of a run: the file tree, the folders that a tilde stands for, and the pages that a
request for their address is answered with.

* **`Page`**: an answer to a request.
* **`World`**: the surroundings.
* **`World.expand`**: a path with the tilde at its beginning replaced.
-/

namespace Wab

/-- The answer to the request for a page. -/
structure Page where
  /-- The status of the answer. -/
  status : Nat
  /-- The status in words. -/
  phrase : Text
  /-- The content. -/
  content : Bytes
  deriving DecidableEq, Repr

/-- The surroundings of a run. -/
structure World where
  /-- The file tree. -/
  files : Files := {}
  /-- The path of the home folder. -/
  home : Text := ['/']
  /-- The paths of the home folders of users by name. -/
  homes : Dictionary Text := []
  /-- The pages by address. -/
  pages : Dictionary Page := []
  deriving DecidableEq, Repr

namespace World

/-- The path of the home folder of a user, of whom no name is given if it is the own one. -/
def home? (w : World) (user : Text) : Option Text :=
  if user.isEmpty then some w.home else Dictionary.get? w.homes user

/-- The path in which a tilde at the beginning, with the name of a user or without one, stands for a
home folder. The slashes at the end of the home folder do not count. -/
def expand (w : World) (path : Text) : Text :=
  match path with
  | '~' :: rest =>
    match w.home? (rest.takeWhile (· ≠ .scalar '/')) with
    | some home =>
      let home := (home.reverse.dropWhile (· = .scalar '/')).reverse
      let s := home ++ rest.dropWhile (· ≠ .scalar '/')
      if s.isEmpty then ['/'] else s
    | none => path
  | _ => path

/-- The file at a path in which a tilde stands for the home folder. -/
def readFile (w : World) (path : Text) : Except AccessError Bytes := w.files.read (w.expand path)

example : expand { home := "/h/" } "~/a.war" = "/h/a.war" := by decide

example : expand { homes := [("u", "/h/u")] } "~u/a.war"
    = "/h/u/a.war" := by
  decide

end World

end Wab
