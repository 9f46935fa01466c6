import Wab.Uri.Reference

/-!
# Resolving references

A reference that is relative is read from the place where it stands: its path replaces the last
segment of the path there, and its dot segments are resolved, where two dots never lead above the
root.

* **`Uri.resolveDots`**: segments with their dot segments resolved.
* **`Uri.join base ref`**: the reference `ref` seen from `base`.
-/

namespace Wab.Uri

/-- One more segment after resolved ones, the last of which comes first. -/
def pushSegment (resolved : List Text) (segment : Text) : List Text :=
  if segment = (['.', '.'] : Text) then resolved.tail
  else if segment = (['.'] : Text) then resolved
  else segment :: resolved

/-- The segment is one or two dots. -/
def isDots (segment : Text) : Bool := segment == (['.'] : Text) || segment == (['.', '.'] : Text)

/-- Segments with their dot segments resolved; dots at the end leave an empty segment there. -/
def resolveDots (segments : List Text) : List Text :=
  let resolved := (segments.foldl pushSegment []).reverse
  if isDots (segments.getLast?.getD []) then resolved ++ [[]] else resolved

/-- The segments without empty ones between the first and the last. -/
def dropEmptyMiddle : List Text → List Text
  | [] => []
  | [only] => [only]
  | first :: rest => first :: (rest.dropLast.filter fun s => !s.isEmpty) ++ rest.getLast?.toList

/-- The segments of a path that other segments can follow: all but a last one that is not empty. -/
def folder (path : Text) : List Text :=
  let segments := path.splitOn (.scalar '/')
  if segments.getLast? = some [] then segments else segments.dropLast

/-- The path of a reference seen from a path. -/
def joinPaths (base path : Text) : Text :=
  let segments :=
    if path.head? = some (.scalar '/') then path.splitOn (.scalar '/')
    else dropEmptyMiddle (folder base ++ path.splitOn (.scalar '/'))
  let joined : Text := List.intercalate ['/'] (resolveDots segments)
  if joined.isEmpty then ['/'] else joined

/-- The parts of a reference seen from the parts of its place, both of one scheme. -/
def joinParts (base ref : Uri) : Uri :=
  if !ref.host.isEmpty && hostSchemes.contains ref.scheme then ref
  else
    let host := if hostSchemes.contains ref.scheme then base.host else ref.host
    if ref.path.isEmpty && ref.params.isEmpty then
      { ref with
        host := host
        path := base.path
        params := base.params
        query := if ref.query.isEmpty then base.query else ref.query }
    else { ref with host := host, path := joinPaths base.path ref.path }

/-- The reference `ref` that stands in the document `base`. -/
def join (base ref : Text) : Except Error Text :=
  if base.isEmpty then .ok ref
  else if ref.isEmpty then .ok base
  else do
    let b ← split [] base
    let r ← split b.scheme ref
    -- A reference of another scheme, or of one that knows no relative ones, stays as it is written.
    if r.scheme ≠ b.scheme || !relativeSchemes.contains r.scheme then return ref
    return (joinParts b r).text

/-! ## Examples -/

example : (join "WEB-INF/lib/a.jar" "../b.jar").toOption
    = some ↑"WEB-INF/b.jar" := by
  decide +kernel

example : (join "WEB-INF/lib/a.jar" "../../..").toOption = some ↑"/" := by
  decide +kernel

end Wab.Uri
