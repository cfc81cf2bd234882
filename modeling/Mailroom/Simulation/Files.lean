import Mailroom.Config.Load
/-!
  Mailroom.Simulation.Files
  ────────────────────────────────
  **A WORKING FOLDER WITH SOME FILES.**
-/
namespace Mailroom.Simulation

open Mailroom.Config

/-- The files of a working folder by their paths. -/
abbrev Files := List (String × String)

namespace Files

/-- Whether a path starts with another one. -/
def leadsTo : List (List Char) → List (List Char) → Bool
  | [], _ => true
  | a :: as, b :: bs => a == b && leadsTo as bs
  | _ :: _, [] => false

/-- What is at a place in the working folder. -/
def entryAt (files : Files) (place : List (List Char)) : Found :=
  match files.find? fun f => pathParts f.1 == place with
  | some f => .file f.2
  | none =>
    if place.isEmpty || files.any (fun f => leadsTo place (pathParts f.1)) then .folder else .nothing

/-- Follows the parts of a path from a place; two full stops lead back. -/
def follow (files : Files) (place : List (List Char)) : List (List Char) → Found
  | [] => entryAt files place
  | part :: parts =>
    match entryAt files place with
    | .folder =>
      if part == ['.', '.'] then follow files place.dropLast parts
      else follow files (place ++ [part]) parts
    | _ => .nothing

/-- What is at a path. -/
def find (files : Files) (path : String) : Found :=
  if path.toList.head? == some '/' then .nothing else follow files [] (pathParts path)

end Files

end Mailroom.Simulation
