import SourceTally.Error
import SourceTally.FileTree.Basic

/- Real paths: absolute, without links and dots. A part that does not exist is kept as it is. A link
   that leads back to itself is kept too, with the rest of the path after it; a path that still
   passes such a link is refused. -/
namespace SourceTally.FileTree

/-- How far a path is known to be free of links: from the root, or from the working folder and then
    perhaps first upwards. -/
structure Spot where
  fromRoot : Bool
  names : List String
  deriving DecidableEq, Repr

def Spot.up (s : Spot) : Spot :=
  if s.fromRoot then { s with names := s.names.dropLast }
  else
    match s.names.getLast? with
    | none => { s with names := [".."] }
    | some last =>
      if last = ".." then { s with names := s.names ++ [".."] }
      else { s with names := s.names.dropLast }

def literalStep (place : Location) (part : String) : Location :=
  if part = "" || part = "." then place
  else if part = ".." then place.dropLast
  else place ++ [part]

def Spot.location (here : Location) (s : Spot) : Location :=
  s.names.foldl literalStep (if s.fromRoot then [] else here)

/-- Replaces links by what they lead to, part by part. `active` holds the links that are being
    followed. The answer tells whether the way was free of loops, and how far it led. -/
def chase (t : FileTree) (fuel : Nat) (active : List Spot) (spot : Spot) (parts : List String) :
    Bool × Spot :=
  match parts with
  | [] => (true, spot)
  | part :: rest =>
    if part = "" || part = "." then chase t fuel active spot rest
    else if part = ".." then chase t fuel active spot.up rest
    else
      let next := { spot with names := spot.names ++ [part] }
      match t.root.at? (next.location t.here) with
      | some (.link target) =>
        let stopped := { next with names := next.names ++ rest }
        if active.contains next then (false, stopped)
        else
          match fuel with
          | 0 => (false, stopped)
          | less + 1 =>
            match chase t less (next :: active) (if startsAtRoot target then ⟨true, []⟩ else spot)
                (pathParts target) with
            | (true, reached) => chase t (less + 1) active reached rest
            | (false, reached) => (false, { reached with names := reached.names ++ rest })
      | _ => chase t fuel active next rest
termination_by (fuel, parts.length)

/-- A link is spelled in at most as many ways as there are folders above the working folder, and in
    one more from the root. -/
def chaseFuel (t : FileTree) : Nat := t.root.linkCount * (t.here.length + 2) + 1

def realLocation (t : FileTree) (p : Path) : Location :=
  let start : Spot := ⟨p.anchor ≠ .relative, []⟩
  (chase t t.chaseFuel [] start p.names).2.location t.here

def resolve (t : FileTree) (p : Path) : Except Error Path :=
  let real := Path.absolute (t.realLocation p)
  match t.find real.text with
  | .error .tooManyLinks => .error (.linkLoop real.text)
  | _ => .ok real

end SourceTally.FileTree
