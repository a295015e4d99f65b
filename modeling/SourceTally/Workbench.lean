import SourceTally.Catalogue
import SourceTally.Counter.Process

/- A place to work with one counter and with parsers under names of their own. A parser may be named,
   registered and the default at once, and a change of it shows in all these places. -/
namespace SourceTally

structure Workbench where
  /-- The first serial number that no parser has. -/
  nextSerial : Nat := 0
  named : List (String × Parser) := []
  counter : Option Counter := none

namespace Workbench

def parser? (w : Workbench) (name : String) : Option Parser := Assoc.get? w.named name

def nameOf? (w : Workbench) (p : Parser) : Option String :=
  (w.named.find? (·.2.serial = p.serial)).map (·.1)

def makeParser (w : Workbench) (handle : String) (scanner : Scanner) (id name extensions : Value) :
    Except Error (Parser × Workbench) := do
  let p ← Parser.make w.nextSerial scanner id name extensions
  return (p, { w with nextSerial := w.nextSerial + 1, named := Assoc.insert w.named handle p })

def updateParser (w : Workbench) (changed : Parser) : Workbench :=
  { w with
    named := w.named.map fun entry =>
      if entry.2.serial = changed.serial then (entry.1, changed) else entry
    counter := w.counter.map (·.updateParser changed) }

def newCounter (w : Workbench) (options : Options.Request) (parsers : Value) :
    Except Error Workbench := do
  return { w with counter := some (← Counter.make options parsers) }

/-- Does some work on the counter, which may leave it changed even when it fails. -/
def onCounter {α : Type} (w : Workbench) (work : Counter → Except Error α × Counter) :
    Except Error α × Workbench :=
  match w.counter with
  | none => (.error .noCounter, w)
  | some c =>
    let (result, c) := work c
    (result, { w with counter := some c })

def tryOnCounter {α : Type} (w : Workbench) (work : Counter → Except Error (α × Counter)) :
    Except Error α × Workbench :=
  w.onCounter fun c =>
    match work c with
    | .error e => (.error e, c)
    | .ok (result, c) => (.ok result, c)

def askCounter {α : Type} (w : Workbench) (question : Counter → Except Error α) :
    Except Error α × Workbench :=
  w.onCounter fun c => (question c, c)

def onParser {α : Type} (w : Workbench) (handle : String)
    (work : Parser → Except Error (α × Parser)) : Except Error α × Workbench :=
  match w.counter, w.parser? handle with
  | some _, some p =>
    match work p with
    | .ok (result, changed) => (.ok result, w.updateParser changed)
    | .error e => (.error e, w)
  | _, _ => (.error .noCounter, w)

def addExtension (w : Workbench) (handle : String) (extension : Value) :
    Except Error Bool × Workbench :=
  w.onParser handle (·.addExtension extension)

def removeExtension (w : Workbench) (handle : String) (extension : Value) :
    Except Error Bool × Workbench :=
  w.onParser handle fun p => .ok (p.removeExtension extension)

def register (w : Workbench) (requested defaultId allowUnknowns : Value) :
    Except Error (List Parser) × Workbench :=
  let (added, w') := w.onCounter fun c =>
    let registration := Catalogue.register c w.nextSerial requested defaultId allowUnknowns
    (registration.added, registration.counter)
  (added, { w' with nextSerial := w.nextSerial + Catalogue.serialsUsed requested })

end Workbench

end SourceTally
