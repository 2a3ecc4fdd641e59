import CallByNeed.Language.Given
import CallByNeed.Language.Scope

set_option autoImplicit false
set_option relaxedAutoImplicit false

/-!
Scopes worked on by hand: cells with given values or with an expression that is not evaluated, and
snapshots with names.
-/

namespace CallByNeed.Language

/-- Scopes with their cells and named snapshots. A cell without a value is deferred. -/
structure Workspace where
  scopes : Scopes := {}
  cells : Array (Option Given) := #[]
  named : List (String × Nat) := []
deriving Inhabited

inductive WorkspaceFault where
  | scope (fault : ScopeFault)
  /-- A cell to be overwritten is not bound. -/
  | unbound
  | unknownSnapshot (name : String)
deriving Repr

def WorkspaceFault.message : WorkspaceFault → String
  | .scope fault => fault.message
  | .unbound => "'NoneType' object has no attribute 'set_value_type'"
  | .unknownSnapshot name => Text.quoted name

namespace Workspace

abbrev Result (α : Type) := Except WorkspaceFault α × Workspace

def onScopes {α : Type} (w : Workspace) (f : Scopes → Scopes.Result α) : Result α :=
  match f w.scopes with
  | (.ok a, scopes) => (.ok a, { w with scopes := scopes })
  | (.error fault, scopes) => (.error (.scope fault), { w with scopes := scopes })

def newCell (w : Workspace) (content : Option Given) : CellId × Workspace :=
  (w.cells.size, { w with cells := w.cells.push content })

def create (w : Workspace) (name : String) (content : Option Given) : Result Bool :=
  let (cell, w) := w.newCell content
  w.onScopes fun s => s.create name cell

def set (w : Workspace) (name : String) (content : Option Given) : Result Bool :=
  let (cell, w) := w.newCell content
  w.onScopes fun s => s.set name cell

def content (w : Workspace) (cell : CellId) : Option Given :=
  (w.cells[cell]?).getD none

def get? (w : Workspace) (name : String) : Result (Option CellId) :=
  w.onScopes fun s => (s.get? name, s)

def overwrite (w : Workspace) (name : String) (value : Given) : Result Unit :=
  match w.get? name with
  | (.error fault, w) => (.error fault, w)
  | (.ok none, w) => (.error .unbound, w)
  | (.ok (some cell), w) =>
    (.ok (), { w with cells := w.cells.setIfInBounds cell (some value) })

def snapshot (w : Workspace) (name : String) (pick : Scopes → Env) : Workspace :=
  let (i, scopes) := w.scopes.snapshot (pick w.scopes)
  { w with scopes := scopes, named := (name, i) :: w.named }

def use (w : Workspace) (name : String) : Result Unit :=
  match w.named.lookup name with
  | none => (.error (.unknownSnapshot name), w)
  | some i => (.ok (), { w with scopes := { w.scopes with focus := some i } })

def useHome (w : Workspace) : Workspace :=
  { w with scopes := { w.scopes with focus := none } }

def blockContents (w : Workspace) (block : Block) : List (String × Option Given) :=
  (block.map fun (name, cell) => (name, w.content cell)).mergeSort fun a b => a.1 ≤ b.1

/-- An environment with the contents of its cells, the outermost frame and block first. -/
def contents (w : Workspace) (env : Env) : List (List (List (String × Option Given))) :=
  env.reverse.map fun frame => frame.reverse.map w.blockContents

end Workspace

end CallByNeed.Language
