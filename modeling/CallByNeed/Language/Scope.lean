set_option autoImplicit false
set_option relaxedAutoImplicit false

/-!
Scopes. An environment is a stack of function frames, each a stack of blocks, each a map from names
to cells. The running program has a home environment, and while a deferred expression is evaluated
it looks names up in the snapshot that was taken with the expression. Every change is then made in
both, in the snapshot first, except that a new frame is opened in the home environment first.
-/

namespace CallByNeed.Language

abbrev CellId := Nat

/-- A block: names bound to cells, or to what stands for them. -/
abbrev Block (α : Type := CellId) := List (String × α)

/-- The blocks of a running function, the innermost first. -/
abbrev Frame (α : Type := CellId) := List (Block α)

/-- The frames of the running functions, the innermost first. -/
abbrev Env := List Frame

def Block.insert {α : Type} (name : String) (cell : α) : Block α → Block α
  | [] => [(name, cell)]
  | (other, old) :: rest =>
    if other = name then (name, cell) :: rest else (other, old) :: Block.insert name cell rest

def Block.binds {α : Type} (block : Block α) (name : String) : Bool :=
  block.any fun binding => binding.1 = name

def Frame.find? {α : Type} : Frame α → String → Option α
  | [], _ => none
  | block :: blocks, name =>
    match block.lookup name with
    | some cell => some cell
    | none => Frame.find? blocks name

/-- Binds a name anew in the innermost block that binds it, if there is one. -/
def Frame.rebind? {α : Type} (name : String) (cell : α) : Frame α → Option (Frame α)
  | [] => none
  | block :: blocks =>
    if block.binds name then some (block.insert name cell :: blocks)
    else (Frame.rebind? name cell blocks).map (block :: ·)

inductive ScopeFault where
  /-- There is no frame or block to look at. -/
  | outOfRange
  /-- There is no frame or block to remove. -/
  | emptyPop
deriving DecidableEq, Repr, Inhabited

def ScopeFault.message : ScopeFault → String
  | .outOfRange => "list index out of range"
  | .emptyPop => "pop from empty list"

/-- The home environment, the snapshots taken so far, and the one that names are looked up in, if it
is not the home environment. -/
structure Scopes where
  home : Env := []
  snapshots : Array Env := #[]
  focus : Option Nat := none
deriving Repr, Inhabited

namespace Scopes

def current (s : Scopes) : Env :=
  match s.focus with
  | none => s.home
  | some i => (s.snapshots[i]?).getD []

def setCurrent (s : Scopes) (env : Env) : Scopes :=
  match s.focus with
  | none => { s with home := env }
  | some i => { s with snapshots := s.snapshots.setIfInBounds i env }

def snapshot (s : Scopes) (env : Env) : Nat × Scopes :=
  (s.snapshots.size, { s with snapshots := s.snapshots.push env })

abbrev Result (α : Type) := Except ScopeFault α × Scopes

def get? (s : Scopes) (name : String) : Except ScopeFault (Option CellId) :=
  match s.current with
  | [] => .error .outOfRange
  | frame :: _ => .ok (frame.find? name)

/-- Applies a change of an environment to the current one, and then to the home environment if that
is another one. -/
def both (s : Scopes) (change : Env → Except ScopeFault Env) : Result Unit :=
  match change s.current with
  | .error fault => (.error fault, s)
  | .ok env =>
    let s := s.setCurrent env
    if s.focus.isNone then (.ok (), s)
    else match change s.home with
      | .error fault => (.error fault, s)
      | .ok env => (.ok (), { s with home := env })

def pushFrame (s : Scopes) : Scopes :=
  let s := { s with home := [[]] :: s.home }
  if s.focus.isNone then s else s.setCurrent ([[]] :: s.current)

def pushBlock (s : Scopes) : Result Unit :=
  s.both fun
    | [] => .error .outOfRange
    | frame :: frames => .ok (([] :: frame) :: frames)

def popBlock (s : Scopes) : Result Unit :=
  s.both fun
    | [] => .error .outOfRange
    | [] :: _ => .error .emptyPop
    | (_ :: blocks) :: frames => .ok (blocks :: frames)

def popFrame (s : Scopes) : Result Unit :=
  s.both fun
    | [] => .error .emptyPop
    | _ :: frames => .ok frames

/-- Binds a name anew where it is bound, and says whether it is bound in both environments. -/
def set (s : Scopes) (name : String) (cell : CellId) : Result Bool :=
  match s.current with
  | [] => (.error .outOfRange, s)
  | frame :: frames =>
    match frame.rebind? name cell with
    | none => (.ok false, s)
    | some frame =>
      let s := s.setCurrent (frame :: frames)
      if s.focus.isNone then (.ok true, s)
      else match s.home with
        | [] => (.error .outOfRange, s)
        | frame :: frames =>
          match frame.rebind? name cell with
          | none => (.ok false, s)
          | some frame => (.ok true, { s with home := frame :: frames })

/-- Binds a new name in the innermost block, and says whether it was free there in both
environments. -/
def create (s : Scopes) (name : String) (cell : CellId) : Result Bool :=
  match s.current with
  | [] => (.error .outOfRange, s)
  | frame :: frames =>
    if s.focus.isNone then
      match frame with
      | [] => (.error .outOfRange, s)
      | block :: blocks =>
        if block.binds name then (.ok false, s)
        else (.ok true, { s with home := (block.insert name cell :: blocks) :: frames })
    else match s.home with
      | [] => (.error .outOfRange, s)
      | homeFrame :: homeFrames =>
        match frame, homeFrame with
        | [], _ => (.error .outOfRange, s)
        | block :: _, [] =>
          if block.binds name then (.ok false, s) else (.error .outOfRange, s)
        | block :: blocks, homeBlock :: homeBlocks =>
          if block.binds name || homeBlock.binds name then (.ok false, s)
          else
            let s := s.setCurrent ((block.insert name cell :: blocks) :: frames)
            (.ok true,
              { s with home := (homeBlock.insert name cell :: homeBlocks) :: homeFrames })

end Scopes

end CallByNeed.Language
