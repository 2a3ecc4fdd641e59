import Std.Data.HashMap

set_option autoImplicit false
set_option relaxedAutoImplicit false

/-!
Unions of sets along a relation: the set of a node is its own set and the sets of all nodes that it
is related to, directly or through others. Nodes that are related to each other share one set.

Sets live in a pool and a node holds a place in it. A second sweep may start from the sets of a
first one: nodes that came to share a set then go on sharing it, and what is added for one of them is
added for all.
-/

namespace CallByNeed.Grammar

variable {α : Type} [BEq α] [Hashable α]

/-- Sets of symbols in a pool, and the place of each node's set. -/
structure Pool (α : Type) [BEq α] [Hashable α] where
  sets : Array (List String) := #[]
  places : Std.HashMap α Nat := {}

def Pool.place (p : Pool α) (node : α) : Nat :=
  (p.places.get? node).getD 0

def Pool.get (p : Pool α) (node : α) : List String :=
  match p.places.get? node with
  | none => []
  | some place => (p.sets[place]?).getD []

/-- How far the visit of a node has come. -/
inductive Height where
  | unseen
  /-- The node is on the stack; the number is the lowest place that it leads to. -/
  | pending (place : Nat)
  | done
deriving DecidableEq, Inhabited

def Height.min : Height → Height → Height
  | .pending a, .pending b => .pending (Nat.min a b)
  | .pending a, _ => .pending a
  | _, h => h

structure Sweep (α : Type) [BEq α] [Hashable α] where
  pool : Pool α
  /-- The place of each node's set in the result. -/
  placed : Std.HashMap α Nat := {}
  heights : Std.HashMap α Height := {}
  /-- The nodes that are being visited, the last one first. -/
  stack : List α := []

def Sweep.height (s : Sweep α) (node : α) : Height :=
  (s.heights.get? node).getD .unseen

def Sweep.absorb (s : Sweep α) (node other : α) : Sweep α :=
  match s.placed.get? node, s.placed.get? other with
  | some place, some source =>
    let more := (s.pool.sets[source]?).getD []
    { s with pool := { s.pool with
        sets := s.pool.sets.modify place fun set => more.foldl
          (fun set a => if set.contains a then set else set ++ [a]) set } }
  | _, _ => s

/-- Takes the stack down to a node, all nodes above which get its set. -/
def Sweep.close (s : Sweep α) (node : α) (place : Nat) : List α → Sweep α
  | [] => { s with stack := [] }
  | top :: rest =>
    let s := { s with
      heights := s.heights.insert top .done
      placed := s.placed.insert top place }
    if top == node then { s with stack := rest } else s.close node place rest

/-- Visits a node and those it is related to. No node is visited twice, so their number is fuel
enough. -/
def Sweep.visit (related : α → List α) : Nat → α → Sweep α → Sweep α
  | 0, _, s => s
  | fuel + 1, node, s =>
    let depth := s.stack.length + 1
    let place := s.pool.place node
    let s := { s with
      stack := node :: s.stack
      heights := s.heights.insert node (.pending depth)
      placed := s.placed.insert node place }
    let s := (related node).foldl (fun s other =>
      let s := if s.height other = .unseen then Sweep.visit related fuel other s else s
      let s := { s with heights := s.heights.insert node ((s.height node).min (s.height other)) }
      s.absorb node other) s
    if s.height node = .pending depth then s.close node place s.stack else s

def unions (nodes : List α) (related : α → List α) (pool : Pool α) : Pool α :=
  let s := nodes.foldl (fun s node =>
    if s.height node = .unseen then Sweep.visit related (nodes.length + 1) node s else s)
    ({ pool := pool } : Sweep α)
  { s.pool with places := s.placed }

def Pool.ofSets (nodes : List α) (set : α → List String) : Pool α :=
  nodes.foldl (fun p node =>
    { sets := p.sets.push (set node), places := p.places.insert node p.sets.size }) {}

end CallByNeed.Grammar
