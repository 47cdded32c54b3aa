import ArenaLisp.Library.Builtin
import ArenaLisp.Ordered

/-!
# Scopes in an arena

Names are bound in scopes.  All scopes live in one arena and refer to their parent by index; a
handle is the index of a scope.  Looking a name up walks from a scope to its parents, innermost
first; binding a name touches one scope only.

A scope is released by cutting the arena back to it, which also releases every scope made after
it.  A handle on a released scope is dead until a new scope takes its index.

## Main definitions

- `Binding`: what a name stands for.
- `Scope`, `Arena`, `Handle`.
- `Arena.child`, `Arena.release`, `Arena.capture`, `Arena.isCaptured`: the life of a scope.
- `Arena.chain`: the scopes visible from a handle.
- `Arena.lookup`, `Arena.names`, `Arena.localNames`: the names visible from a handle.
- `Arena.insert`, `Arena.define`: binding a name.
-/

namespace ArenaLisp

/-- What a name stands for: a builtin, which has no value of its own, or a constant. -/
inductive Binding where
  | builtin (b : Builtin)
  | constant (value : Value)

/-- How a binding is shown. -/
def Binding.describe : Binding → String
  | .builtin b => "Builtin(" ++ Text.quoted b.name ++ ")"
  | .constant value => "Constant(" ++ value.describe ++ ")"

/-- The index of a scope in its arena. -/
abbrev Handle := Nat

/-- One link of a scope chain: its bindings in the order in which their names were first bound, the
    index of its parent, and whether a lambda holds on to it. -/
structure Scope where
  bindings : Ordered String Binding := []
  parent : Option Handle := none
  captured : Bool := false

namespace Scope

/-- The names of a scope, in the order in which they were first bound. -/
def names (s : Scope) : List String := Ordered.keys s.bindings

/-- The binding of a name in this scope. -/
def get? (s : Scope) (name : String) : Option Binding := Ordered.get? name s.bindings

/-- A scope with a name bound anew. -/
def insert (s : Scope) (name : String) (binding : Binding) : Scope :=
  { s with bindings := Ordered.put name binding s.bindings }

end Scope

/-- The scopes of a run, parents by index. -/
structure Arena where
  scopes : Array Scope

namespace Arena

/-- An arena with an empty root scope. -/
def fresh : Arena := ⟨#[{}]⟩

/-- The number of scopes. -/
def size (a : Arena) : Nat := a.scopes.size

/-- The scope behind a handle, unless it has been released. -/
def scope? (a : Arena) (h : Handle) : Option Scope := a.scopes[h]?

/-- The arena with a new scope, whose parent is `h` and whose handle is the old size. -/
def child (a : Arena) (h : Handle) : Arena := ⟨a.scopes.push { parent := some h }⟩

/-- The arena without the scope of a handle and every scope made after it. -/
def release (a : Arena) (h : Handle) : Arena := ⟨a.scopes.take h⟩

/-- The arena with the scope of a handle changed. -/
def update (a : Arena) (h : Handle) (f : Scope → Scope) : Arena := ⟨a.scopes.modify h f⟩

/-- The arena with the scope of a handle marked as held by a lambda. -/
def capture (a : Arena) (h : Handle) : Arena := a.update h fun s => { s with captured := true }

/-- Whether a lambda holds on to the scope of a handle or to a scope made after it. -/
def isCaptured (a : Arena) (h : Handle) : Bool :=
  (a.scopes.toList.drop h).any (·.captured)

/-- The arena with a name bound in the scope of a handle. -/
def insert (a : Arena) (h : Handle) (name : String) (binding : Binding) : Arena :=
  a.update h (·.insert name binding)

/-- The arena with a name bound to a value in the scope of a handle. -/
def define (a : Arena) (h : Handle) (name : String) (value : Value) : Arena :=
  a.insert h name (.constant value)

/-- The scopes on the way from a handle to the root, innermost first, of at most `steps` scopes.  A
    released scope ends the way and shows as `none`. -/
def chainFrom (a : Arena) : Nat → Handle → List (Option Scope)
  | 0, _ => []
  | steps + 1, h =>
    match a.scope? h with
    | none => [none]
    | some s =>
      some s :: match s.parent with
        | none => []
        | some parent => chainFrom a steps parent

/-- The scopes visible from a handle, innermost first.  A way that meets no scope twice has at most
    as many scopes as the arena, and possibly a released one at its end. -/
def chain (a : Arena) (h : Handle) : List (Option Scope) := a.chainFrom (a.size + 1) h

/-- The first binding of a name on a way; the way must not end in a released scope before that. -/
def lookupAlong (name : String) : List (Option Scope) → Except Stray (Option Binding)
  | [] => .ok none
  | none :: _ => .error .releasedScope
  | some s :: rest =>
    match s.get? name with
    | some binding => .ok (some binding)
    | none => lookupAlong name rest

/-- The innermost binding of a name that is visible from a handle. -/
def lookup (a : Arena) (h : Handle) (name : String) : Except Stray (Option Binding) :=
  lookupAlong name (a.chain h)

/-- All names on a way, one scope after the other. -/
def namesAlong : List (Option Scope) → Except Stray (List String)
  | [] => .ok []
  | none :: _ => .error .releasedScope
  | some s :: rest => (namesAlong rest).map (s.names ++ ·)

/-- The names visible from a handle: local ones first, then inherited ones, hidden ones included. -/
def names (a : Arena) (h : Handle) : Except Stray (List String) := namesAlong (a.chain h)

/-- The names bound in the scope of a handle. -/
def localNames (a : Arena) (h : Handle) : Except Stray (List String) :=
  match a.scope? h with
  | some s => .ok s.names
  | none => .error .releasedScope

/-- How a handle is shown. -/
def describe (a : Arena) (h : Handle) : String :=
  "Environment(#" ++ toString h ++ ", " ++ toString a.size ++ " scope(s))"

end Arena

end ArenaLisp
