import ArenaLisp.Proofs.Builtins
import ArenaLisp.Proofs.Revisions

/-!
# What was printed before does not matter

Scripts print, but they cannot look at what has been printed.  A run that starts after some text was
printed goes the same way as one that starts with nothing printed, and its own text comes behind the
other.  Nor does anything a script does change the variables of the environment or the platform.

* `Run.Oblivious` — computations of that kind.
* `Revision.printed` — a text that was printed before, as a change of the world.
* `Coupling.printed` — a run beside itself, with a text printed before.
* **`oblivious_evaluateWith`** — evaluation is of that kind.
-/

namespace ArenaLisp

/-- A computation that does not look at what was printed before, and that leaves the variables and
the platform alone. -/
structure Run.Oblivious (x : Run α) : Prop where
  printed : ∀ (w : World) (text : String), x (w.printedBefore text) = printedBefore text (x w)
  sameHost : ∀ w : World, w.SameHost (x.after w)

/-- A run beside itself, with a text printed before, on the host of a world. -/
def Coupling.printed (text : String) (host : World) : Coupling where
  Stage := Unit
  worlds _ w w' := w' = w.printedBefore text ∧ host.SameHost w
  handles _ h h' := h' = h
  values _ v v' := v' = v
  faults e e' := e' = e
  passes _ _ _ _ := True
  passes_refl _ _ _ := trivial
  passes_trans _ _ := trivial
  handles_passes _ h := h
  values_passes _ h := h

/-- What leaves the arena alone is of that kind. -/
lemma Yields.isOblivious {Q : α → Prop} {x : Run α} (h : Yields Q x) : x.Oblivious where
  printed := h.oblivious
  sameHost w := by
    have hw := h.comes w
    unfold Run.after
    generalize x w = r at hw ⊢
    cases hw with
    | ok hsettled _ => exact hsettled.toSameHost
    | error hsettled _ => exact hsettled.toSameHost

lemma World.sameHost_opened (w : World) (h : Handle) : w.SameHost (w.opened h) :=
  ((World.SameHost.refl w).withArena (w.arena.child h)).trans (World.sameHost_trace _ _ _)

/-- A text that was printed before is a change of the world. -/
def Revision.printed (text : String) (host : World) : Revision where
  change w := w.printedBefore text
  holds w := host.SameHost w

lemma changed_printedBefore (text : String) (r : EStateM.Result Fault World α) :
    changed (·.printedBefore text) r = printedBefore text r := by
  cases r <;> rfl

lemma Run.Oblivious.respected {x : Run α} (hx : x.Oblivious) (text : String) (host : World) :
    (Revision.printed text host).Respected x := by
  intro w hw
  refine ⟨?_, World.SameHost.trans hw (hx.sameHost w)⟩
  exact (hx.printed w text).trans (changed_printedBefore text _).symm

lemma Run.oblivious_of_respected {x : Run α}
    (h : ∀ text host, (Revision.printed text host).Respected x) : x.Oblivious where
  printed w text := ((h text w w (.refl w)).1).trans (changed_printedBefore text _)
  sameHost w := (h "" w w (.refl w)).2

theorem Revision.printed_laws (s : Settings) (text : String) (host : World) :
    (Revision.printed text host).Laws s where
  arena _ _ := rfl
  found _ _ := trivial
  define _ _ _ hw := World.SameHost.withArena hw _
  capture _ hw := World.SameHost.withArena hw _
  child _ hw := World.SameHost.withArena hw _
  release _ hw := World.SameHost.withArena hw _
  log tracer message := (Yields.log tracer message).isOblivious.respected text host
  print line := (Yields.print line).isOblivious.respected text host
  readLine := Yields.readLine.isOblivious.respected text host
  readText _ path := (Yields.readText path).isOblivious.respected text host
  system _ command := (Yields.runCommand command).isOblivious.respected text host

namespace Coupling

variable {α : Type} {g g' : Handle}

lemma oblivious_of_coupled {x : Run α}
    (h : ∀ text host, (printed text host).Coupled g g' () (fun _ u v => v = u) x x) :
    x.Oblivious :=
  Run.oblivious_of_respected fun text host => respected_of_coupled (h text host)

/-- The primitive steps are oblivious. -/
theorem printed_laws (s : Settings) (text : String) (host : World) :
    (printed text host).Laws s reclaimFrame reclaimFrame :=
  revision_laws (Revision.printed_laws s text host)

end Coupling

/-- **Evaluation does not look at what was printed before.** -/
theorem oblivious_evaluateWith (s : Settings) (depth : Nat) (node : Node) (env : Handle) :
    (evaluateWith s reclaimFrame depth node env).Oblivious :=
  Coupling.oblivious_of_coupled fun text host =>
    (Coupling.printed_laws s text host).evaluateWith depth trivial rfl

end ArenaLisp
