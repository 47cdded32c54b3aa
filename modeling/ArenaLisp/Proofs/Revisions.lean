import ArenaLisp.Proofs.Frame

/-!
# A run in a world that was changed

A run looks at some parts of the world and not at others.  To say that it does not look at a part,
change that part before the run: the run then goes the same way, and the same change made after it
gives the world that it leaves behind.  Whether this is so can be told from the primitive steps.

Builtins are the steps that can look at the world beyond its arena.  What each of them does with the
world is said here once, apart from what it computes: most do nothing, two print, and the others
read a line, list names, read a file or run a command.

* `Builtin.Effect` — what a builtin can do with the world, and `Builtin.effect`, that there is
  nothing else.
* `Revision` — a change of the world, with what is known of the world while nodes are evaluated.
* `Revision.Respected` — a computation that goes the same way in the changed world.
* `Revision.Laws` — the primitive steps go the same way.
* **`Revision.Laws.runWith`** — so do runs.
* `World.Kept`, `World.Kept.runSource` — the case in which nothing is changed: what each of the
  primitive steps does to the world is what a run does to it.
-/

namespace ArenaLisp

/-! ## What builtins do with the world -/

/-- A computation that does nothing with the world. -/
def Run.Still (x : Run α) : Prop := ∃ answer : Except Fault α, x = Run.ofExcept answer

namespace Run.Still

variable {α β : Type}

lemma ofExcept (answer : Except Fault α) : Still (Run.ofExcept answer) := ⟨answer, rfl⟩

lemma pure (value : α) : Still (Pure.pure value : Run α) := ⟨.ok value, rfl⟩

lemma throw (fault : Fault) : Still (MonadExcept.throw fault : Run α) := ⟨.error fault, rfl⟩

lemma bind {x : Run α} {f : α → Run β} (hx : Still x) (hf : ∀ value, Still (f value)) :
    Still (x >>= f) := by
  obtain ⟨answer, rfl⟩ := hx
  cases answer with
  | error fault => exact throw fault
  | ok value => exact hf value

lemma unexpected (name : String) (kinds : List Value.Kind) (v : Value) :
    Still (ArenaLisp.unexpected name kinds v : Run α) :=
  throw _

lemma expectString (name : String) (v : Value) : Still (ArenaLisp.expectString name v) := by
  cases v with
  | string text => exact pure text
  | _ => exact unexpected _ _ _

lemma expectList (name : String) (v : Value) : Still (ArenaLisp.expectList name v) := by
  cases v with
  | list items => exact pure items
  | _ => exact unexpected _ _ _

lemma expectStrings (name : String) (vs : List Value) :
    Still (ArenaLisp.expectStrings name vs) := by
  induction vs with
  | nil => exact pure []
  | cons v rest ih =>
      refine (expectString name v).bind fun text => ?_
      exact ih.bind fun texts => pure (text :: texts)

lemma expectBool (name : String) (v : Value) : Still (ArenaLisp.expectBool name v) := by
  cases v with
  | integer n =>
      simp only [ArenaLisp.expectBool]
      split_ifs
      · exact pure false
      · exact pure true
      · exact throw _
  | _ => exact throw _

lemma expectNumbers (name : String) (vs : List Value) :
    Still (ArenaLisp.expectNumbers name vs) := by
  induction vs with
  | nil => exact pure ()
  | cons v rest ih =>
      unfold ArenaLisp.expectNumbers
      split_ifs
      · exact ih
      · exact unexpected _ _ _

lemma requireAll (vs : List Value) : Still (ArenaLisp.requireAll vs) := by
  induction vs with
  | nil => exact pure _
  | cons v rest ih =>
      unfold ArenaLisp.requireAll
      split_ifs
      · exact ih
      · exact throw _

lemma readDecimal (text : String) : Still (ArenaLisp.readDecimal text) := by
  unfold ArenaLisp.readDecimal
  split
  · exact throw _
  · exact throw _
  · exact ofExcept _

end Run.Still

/-- **What a builtin can do with the world.**  Only two builtins reach the files. -/
inductive Builtin.Effect (b : Builtin) : Run Value → Prop where
  | still {x : Run Value} : x.Still → Effect b x
  | print (text : String) : Effect b (do
      Run.print text
      return .unit)
  | readLine : Effect b (do Run.ofExcept (lineValue (← Run.readLine)))
  | names (look : Arena → Except Stray (List String)) : Effect b (do
      return namesValue (← Run.ofExcept ((look (← get).arena).mapError .stray)))
  | readFile (path : String) : b.operation = .unary .readFile →
      Effect b (Unary.readFile.apply (.string path))
  | system (command : String) : b.operation = .unary .system → Effect b (runCommand command)

section Effect

variable {b : Builtin}

lemma Nullary.effect (op : Nullary) (env : Handle) : b.Effect (op.apply env) := by
  cases op with
  | readLine => exact .readLine
  | localNames => exact .names (·.localNames env)
  | allNames => exact .names (·.names env)

lemma Unary.effect {op : Unary} (hb : b.operation = .unary op) (v : Value) :
    b.Effect (op.apply v) := by
  cases op with
  | readFile =>
      cases v with
      | string path => exact .readFile path hb
      | _ => exact .still (.unexpected _ _ _)
  | system =>
      cases v with
      | string command => exact .system command hb
      | _ => exact .still (.unexpected _ _ _)
  | parseInt =>
      cases v with
      | integer n => exact .still (.pure _)
      | string text => exact .still (.readDecimal text)
      | _ => exact .still (.unexpected _ _ _)
  | car =>
      match v with
      | .list (first :: _) => exact .still (.pure first)
      | .list [] => exact .still (.throw _)
      | .unit | .string _ | .integer _ | .float _ | .lambda .. | .reference _ | .error _ =>
          exact .still (.unexpected _ _ _)
  | not | cdr | length | endp | lines | error =>
      cases v <;> first
        | exact .still (.pure _)
        | exact .still (.unexpected _ _ _)

lemma Binary.effect (op : Binary) (u v : Value) : b.Effect (op.apply u v) := by
  refine .still ?_
  cases op with
  | mod | less | greater => exact .ofExcept _
  | equals => exact .pure _
  | and | or =>
      refine (Run.Still.expectBool _ u).bind fun x => ?_
      exact (Run.Still.expectBool _ v).bind fun y => .pure _
  | cons => exact (Run.Still.expectList _ v).bind fun items => .pure _
  | split =>
      refine (Run.Still.expectString _ u).bind fun text => ?_
      refine (Run.Still.expectString _ v).bind fun separator => ?_
      split_ifs
      · exact .throw _
      · exact .pure _
  | join =>
      refine (Run.Still.expectString _ u).bind fun separator => ?_
      refine (Run.Still.expectList _ v).bind fun items => ?_
      exact (Run.Still.expectStrings _ items).bind fun texts => .pure _
  | assertEqual =>
      unfold Binary.apply
      split_ifs
      · exact .pure _
      · exact .throw _

lemma NonEmpty.effect (op : NonEmpty) (first : Value) (rest : List Value) :
    b.Effect (op.apply first rest) := by
  cases op with
  | fold op =>
      exact .still ((Run.Still.expectNumbers op.name (first :: rest)).bind fun _ => .ofExcept _)
  | toText | typeOf => exact .still (.pure _)

lemma Variadic.effect (op : Variadic) (args : List Value) : b.Effect (op.apply args) := by
  cases op with
  | list | last => exact .still (.pure _)
  | concat => exact .still ((Run.Still.expectStrings _ args).bind fun texts => .pure _)
  | print => exact .print _
  | debug => exact .print _
  | assertAll => exact .still (.requireAll args)

end Effect

/-- Whatever it is applied to, a builtin does one of these things. -/
theorem Builtin.effect (b : Builtin) (env : Handle) (args : List Value) :
    b.Effect (b.apply env args) := by
  have hcount : ∀ {operation : Operation} {args : List Value},
      b.Effect (throw (.arity (operation.arity.fault b.name args.length))) := .still (.throw _)
  cases hop : b.operation with
  | nullary op =>
      unfold Builtin.apply
      rw [hop]
      rcases args with _ | ⟨_, _⟩
      · exact op.effect env
      · exact hcount
  | unary op =>
      unfold Builtin.apply
      rw [hop]
      rcases args with _ | ⟨v, _ | ⟨_, _⟩⟩
      · exact hcount
      · exact Unary.effect hop v
      · exact hcount
  | binary op =>
      unfold Builtin.apply
      rw [hop]
      rcases args with _ | ⟨u, _ | ⟨v, _ | ⟨_, _⟩⟩⟩
      · exact hcount
      · exact hcount
      · exact op.effect u v
      · exact hcount
  | nonEmpty op =>
      unfold Builtin.apply
      rw [hop]
      rcases args with _ | ⟨first, rest⟩
      · exact hcount
      · exact op.effect first rest
  | variadic op =>
      unfold Builtin.apply
      rw [hop]
      exact op.effect args

/-! ## Changes of the world -/

/-- An outcome with its world changed. -/
def changed (change : World → World) : EStateM.Result Fault World α → EStateM.Result Fault World α
  | .ok value w => .ok value (change w)
  | .error fault w => .error fault (change w)

/-- A change of the world, what is known of the world before the change, and the builtins that can
be met there. -/
structure Revision where
  change : World → World
  holds : World → Prop
  builtins : Builtin → Prop := fun _ => True

/-- A computation that goes the same way in the changed world, and after which the same is known of
the world. -/
def Revision.Respected (V : Revision) (x : Run α) : Prop :=
  ∀ w : World, V.holds w → x (V.change w) = changed V.change (x w) ∧ V.holds (x.after w)

/-- The primitive steps go the same way in the changed world.  Files have to be read there only if
the settings or a builtin ask for it. -/
structure Revision.Laws (V : Revision) (s : Settings) : Prop where
  arena : ∀ (w : World) (a : Arena), V.change (w.withArena a) = (V.change w).withArena a
  found : ∀ {w h name b}, V.holds w → w.arena.lookup h name = .ok (some (.builtin b)) →
    V.builtins b
  define : ∀ {w : World} h name v, V.holds w → V.holds (w.withArena (w.arena.define h name v))
  capture : ∀ {w : World} h, V.holds w → V.holds (w.withArena (w.arena.capture h))
  child : ∀ {w : World} h, V.holds w → V.holds (w.withArena (w.arena.child h))
  release : ∀ {w : World} h, V.holds w → V.holds (w.withArena (w.arena.release h))
  log : ∀ tracer message, V.Respected (Run.log tracer message)
  print : ∀ text, V.Respected (Run.print text)
  readLine : V.Respected Run.readLine
  readText : (s.hasInclude = true ∨ ∃ b, V.builtins b ∧ b.operation = .unary .readFile) →
    ∀ path, V.Respected (Run.readText path)
  system : (∃ b, V.builtins b ∧ b.operation = .unary .system) →
    ∀ command, V.Respected (runCommand command)

namespace Revision

variable {V : Revision} {s : Settings} {α β : Type}

/-! ## Composing computations -/

lemma Respected.pure (value : α) : V.Respected (Pure.pure value : Run α) :=
  fun _ hw => ⟨rfl, hw⟩

lemma Respected.throw (fault : Fault) : V.Respected (MonadExcept.throw fault : Run α) :=
  fun _ hw => ⟨rfl, hw⟩

lemma Respected.still {x : Run α} (hx : x.Still) : V.Respected x := by
  obtain ⟨answer, rfl⟩ := hx
  cases answer with
  | ok value => exact .pure value
  | error fault => exact .throw fault

lemma Respected.bind {x : Run α} {f : α → Run β} (hx : V.Respected x)
    (hf : ∀ value, V.Respected (f value)) : V.Respected (x >>= f) := by
  intro w hw
  obtain ⟨hrun, hafter⟩ := hx w hw
  unfold Run.after at hafter ⊢
  cases hxw : x w with
  | ok value w' =>
      rw [hxw] at hrun hafter
      rw [bind_of_ok hxw, bind_of_ok hrun]
      exact hf value w' hafter
  | error fault w' =>
      rw [hxw] at hrun hafter
      rw [bind_of_error hxw, bind_of_error hrun]
      exact ⟨rfl, hafter⟩

namespace Laws

lemma change_arena (L : V.Laws s) (w : World) : (V.change w).arena = w.arena := by
  calc (V.change w).arena = ((V.change w).withArena w.arena).arena :=
        congrArg World.arena (L.arena w w.arena)
    _ = w.arena := rfl

/-- What is read off the arena is the same. -/
lemma ofArena (L : V.Laws s) (look : Arena → Except Stray α) :
    V.Respected (do Run.ofExcept ((look (← get).arena).mapError .stray)) := by
  intro w hw
  have hsame := (Respected.still (V := V) (.ofExcept ((look w.arena).mapError Fault.stray))) w hw
  refine ⟨?_, hsame.2⟩
  show Run.ofExcept ((look (V.change w).arena).mapError .stray) (V.change w) = _
  rw [L.change_arena]
  exact hsame.1

/-- A change of the scope of a handle, which must be live. -/
lemma update (L : V.Laws s) (h : Handle) (change : Arena → Arena)
    (hchange : ∀ {w : World}, V.holds w → V.holds (w.withArena (change w.arena))) :
    V.Respected (do
      Run.requireLive h
      modify fun w => w.withArena (change w.arena)) := by
  refine Respected.bind (fun w hw => ?_) fun _ w hw => ?_
  · rcases Nat.lt_or_ge h w.arena.size with hlt | hge
    · rw [Run.requireLive_of_live (L.change_arena w ▸ hlt), Run.after, Run.requireLive_of_live hlt]
      exact ⟨rfl, hw⟩
    · rw [Run.requireLive_of_dead (L.change_arena w ▸ hge), Run.after, Run.requireLive_of_dead hge]
      exact ⟨rfl, hw⟩
  · refine ⟨?_, hchange hw⟩
    show EStateM.Result.ok () ((V.change w).withArena (change (V.change w).arena)) =
      .ok () (V.change (w.withArena (change w.arena)))
    rw [L.arena, L.change_arena]

lemma trace (L : V.Laws s) {w : World} (hw : V.holds w) (tracer : Tracer)
    (message : Unit → String) :
    (V.change w).trace tracer message = V.change (w.trace tracer message) ∧
      V.holds (w.trace tracer message) := by
  obtain ⟨hrun, hafter⟩ := L.log tracer message w hw
  exact ⟨(EStateM.Result.ok.inj hrun).2, hafter⟩

lemma opened (L : V.Laws s) {w : World} (hw : V.holds w) (h : Handle) :
    (V.change w).opened h = V.change (w.opened h) ∧ V.holds (w.opened h) := by
  show ((V.change w).withArena ((V.change w).arena.child h)).trace .scopes (fun _ =>
      "created scope #" ++ toString (V.change w).arena.size ++ " (parent #" ++ toString h ++ ")") =
    _ ∧ _
  rw [L.change_arena, ← L.arena]
  exact L.trace (L.child h hw) _ _

lemma reclaimFrame (L : V.Laws s) {w : World} (hw : V.holds w) (frame : Handle) :
    ArenaLisp.reclaimFrame s frame (V.change w) = V.change (ArenaLisp.reclaimFrame s frame w) ∧
      V.holds (ArenaLisp.reclaimFrame s frame w) := by
  unfold ArenaLisp.reclaimFrame
  rw [L.change_arena]
  split_ifs
  · obtain ⟨hchange, hholds⟩ := L.trace hw .scopes fun _ => "released scope #" ++ toString frame
    refine ⟨?_, L.release frame hholds⟩
    show (World.trace _ _ _).withArena ((World.trace _ _ _).arena.release frame) =
      V.change (World.withArena _ _)
    rw [L.arena, hchange, L.change_arena]
  · exact ⟨rfl, hw⟩

lemma readSource (L : V.Laws s) (hinclude : s.hasInclude = true) (path : String) :
    V.Respected (ArenaLisp.readSource path) := by
  refine (L.readText (Or.inl hinclude) path).bind fun found => ?_
  cases found with
  | ok text => exact .pure _
  | error problem => exact .throw _

/-- The builtins that can be met go the same way. -/
lemma apply (L : V.Laws s) {b : Builtin} (hb : V.builtins b) (env : Handle) (args : List Value) :
    V.Respected (b.apply env args) := by
  have heffect := b.effect env args
  generalize b.apply env args = x at heffect ⊢
  cases heffect with
  | still hx => exact .still hx
  | print text => exact (L.print text).bind fun _ => .pure _
  | readLine => exact L.readLine.bind fun line => .still (.ofExcept _)
  | names look => exact (L.ofArena look).bind fun names => .pure _
  | readFile path hop =>
      refine (L.readText (Or.inr ⟨b, hb, hop⟩) path).bind fun found => ?_
      cases found with
      | ok text => exact .pure _
      | error problem => exact .throw _
  | system command hop => exact L.system ⟨b, hb, hop⟩ command

end Laws

end Revision

/-! ## Evaluation -/

/-- A run beside the same run in the changed world. -/
def Coupling.revision (V : Revision) : Coupling where
  Stage := Unit
  worlds _ w w' := w' = V.change w ∧ V.holds w
  handles _ h h' := h' = h
  values _ v v' := v' = v
  faults e e' := e' = e
  builtins := V.builtins
  passes _ _ _ _ := True
  passes_refl _ _ _ := trivial
  passes_trans _ _ := trivial
  handles_passes _ h := h
  values_passes _ h := h

namespace Coupling

variable {α : Type} {V : Revision} {s : Settings} {g g' : Handle}

lemma revision_coupled {R : Unit → α → α → Prop} {x : Run α} (hx : V.Respected x)
    (hR : ∀ u, R () u u) : (revision V).Coupled g g' () R x x := by
  rintro w _ ⟨rfl, hw⟩
  obtain ⟨hrun, hafter⟩ := hx w hw
  rw [hrun]
  unfold Run.after at hafter
  generalize x w = r at hafter ⊢
  cases r with
  | ok value w' =>
      exact @Outcomes.ok (revision V) _ _ g g' () R () value value w' _ trivial
        ⟨rfl, hafter⟩ (hR value)
  | error fault w' =>
      exact @Outcomes.error (revision V) _ _ g g' () R () fault fault w' _ (Or.inl trivial)
        ⟨rfl, hafter⟩ rfl

lemma respected_of_coupled {x : Run α}
    (h : (revision V).Coupled g g' () (fun _ u v => v = u) x x) : V.Respected x := by
  intro w hw
  have hr := h w _ ⟨rfl, hw⟩
  unfold Run.after
  generalize x w = r at hr ⊢
  generalize x (V.change w) = r' at hr ⊢
  cases hr with
  | ok _ hw' hv =>
      obtain ⟨rfl, hw'⟩ := hw'
      obtain rfl := hv
      exact ⟨rfl, hw'⟩
  | error _ hw' he =>
      obtain ⟨rfl, hw'⟩ := hw'
      obtain rfl := he
      exact ⟨rfl, hw'⟩

/-- Looking a name up comes to the same, and a builtin that is found is one that can be met. -/
lemma revision_lookup (L : V.Laws s) (h : Handle) (name : String) :
    (revision V).Coupled g g' () (revision V).Found (Run.lookup h name) (Run.lookup h name) := by
  rintro w _ ⟨rfl, hw⟩
  rw [Run.lookup_eq, Run.lookup_eq, L.change_arena]
  cases hfound : w.arena.lookup h name with
  | error fault =>
      exact @Outcomes.error (revision V) _ _ g g' () _ () (.stray fault) _ w _ (Or.inl trivial)
        ⟨rfl, hw⟩ rfl
  | ok found =>
      refine @Outcomes.ok (revision V) _ _ g g' () _ () found found w _ trivial ⟨rfl, hw⟩ ?_
      match found with
      | none => exact .none
      | some (.builtin b) => exact .some (.builtin (L.found hw hfound))
      | some (.constant v) => exact .some (.constant rfl)

/-- The primitive steps keep up the comparison. -/
theorem revision_laws (L : V.Laws s) : (revision V).Laws s reclaimFrame reclaimFrame where
  forms _ _ _ _ := trivial
  unit _ := rfl
  literal _ _ := rfl
  reference _ _ := rfl
  shape h := by rw [h]
  callee hv hh := by
    cases hv
    cases hh
    rfl
  fault _ := rfl
  notString _ hv := by rw [hv]; rfl
  log tracer message := revision_coupled (L.log tracer message) fun _ => trivial
  source path hinclude := revision_coupled (L.readSource hinclude path) fun _ => rfl
  lookup name hh := by
    cases hh
    exact revision_lookup L _ name
  define name hh hv := by
    cases hh
    cases hv
    exact revision_coupled (L.update _ (·.define _ name _) (L.define _ name _)) fun _ => trivial
  make params body hh := by
    cases hh
    unfold makeLambda
    cases s.scoping with
    | dynamic => exact .pure rfl
    | lexical =>
        refine Coupled.bind (R := fun _ _ _ => True) ?_ fun _ _ _ _ _ => .pure rfl
        exact revision_coupled (L.update _ (·.capture _) (L.capture _)) fun _ => trivial
  apply {_ _ _ _ _ b args args'} hb hh ha := by
    cases hh
    have hargs : args' = args := (List.forall₂_eq_eq_eq ▸ ha.flip : args' = args)
    subst hargs
    exact revision_coupled (L.apply hb _ args') fun _ => rfl
  call {_ p p' w w'} hp hw := by
    obtain ⟨rfl, hw⟩ := hw
    obtain rfl : p' = p := hp
    obtain ⟨hopened, hholds⟩ := L.opened hw p'
    have hleave : ∀ {κ w₂ w₂'}, (revision V).worlds κ w₂ w₂' → (revision V).worlds ()
        (ArenaLisp.reclaimFrame s w.arena.size w₂)
        (ArenaLisp.reclaimFrame s (V.change w).arena.size w₂') := by
      rintro _ w₂ _ ⟨rfl, hw₂⟩
      rw [L.change_arena]
      exact L.reclaimFrame hw₂ w.arena.size
    exact ⟨(), ⟨hopened, hholds⟩, L.change_arena w ▸ rfl, fun _ _ hv => hv,
      ⟨fun _ hw₂ => ⟨(), fun _ _ => trivial, hleave hw₂, fun _ _ hv => hv⟩,
        fun _ hw₂ => ⟨(), fun _ _ => trivial, hleave hw₂⟩⟩⟩
  cramped {_ p p' w w'} _ hp hw := by
    obtain ⟨rfl, hw⟩ := hw
    obtain rfl : p' = p := hp
    refine ⟨(), fun _ _ => trivial, ?_, L.child p' hw⟩
    rw [L.change_arena, L.arena]

end Coupling

/-- **Runs go the same way in the changed world** if the primitive steps do. -/
theorem Revision.Laws.runWith {V : Revision} {s : Settings} (L : V.Laws s) (depth : Nat)
    (source : String) (env : Handle) :
    V.Respected (ArenaLisp.runWith (evaluateWith s ArenaLisp.reclaimFrame depth) source env) := by
  have hlaws := Coupling.revision_laws L
  have hrun : (Coupling.revision V).Coupled env env () (fun _ u v => v = u) _ _ :=
    hlaws.runWith (hlaws.evaluateWith depth) source rfl
  exact Coupling.respected_of_coupled hrun

/-! ## What a run does to the world -/

/-- A relation between a world and a later one that each of the primitive steps keeps to.  It does
not look at the arena. -/
structure World.Kept (R : World → World → Prop) : Prop where
  refl : ∀ w, R w w
  trans : ∀ {w w' w''}, R w w' → R w' w'' → R w w''
  arena : ∀ w a, R w (w.withArena a)
  trace : ∀ w tracer message, R w (w.trace tracer message)
  print : ∀ w text, R w (w.print text)
  readLine : ∀ w, R w (Run.readLine.after w)
  afterCommand : ∀ w completed, R w (w.afterCommand completed)

section Kept

variable {R : World → World → Prop} {start : World} {α : Type}

/-- Nothing is changed, and the world stands in a relation to an earlier one. -/
def Revision.since (R : World → World → Prop) (start : World) : Revision where
  change := id
  holds := R start

namespace World.Kept

lemma respected (K : Kept R) {x : Run α} (h : ∀ w, R w (x.after w)) :
    (Revision.since R start).Respected x := by
  intro w hw
  refine ⟨?_, K.trans hw (h w)⟩
  show x w = changed id (x w)
  cases x w <;> rfl

lemma respected_log (K : Kept R) (tracer : Tracer) (message : Unit → String) :
    (Revision.since R start).Respected (Run.log tracer message) :=
  K.respected fun w => K.trace w tracer message

/-- A command line that the shell cannot start changes nothing. -/
lemma inShell (K : Kept R) (w : World) (command : String) :
    R w ((ArenaLisp.inShell command).after w) := by
  unfold Run.after ArenaLisp.inShell
  cases w.platform.shell w.files w.environ w.input.supplies command with
  | error fault => exact K.refl w
  | ok completed =>
      simp only
      cases outputValue completed.output <;> exact K.afterCommand w completed

/-- The primitive steps keep to the relation. -/
lemma laws (K : Kept R) (start : World) (s : Settings) : (Revision.since R start).Laws s where
  arena _ _ := rfl
  found _ _ := trivial
  define _ _ _ hw := K.trans hw (K.arena _ _)
  capture _ hw := K.trans hw (K.arena _ _)
  child _ hw := K.trans hw (K.arena _ _)
  release _ hw := K.trans hw (K.arena _ _)
  log := K.respected_log
  print text := K.respected fun w => K.print w text
  readLine := K.respected K.readLine
  readText _ path := by
    unfold Run.readText
    split_ifs
    · exact .throw _
    · exact K.respected fun w => K.refl w
  system _ command := by
    refine (K.respected_log _ _).bind fun _ => ?_
    split_ifs
    · exact .throw _
    · exact K.respected fun w => K.inShell w command

/-- **A run keeps to the relation** if the primitive steps do. -/
theorem runSource (K : Kept R) (s : Settings) (source : String) (env : Handle) (w : World) :
    R w ((ArenaLisp.runSource s source env).after w) :=
  ((K.laws w s).runWith s.stack.depth source env w (K.refl w)).2

end World.Kept

end Kept

end ArenaLisp
