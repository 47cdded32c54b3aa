import ArenaLisp.Proofs.Coupling
import Mathlib.Algebra.Ring.Int.Defs
import Mathlib.Algebra.Ring.Nat

/-!
# What a builtin can come to

A builtin is applied to values and comes to a value or to a fault.  This file says, once and for all
builtins, what these can be and what else a builtin can do.  It leaves the arena and the host
alone, and it does not look at what has been printed before.  The integers in its value fit a
machine word if those in its arguments do and if no argument is longer than a machine word can tell.
Its fault is one that the language knows, but for a few that are not: those are listed here.

* `Value.integers`, `Value.Fits` — the integers that occur in a value, and the range of a word.
* `Fault.Anticipated` — the faults that evaluation can end in.
* `Yields` — a computation that leaves the arena and earlier output alone, with what it comes to.
* **`Builtin.yields`** — every builtin, applied to any arguments.
-/

namespace ArenaLisp

/-! ## Integers in values -/

mutual

/-- The integers that occur in a node. -/
def Node.integers : Node → List Int
  | .list items => Node.integersAll items
  | .literal (.integer n) => [n]
  | _ => []

/-- The integers that occur in several nodes. -/
def Node.integersAll : List Node → List Int
  | [] => []
  | node :: rest => node.integers ++ Node.integersAll rest

end

namespace Value

mutual

/-- The integers that occur in a value, in the items of a list and in the body of a lambda. -/
def integers : Value → List Int
  | .integer n => [n]
  | .list items => integersAll items
  | .lambda _ body _ => Node.integersAll body
  | _ => []

/-- The integers that occur in several values. -/
def integersAll : List Value → List Int
  | [] => []
  | v :: rest => integers v ++ integersAll rest

end

end Value

/-- An integer that fits a machine word. -/
def FitsWord (n : Int) : Prop := -2 ^ 63 ≤ n ∧ n ≤ 2 ^ 63 - 1

lemma fitsWord_iff {n : Int} : FitsWord n ↔ Decimal.inWord n = true := by
  unfold FitsWord Decimal.inWord
  rw [Bool.and_eq_true, decide_eq_true_iff, decide_eq_true_iff, Decimal.wordMin, Decimal.wordMax]
  omega

/-- Every integer that occurs in a node fits a machine word. -/
def Node.Fits (node : Node) : Prop := ∀ n ∈ node.integers, FitsWord n

/-- Every integer that occurs in a value fits a machine word. -/
def Value.Fits (v : Value) : Prop := ∀ n ∈ v.integers, FitsWord n

/-- A string or a list whose length fits a machine word, or any other value.  The length of a string
is the one that scripts see, which is counted in bytes. -/
def Value.Short : Value → Prop
  | .string text => text.utf8ByteSize < 2 ^ 63
  | .list items => items.length < 2 ^ 63
  | _ => True

section Fits

lemma Node.integersAll_eq (nodes : List Node) :
    Node.integersAll nodes = nodes.flatMap Node.integers := by
  induction nodes with
  | nil => rfl
  | cons node rest ih => exact congrArg (node.integers ++ ·) ih

lemma Value.integersAll_eq (vs : List Value) : integersAll vs = vs.flatMap integers := by
  induction vs with
  | nil => rfl
  | cons v rest ih => exact congrArg (v.integers ++ ·) ih

@[simp] lemma Node.fits_list {items : List Node} :
    (Node.list items).Fits ↔ ∀ item ∈ items, item.Fits := by
  show (∀ n ∈ Node.integersAll items, FitsWord n) ↔ _
  rw [Node.integersAll_eq]
  exact List.forall_mem_flatMap

@[simp] lemma Value.fits_list {items : List Value} :
    (Value.list items).Fits ↔ ∀ item ∈ items, item.Fits := by
  show (∀ n ∈ integersAll items, FitsWord n) ↔ _
  rw [integersAll_eq]
  exact List.forall_mem_flatMap

@[simp] lemma Value.fits_lambda {params : List String} {body : List Node} {scope : Option Handle} :
    (Value.lambda params body scope).Fits ↔ ∀ node ∈ body, node.Fits := by
  show (∀ n ∈ Node.integersAll body, FitsWord n) ↔ _
  rw [Node.integersAll_eq]
  exact List.forall_mem_flatMap

@[simp] lemma Value.fits_integer {n : Int} : (Value.integer n).Fits ↔ FitsWord n :=
  List.forall_mem_singleton

@[simp] lemma Value.fits_unit : Value.unit.Fits := List.forall_mem_nil _

@[simp] lemma Value.fits_string (text : String) : (Value.string text).Fits := List.forall_mem_nil _

@[simp] lemma Value.fits_float (x : Float) : (Value.float x).Fits := List.forall_mem_nil _

@[simp] lemma Value.fits_reference (name : String) : (Value.reference name).Fits :=
  List.forall_mem_nil _

@[simp] lemma Value.fits_error (message : String) : (Value.error message).Fits :=
  List.forall_mem_nil _

@[simp] lemma Value.fits_ofBool (b : Bool) : (Value.ofBool b).Fits := by
  cases b <;> simp [Value.ofBool, Value.yes, Value.no, FitsWord]

lemma Value.fits_ofLiteral {l : Literal} (h : (Node.literal l).Fits) :
    (Value.ofLiteral l).Fits := by
  cases l with
  | integer n => exact h
  | string | float => simp [Value.ofLiteral]

/-- The length of a short value fits. -/
lemma fitsWord_natCast {n : Nat} (h : n < 2 ^ 63) : FitsWord n := by
  unfold FitsWord
  omega

end Fits

/-! ## Faults -/

/-- The strays that a script can bring about: digits that are not read, a remainder that does not
exist, a path or a command with a null character, and input or the output of a command that is no
text. -/
def Stray.Escapes : Stray → Prop
  | .tooManyDigits digits => Decimal.digitLimit < digits
  | .infiniteDividend | .nullByte | .inputNotText _ | .outputNotText _ => True
  | .releasedScope | .cannotList _ | .inputRefused _ | .unknownScoping _ | .unfilled _ => False

/-- The faults that evaluation can end in: those of reading, of evaluation and of bindings, the
limit on nesting, and the strays that escape. -/
def Fault.Anticipated : Fault → Prop
  | .read (.tooManyDigits digits) => Decimal.digitLimit < digits
  | .read _ | .eval _ | .arity _ | .binding _ | .recursionLimit => True
  | .stray other => other.Escapes
  | .session _ => False

/-- A fault that can be anticipated where no scope has been released too early. -/
def Fault.Foreseen (fault : Fault) : Prop := fault ≠ .stray .releasedScope → fault.Anticipated

lemma Fault.foreseen_releasedScope : (Fault.stray .releasedScope).Foreseen :=
  fun h => absurd rfl h

lemma Decimal.digitLimit_lt_of_tooLong {text : List Char} {digits : Nat}
    (h : readInteger text = .tooLong digits) : digitLimit < digits := by
  unfold readInteger at h
  simp only at h
  split_ifs at h with hd hl
  cases h
  omega

/-! ## Computations that leave the arena and earlier output alone -/

/-- The world in which a text was printed before everything else. -/
def World.printedBefore (text : String) (w : World) : World := { w with output := text ++ w.output }

/-- An outcome in whose world a text was printed before everything else. -/
def printedBefore (text : String) : EStateM.Result Fault World α → EStateM.Result Fault World α
  | .ok value w => .ok value (w.printedBefore text)
  | .error fault w => .error fault (w.printedBefore text)

/-- The same variables of the environment and the same platform. -/
structure World.SameHost (w w' : World) : Prop where
  environ : w'.environ = w.environ
  platform : w'.platform = w.platform

lemma World.SameHost.refl (w : World) : w.SameHost w := ⟨rfl, rfl⟩

lemma World.SameHost.trans {w w' w'' : World} (h : w.SameHost w') (h' : w'.SameHost w'') :
    w.SameHost w'' :=
  ⟨h'.environ.trans h.environ, h'.platform.trans h.platform⟩

lemma World.SameHost.withArena {w w' : World} (h : w.SameHost w') (a : Arena) :
    w.SameHost (w'.withArena a) :=
  ⟨h.environ, h.platform⟩

/-- On the same host, messages are emphasised in the same way. -/
lemma World.SameHost.painter {w w' : World} (h : w.SameHost w') : w'.painter = w.painter := by
  rw [World.painter, h.environ, h.platform]
  rfl

/-- The same arena on the same host. -/
structure World.Settled (w w' : World) : Prop extends w.SameHost w' where
  arena : w'.arena = w.arena

lemma World.Settled.refl (w : World) : w.Settled w := ⟨.refl w, rfl⟩

lemma World.Settled.trans {w w' w'' : World} (h : w.Settled w') (h' : w'.Settled w'') :
    w.Settled w'' :=
  ⟨h.toSameHost.trans h'.toSameHost, h'.arena.trans h.arena⟩

/-- A value with a property or a fault that is foreseen, with nothing changed in the arena. -/
inductive Comes (Q : α → Prop) (w : World) : EStateM.Result Fault World α → Prop where
  | ok {value : α} {w' : World} : w.Settled w' → Q value → Comes Q w (.ok value w')
  | error {fault : Fault} {w' : World} :
      w.Settled w' → fault.Foreseen → Comes Q w (.error fault w')

/-- **A computation that leaves the arena alone** and comes to a value with a property or to a fault
that is foreseen.  It does not look at what has been printed before. -/
structure Yields (Q : α → Prop) (x : Run α) : Prop where
  comes : ∀ w : World, Comes Q w (x w)
  oblivious : ∀ (w : World) (text : String),
    x (w.printedBefore text) = printedBefore text (x w)

section Rules

variable {α β : Type} {Q : α → Prop} {R : β → Prop}

lemma Yields.pure {value : α} (h : Q value) : Yields Q (Pure.pure value) where
  comes w := .ok (.refl w) h
  oblivious _ _ := rfl

lemma Yields.throw {fault : Fault} (h : fault.Foreseen) :
    Yields Q (MonadExcept.throw fault : Run α) where
  comes w := .error (.refl w) h
  oblivious _ _ := rfl

/-- Two computations in sequence. -/
lemma Yields.bind {x : Run α} {f : α → Run β} (hx : Yields Q x)
    (hf : ∀ value, Q value → Yields R (f value)) : Yields R (x >>= f) where
  comes w := by
    have h := hx.comes w
    cases hrun : x w with
    | ok value w' =>
        rw [hrun] at h
        obtain ⟨ha, hQ⟩ := h
        have hnext := (hf value hQ).comes w'
        rw [bind_of_ok hrun]
        generalize f value w' = r at hnext ⊢
        cases hnext with
        | ok ha' hR => exact .ok (ha.trans ha') hR
        | error ha' he => exact .error (ha.trans ha') he
    | error fault w' =>
        rw [hrun] at h
        obtain _ | ⟨ha, he⟩ := h
        rw [bind_of_error hrun]
        exact .error ha he
  oblivious w text := by
    have h := hx.comes w
    have ho := hx.oblivious w text
    cases hrun : x w with
    | ok value w' =>
        rw [hrun] at h ho
        obtain ⟨_, hQ⟩ := h
        rw [bind_of_ok hrun, bind_of_ok ho]
        exact (hf value hQ).oblivious w' text
    | error fault w' =>
        rw [hrun] at ho
        rw [bind_of_error hrun, bind_of_error ho]
        rfl

lemma Yields.imp {Q' : α → Prop} {x : Run α} (hx : Yields Q x) (h : ∀ value, Q value → Q' value) :
    Yields Q' x where
  comes w := by
    have hw := hx.comes w
    generalize x w = r at hw ⊢
    cases hw with
    | ok ha hQ => exact .ok ha (h _ hQ)
    | error ha he => exact .error ha he
  oblivious := hx.oblivious

/-- An outcome that needs no world: a value with a property, or a fault that is foreseen. -/
def Answers (Q : α → Prop) : Except Fault α → Prop
  | .ok value => Q value
  | .error fault => fault.Foreseen

lemma Answers.imp {Q' : α → Prop} {r : Except Fault α} (hr : Answers Q r)
    (h : ∀ value, Q value → Q' value) : Answers Q' r := by
  cases r with
  | ok value => exact h value hr
  | error fault => exact hr

lemma Yields.ofExcept {r : Except Fault α} (h : Answers Q r) : Yields Q (Run.ofExcept r) := by
  cases r with
  | ok value => exact .pure h
  | error fault => exact .throw h

end Rules

/-! ## The outside -/

lemma World.trace_printedBefore (w : World) (text : String) (tracer : Tracer)
    (message : Unit → String) :
    (w.printedBefore text).trace tracer message = (w.trace tracer message).printedBefore text := by
  unfold World.trace World.printedBefore
  split <;> rfl

lemma World.sameHost_trace (w : World) (tracer : Tracer) (message : Unit → String) :
    w.SameHost (w.trace tracer message) := by
  unfold World.trace
  split
  · exact ⟨rfl, rfl⟩
  · exact .refl w

lemma Yields.log (tracer : Tracer) (message : Unit → String) :
    Yields (fun _ => True) (Run.log tracer message) where
  comes w := .ok ⟨w.sameHost_trace _ _, w.trace_arena _ _⟩ trivial
  oblivious w text := congrArg (EStateM.Result.ok ()) (w.trace_printedBefore text tracer message)

lemma Yields.print (line : String) : Yields (fun _ => True) (Run.print line) where
  comes _ := .ok ⟨⟨rfl, rfl⟩, rfl⟩ trivial
  oblivious w text := by
    have h : (w.printedBefore text).print line = (w.print line).printedBefore text := by
      simp only [World.print, World.printedBefore, String.append_assoc]
    exact congrArg (EStateM.Result.ok ()) h

lemma Yields.readLine : Yields (fun _ => True) Run.readLine where
  comes _ := .ok ⟨⟨rfl, rfl⟩, rfl⟩ trivial
  oblivious _ _ := rfl

lemma Answers.lineValue (line : Except InputFault (List Char)) :
    Answers Value.Fits (lineValue line) := by
  match line with
  | .ok line => exact Value.fits_string _
  | .error (.refused fault) => exact fun _ => trivial
  | .error (.notText problem) => exact fun _ => trivial

lemma Yields.readText (path : String) : Yields (fun _ => True) (Run.readText path) := by
  unfold Run.readText
  split_ifs
  · exact .throw fun _ => trivial
  · exact ⟨fun w => .ok (.refl w) trivial, fun _ _ => rfl⟩

lemma Yields.readSource (path : String) : Yields (fun _ => True) (readSource path) := by
  refine (Yields.readText path).bind fun found _ => ?_
  cases found with
  | ok text => exact .pure trivial
  | error problem => exact .throw fun _ => trivial

/-- What is read off the arena is there unless a scope was released too early. -/
lemma Yields.ofArena {α : Type} (look : Arena → Except Stray α)
    (h : ∀ a fault, look a = .error fault → fault = .releasedScope) :
    Yields (fun _ => True)
      (do Run.ofExcept ((look (← get).arena).mapError .stray) : Run α) where
  comes w := by
    show Comes _ _ (Run.ofExcept ((look w.arena).mapError .stray) w)
    cases hlook : look w.arena with
    | ok found => exact .ok (.refl w) trivial
    | error fault =>
        obtain rfl := h _ _ hlook
        exact .error (.refl w) Fault.foreseen_releasedScope
  oblivious w text := by
    show Run.ofExcept ((look w.arena).mapError .stray) (w.printedBefore text) =
      printedBefore text (Run.ofExcept ((look w.arena).mapError .stray) w)
    cases look w.arena <;> rfl

lemma Arena.localNames_error {a : Arena} {h : Handle} {fault : Stray}
    (he : a.localNames h = .error fault) : fault = .releasedScope := by
  unfold Arena.localNames at he
  split at he <;> cases he
  rfl

lemma Arena.namesAlong_error : ∀ {way : List (Option Scope)} {fault : Stray},
    Arena.namesAlong way = .error fault → fault = .releasedScope := by
  intro way
  induction way with
  | nil => intro _ he; cases he
  | cons link rest ih =>
      intro fault he
      cases link with
      | none => cases he; rfl
      | some sc =>
          unfold Arena.namesAlong at he
          cases hrest : Arena.namesAlong rest with
          | ok names => rw [hrest] at he; cases he
          | error other =>
              rw [hrest] at he
              cases he
              exact ih hrest

lemma Arena.lookupAlong_error {name : String} : ∀ {way : List (Option Scope)} {fault : Stray},
    Arena.lookupAlong name way = .error fault → fault = .releasedScope := by
  intro way
  induction way with
  | nil => intro _ he; cases he
  | cons link rest ih =>
      intro fault he
      cases link with
      | none => cases he; rfl
      | some sc =>
          unfold Arena.lookupAlong at he
          split at he
          · cases he
          · exact ih he

lemma Answers.outputValue (output : List UInt8) : Answers Value.Fits (outputValue output) := by
  unfold ArenaLisp.outputValue
  cases Text.Utf8.decode output with
  | error problem => exact fun _ => trivial
  | ok text => exact Value.fits_string _

lemma Yields.ofExcept_settled {α : Type} {Q : α → Prop} {w w' : World} (hs : w.Settled w')
    {r : Except Fault α} (hr : Answers Q r) : Comes Q w (Run.ofExcept r w') := by
  cases r with
  | ok value => exact .ok hs hr
  | error fault => exact .error hs hr

lemma Yields.inShell (command : String) : Yields Value.Fits (inShell command) where
  comes w := by
    unfold ArenaLisp.inShell
    cases w.platform.shell w.files w.environ w.input.supplies command with
    | error fault => exact .error (.refl w) fun _ => trivial
    | ok completed =>
        have hsettled : w.Settled (w.afterCommand completed) := ⟨⟨rfl, rfl⟩, rfl⟩
        exact Yields.ofExcept_settled hsettled (.outputValue completed.output)
  oblivious w text := by
    have hsame : (w.printedBefore text).platform.shell (w.printedBefore text).files
        (w.printedBefore text).environ (w.printedBefore text).input.supplies command =
      w.platform.shell w.files w.environ w.input.supplies command := rfl
    unfold ArenaLisp.inShell
    rw [hsame]
    cases w.platform.shell w.files w.environ w.input.supplies command with
    | error fault => rfl
    | ok completed =>
        exact (Yields.ofExcept (.outputValue completed.output)).oblivious
          (w.afterCommand completed) text

lemma Yields.runCommand (command : String) : Yields Value.Fits (runCommand command) := by
  refine (Yields.log _ _).bind fun _ _ => ?_
  split_ifs
  · exact .throw fun _ => trivial
  · exact Yields.inShell command

/-! ## Numbers -/

lemma answers_word (name : String) (n : Int) : Answers Value.Fits (word name n) := by
  unfold word
  split_ifs with hword
  · exact Value.fits_integer.mpr (fitsWord_iff.mpr hword)
  · exact fun _ => trivial

lemma answers_onFloats (op : Operator) (x y : Float) :
    Answers (fun _ => True) (op.onFloats x y) := by
  cases op with
  | mod =>
      simp only [Operator.onFloats]
      split
      · trivial
      · exact fun _ => trivial
  | _ => trivial

lemma answers_promote (name : String) (a b : Value) :
    Answers (fun _ => True) (promote name a b) := by
  unfold promote
  split
  case h_5 => exact fun _ => trivial
  all_goals trivial

/-- Two numbers give a number that fits, or are refused. -/
lemma answers_arithmetic (op : Operator) (a b : Value) :
    Answers Value.Fits (arithmetic op a b) := by
  have hp := answers_promote op.name a b
  unfold arithmetic
  generalize promote op.name a b = promoted at hp ⊢
  cases promoted with
  | error fault => exact hp
  | ok operands =>
      cases operands with
      | integers x y =>
          simp only
          split_ifs
          · exact fun _ => trivial
          · exact answers_word _ _
      | floats x y =>
          simp only
          split_ifs
          · exact fun _ => trivial
          · have hx := answers_onFloats op x y
            generalize op.onFloats x y = r at hx ⊢
            cases r with
            | error fault => exact hx
            | ok z => exact Value.fits_float z

lemma answers_foldArithmetic (op : Operator) : ∀ (rest : List Value) (first : Value),
    Answers (fun v => first.Fits → v.Fits) (foldArithmetic op first rest) := by
  intro rest
  induction rest with
  | nil => exact fun _ h => h
  | cons next rest ih =>
      intro first
      have hnext := answers_arithmetic op first next
      simp only [foldArithmetic]
      generalize arithmetic op first next = r at hnext ⊢
      cases r with
      | error fault => exact hnext
      | ok v => exact (ih v).imp fun _ hv _ => hv hnext

lemma answers_compareIntegers (name : String) (a b : Value) :
    Answers Value.Fits (compareIntegers name a b) := by
  unfold compareIntegers
  split
  · exact Value.fits_ofBool _
  · exact fun _ => trivial

lemma Yields.readDecimal (text : String) : Yields Value.Fits (readDecimal text) := by
  unfold ArenaLisp.readDecimal
  cases hr : Decimal.readInteger text.toList with
  | malformed => exact .throw fun _ => trivial
  | tooLong digits => exact .throw fun _ => Decimal.digitLimit_lt_of_tooLong hr
  | value n => exact .ofExcept (answers_word _ _)

/-! ## Arguments of a kind -/

lemma Yields.unexpected {α : Type} {Q : α → Prop} (name : String) (kinds : List Value.Kind)
    (v : Value) : Yields Q (unexpected name kinds v) :=
  .throw fun _ => trivial

lemma Yields.expectString (name : String) (v : Value) :
    Yields (fun _ => True) (expectString name v) := by
  cases v with
  | string text => exact .pure trivial
  | _ => exact .unexpected _ _ _

lemma Yields.expectList (name : String) (v : Value) :
    Yields (fun items => v = .list items) (expectList name v) := by
  cases v with
  | list items => exact .pure rfl
  | _ => exact .unexpected _ _ _

lemma Yields.expectStrings (name : String) (vs : List Value) :
    Yields (fun _ => True) (expectStrings name vs) := by
  induction vs with
  | nil => exact .pure trivial
  | cons v rest ih =>
      refine (Yields.expectString name v).bind fun _ _ => ?_
      exact ih.bind fun _ _ => .pure trivial

lemma Yields.expectBool (name : String) (v : Value) :
    Yields (fun _ => True) (expectBool name v) := by
  cases v with
  | integer n =>
      simp only [ArenaLisp.expectBool]
      split_ifs
      · exact .pure trivial
      · exact .pure trivial
      · exact .throw fun _ => trivial
  | _ => exact .throw fun _ => trivial

lemma Yields.expectNumbers (name : String) (vs : List Value) :
    Yields (fun _ => True) (expectNumbers name vs) := by
  induction vs with
  | nil => exact .pure trivial
  | cons v rest ih =>
      unfold ArenaLisp.expectNumbers
      split_ifs
      · exact ih
      · exact .unexpected _ _ _

lemma Yields.requireAll (vs : List Value) : Yields Value.Fits (requireAll vs) := by
  induction vs with
  | nil => exact .pure Value.fits_unit
  | cons v rest ih =>
      unfold ArenaLisp.requireAll
      split_ifs
      · exact ih
      · exact .throw fun _ => trivial

/-! ## The operations by their form -/

/-- Arguments whose integers and whose lengths fit a machine word. -/
def Tame (args : List Value) : Prop := ∀ arg ∈ args, arg.Fits ∧ arg.Short

/-- A value that fits if the arguments are tame. -/
abbrev FitsFor (args : List Value) (v : Value) : Prop := Tame args → v.Fits

/-- Texts fit, however many there are. -/
lemma Value.fits_texts {α : Type} (xs : List α) (f : α → String) :
    (Value.list (xs.map fun x => .string (f x))).Fits := by
  simp only [Value.fits_list, List.mem_map, forall_exists_index, and_imp]
  rintro _ x _ rfl
  exact Value.fits_string _

lemma Nullary.yields (op : Nullary) (env : Handle) : Yields Value.Fits (op.apply env) := by
  have hnames : ∀ names, (namesValue names).Fits := fun names => Value.fits_texts names id
  cases op with
  | readLine => exact Yields.readLine.bind fun line _ => .ofExcept (.lineValue line)
  | localNames =>
      refine (Yields.ofArena (·.localNames env) fun _ _ => ?_).bind fun names _ =>
        .pure (hnames names)
      exact Arena.localNames_error
  | allNames =>
      refine (Yields.ofArena (·.names env) fun _ _ => ?_).bind fun names _ => .pure (hnames names)
      exact Arena.namesAlong_error

lemma Unary.yields (op : Unary) (v : Value) : Yields (FitsFor [v]) (op.apply v) := by
  have htame : Tame [v] → v.Fits ∧ v.Short := fun h => h v (by simp)
  cases op with
  | not =>
      cases v with
      | integer n => exact .pure fun _ => Value.fits_ofBool _
      | _ => exact .unexpected _ _ _
  | car =>
      cases v with
      | list items =>
          cases items with
          | nil => exact .throw fun _ => trivial
          | cons first rest => exact .pure fun h => Value.fits_list.mp (htame h).1 first (by simp)
      | _ => exact .unexpected _ _ _
  | cdr =>
      cases v with
      | list items =>
          refine .pure fun h => Value.fits_list.mpr fun item hi => ?_
          exact Value.fits_list.mp (htame h).1 item (List.mem_of_mem_tail hi)
      | _ => exact .unexpected _ _ _
  | length =>
      cases v with
      | unit => exact .pure fun _ => by simp [FitsWord]
      | string text => exact .pure fun h => Value.fits_integer.mpr (fitsWord_natCast (htame h).2)
      | list items => exact .pure fun h => Value.fits_integer.mpr (fitsWord_natCast (htame h).2)
      | _ => exact .unexpected _ _ _
  | endp =>
      cases v with
      | list items => exact .pure fun _ => Value.fits_ofBool _
      | _ => exact .unexpected _ _ _
  | lines =>
      cases v with
      | string text => exact .pure fun _ => Value.fits_texts _ _
      | _ => exact .unexpected _ _ _
  | readFile =>
      cases v with
      | string path =>
          refine (Yields.readText path).bind fun found _ => ?_
          cases found with
          | ok text => exact .pure fun _ => Value.fits_string _
          | error problem => exact .throw fun _ => trivial
      | _ => exact .unexpected _ _ _
  | parseInt =>
      cases v with
      | integer n => exact .pure fun h => (htame h).1
      | string text => exact (Yields.readDecimal text).imp fun _ hv _ => hv
      | _ => exact .unexpected _ _ _
  | system =>
      cases v with
      | string command => exact (Yields.runCommand command).imp fun _ hv _ => hv
      | _ => exact .unexpected _ _ _
  | error =>
      cases v with
      | string text => exact .pure fun _ => Value.fits_error _
      | _ => exact .unexpected _ _ _

lemma Binary.yields (op : Binary) (a b : Value) : Yields (FitsFor [a, b]) (op.apply a b) := by
  cases op with
  | mod => exact (Yields.ofExcept (answers_arithmetic _ a b)).imp fun _ hv _ => hv
  | less | greater => exact (Yields.ofExcept (answers_compareIntegers _ a b)).imp fun _ hv _ => hv
  | equals => exact .pure fun _ => Value.fits_ofBool _
  | and | or =>
      refine (Yields.expectBool _ a).bind fun _ _ => ?_
      exact (Yields.expectBool _ b).bind fun _ _ => .pure fun _ => Value.fits_ofBool _
  | cons =>
      refine (Yields.expectList _ b).bind fun items hitems => .pure fun h => ?_
      subst hitems
      refine Value.fits_list.mpr (List.forall_mem_cons.mpr ⟨(h a (by simp)).1, ?_⟩)
      exact Value.fits_list.mp (h _ (by simp)).1
  | split =>
      refine (Yields.expectString _ a).bind fun text _ => ?_
      refine (Yields.expectString _ b).bind fun separator _ => ?_
      split_ifs
      · exact .throw fun _ => trivial
      · exact .pure fun _ => Value.fits_texts _ _
  | join =>
      refine (Yields.expectString _ a).bind fun separator _ => ?_
      refine (Yields.expectList _ b).bind fun items _ => ?_
      exact (Yields.expectStrings _ items).bind fun _ _ => .pure fun _ => Value.fits_string _
  | assertEqual =>
      simp only [Binary.apply]
      split_ifs
      · exact .pure fun _ => Value.fits_unit
      · exact .throw fun _ => trivial

lemma Value.fits_oneOrList (f : Value → String) (first : Value) (rest : List Value) :
    (oneOrList (fun v => .string (f v)) first rest).Fits := by
  cases rest with
  | nil => exact Value.fits_string _
  | cons next rest => exact Value.fits_texts (first :: next :: rest) f

lemma NonEmpty.yields (op : NonEmpty) (first : Value) (rest : List Value) :
    Yields (FitsFor (first :: rest)) (op.apply first rest) := by
  cases op with
  | fold op =>
      refine (Yields.expectNumbers _ _).bind fun _ _ => ?_
      exact (Yields.ofExcept (answers_foldArithmetic op rest first)).imp fun _ hv h =>
        hv (h first (by simp)).1
  | toText => exact .pure fun _ => Value.fits_oneOrList _ first rest
  | typeOf => exact .pure fun _ => Value.fits_oneOrList (·.kind.name) first rest

lemma Variadic.yields (op : Variadic) (args : List Value) :
    Yields (FitsFor args) (op.apply args) := by
  cases op with
  | list => exact .pure fun h => Value.fits_list.mpr fun arg ha => (h arg ha).1
  | last =>
      refine .pure fun h => ?_
      rcases List.eq_nil_or_concat args with rfl | ⟨init, last, rfl⟩
      · exact Value.fits_unit
      · rw [List.concat_eq_append, List.getLastD_concat]
        exact (h last (by simp)).1
  | concat => exact (Yields.expectStrings _ args).bind fun _ _ => .pure fun _ => Value.fits_string _
  | print => exact (Yields.print _).bind fun _ _ => .pure fun _ => Value.fits_unit
  | debug => exact (Yields.print _).bind fun _ _ => .pure fun _ => Value.fits_unit
  | assertAll => exact (Yields.requireAll args).imp fun _ hv _ => hv

/-- **What a builtin can come to.**  It leaves the arena alone and does not look at what was printed
before.  It comes to a value that fits if its arguments are tame, or to a fault that is foreseen. -/
theorem Builtin.yields (b : Builtin) (env : Handle) (args : List Value) :
    Yields (FitsFor args) (b.apply env args) := by
  obtain ⟨name, operation⟩ := b
  cases operation with
  | nullary op =>
      rcases args with _ | ⟨_, _⟩
      · exact (op.yields env).imp fun _ hv _ => hv
      · exact .throw fun _ => trivial
  | unary op =>
      rcases args with _ | ⟨v, _ | ⟨_, _⟩⟩
      · exact .throw fun _ => trivial
      · exact op.yields v
      · exact .throw fun _ => trivial
  | binary op =>
      rcases args with _ | ⟨v, _ | ⟨u, _ | ⟨_, _⟩⟩⟩
      · exact .throw fun _ => trivial
      · exact .throw fun _ => trivial
      · exact op.yields v u
      · exact .throw fun _ => trivial
  | nonEmpty op =>
      rcases args with _ | ⟨first, rest⟩
      · exact .throw fun _ => trivial
      · exact op.yields first rest
  | variadic op => exact op.yields args

end ArenaLisp
