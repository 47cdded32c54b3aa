import ArenaLisp.Proofs.Coupling

/-!
# Builtins and the handles of lambdas

A builtin leaves the arena alone, looks at no handle, and returns no lambda that it was not given.
All three are one comparison: the builtin applied to some values in one arena, and to the same
values with other handles in another arena from which the same names are visible.

* `World.Agree` — worlds that a script cannot tell apart by reading or printing.
* `Value.Kin`, `Quiet` — the comparison; both arenas stay as they are.
* `Value.Like` — the same for values of which only the lambdas with a handle matter.
* **`Builtin.kin`**, `Builtin.quiet` — every builtin keeps it up.
-/

namespace ArenaLisp

/-- Worlds with the same standard streams, files, variables and platform; arenas and traces may
differ. -/
structure World.Agree (w w' : World) : Prop where
  input : w'.input = w.input
  output : w'.output = w.output
  files : w'.files = w.files
  environ : w'.environ = w.environ
  platform : w'.platform = w.platform

lemma World.Agree.refl (w : World) : w.Agree w := ⟨rfl, rfl, rfl, rfl, rfl⟩

lemma World.Agree.symm {w w' : World} (h : w.Agree w') : w'.Agree w :=
  ⟨h.input.symm, h.output.symm, h.files.symm, h.environ.symm, h.platform.symm⟩

/-- Nor do arenas matter. -/
lemma World.Agree.withArena {w w' : World} (h : w.Agree w') (a a' : Arena) :
    (w.withArena a).Agree (w'.withArena a') :=
  ⟨h.input, h.output, h.files, h.environ, h.platform⟩

/-- Tracing a step changes nothing but the trace. -/
lemma World.Agree.trace {w w' : World} (h : w.Agree w') (tracer tracer' : Tracer)
    (message message' : Unit → String) :
    (w.trace tracer message).Agree (w'.trace tracer' message') := by
  unfold World.trace
  split <;> split <;> exact ⟨h.input, h.output, h.files, h.environ, h.platform⟩

/-- Values that differ in their handles only, as `f` changes them.  Every lambda with a handle has
the property `P`. -/
def Value.Like (f : Handle → Option Handle) (P : Closure → Prop) (v v' : Value) : Prop :=
  v' = v.rescope f ∧ ∀ c ∈ v.closures, P c

/-- Values that differ in their handles only, as `f` changes them.  Every lambda and every reference
in them has the property `Q`. -/
def Value.Kin (f : Handle → Option Handle) (Q : Value → Prop) (v v' : Value) : Prop :=
  v' = v.rescope f ∧ ∀ u ∈ v.callables, Q u

/-- Values whose handles are changed by `f`, in arenas that stay as they are.  A released scope is
met only in case `D`. -/
def Coupling.quiet (f : Handle → Option Handle) (P : Closure → Prop) (D : Prop) (a a' : Arena) :
    Coupling where
  Stage := Unit
  worlds _ w w' := w.arena = a ∧ w'.arena = a' ∧ w.Agree w'
  handles _ _ _ := True
  values _ := Value.Like f P
  faults e e' := e' = e.rescope f ∧ (e = .stray .releasedScope → D)
  passes _ _ _ _ := True
  passes_refl _ _ _ := trivial
  passes_trans _ _ := trivial
  handles_passes _ _ := trivial
  values_passes _ h := h

/-- Computations that leave both arenas alone and end alike. -/
abbrev Quiet (f : Handle → Option Handle) (P : Closure → Prop) (D : Prop) (a a' : Arena)
    (R : α → α → Prop) (x y : Run α) : Prop :=
  (Coupling.quiet f P D a a').Coupled 0 0 () (fun _ => R) x y

/-! ## Values that are alike -/

section Kin

variable {f : Handle → Option Handle} {P : Closure → Prop} {Q : Value → Prop}

/-- A value without handles is like itself. -/
lemma Value.like_plain {v : Value} (hf : v.rescope f = v) (hc : v.closures = []) :
    v.Like f P v :=
  ⟨hf.symm, by simp [hc]⟩

lemma Value.kin_iff_like {v v' : Value} :
    v.Kin f (fun u => ∀ c ∈ u.closures, P c) v' ↔ v.Like f P v' := by
  unfold Value.Kin Value.Like
  rw [Value.closures_eq_callables v]
  simp only [List.mem_flatMap, forall_exists_index, and_imp]
  exact and_congr_right fun _ => ⟨fun h c u hu hc => h u hu c hc, fun h u hu c hc => h c u hu hc⟩

/-- A value without lambdas and references is kin to itself. -/
lemma Value.kin_plain {v : Value} (hf : v.rescope f = v) (hc : v.callables = []) :
    v.Kin f Q v :=
  ⟨hf.symm, by simp [hc]⟩

lemma Value.forall₂_kin {items items' : List Value}
    (h : List.Forall₂ (Value.Kin f Q) items items') :
    items' = items.map (·.rescope f) ∧ ∀ v ∈ items, ∀ u ∈ v.callables, Q u := by
  induction h with
  | nil => simp
  | cons hv _ ih =>
      refine ⟨by rw [hv.1, ih.1, List.map_cons], ?_⟩
      simp only [List.mem_cons, forall_eq_or_imp]
      exact ⟨hv.2, ih.2⟩

lemma Value.kin_list {items items' : List Value}
    (h : List.Forall₂ (Value.Kin f Q) items items') :
    (Value.list items).Kin f Q (.list items') := by
  obtain ⟨rfl, hc⟩ := Value.forall₂_kin h
  refine ⟨by simp, ?_⟩
  simp only [Value.callables_list, List.mem_flatMap]
  rintro c ⟨v, hv, hcv⟩
  exact hc v hv c hcv

/-- The items of lists that are alike are alike. -/
lemma Value.Kin.items {items : List Value} {v' : Value} (h : (Value.list items).Kin f Q v') :
    ∃ items', v' = .list items' ∧ List.Forall₂ (Value.Kin f Q) items items' := by
  obtain ⟨rfl, hc⟩ := h
  refine ⟨items.map (·.rescope f), by simp, ?_⟩
  rw [List.forall₂_map_right_iff, List.forall₂_same]
  intro v hv
  refine ⟨rfl, fun c hcv => hc c ?_⟩
  rw [Value.callables_list, List.mem_flatMap]
  exact ⟨v, hv, hcv⟩

end Kin

/-! ## Arithmetic -/

/-- The outcome of an operation with the handles in it changed. -/
def rescoped (f : Handle → Option Handle) : Except Fault Value → Except Fault Value
  | .ok v => .ok (v.rescope f)
  | .error e => .error (e.rescope f)

section Arithmetic

variable (f : Handle → Option Handle)

lemma rescoped_word (name : String) (n : Int) : rescoped f (word name n) = word name n := by
  unfold word
  split
  · simp [rescoped]
  · rfl

lemma rescoped_onFloats (op : Operator) (x y : Float) :
    rescoped f ((op.onFloats x y).map .float) = (op.onFloats x y).map .float := by
  cases op with
  | mod =>
      simp only [Operator.onFloats]
      split <;> rfl
  | _ => rfl

/-- Promotion looks at numbers only, and its fault shows the operands as they were given. -/
lemma promote_rescope (name : String) (v v' : Value) :
    promote name (v.rescope f) (v'.rescope f) = (promote name v v').mapError (·.rescope f) := by
  cases v <;> cases v' <;> rfl

lemma arithmetic_rescope (op : Operator) (v v' : Value) :
    arithmetic op (v.rescope f) (v'.rescope f) = rescoped f (arithmetic op v v') := by
  unfold arithmetic
  rw [promote_rescope]
  cases promote op.name v v' with
  | error e => rfl
  | ok operands =>
      cases operands with
      | integers x y =>
          simp only [Except.mapError]
          split
          · rfl
          · rw [rescoped_word]
      | floats x y =>
          simp only [Except.mapError]
          split
          · rfl
          · rw [rescoped_onFloats]

lemma foldArithmetic_rescope (op : Operator) : ∀ (rest : List Value) (first : Value),
    foldArithmetic op (first.rescope f) (rest.map (·.rescope f)) =
      rescoped f (foldArithmetic op first rest) := by
  intro rest
  induction rest with
  | nil => exact fun _ => rfl
  | cons v rest ih =>
      intro first
      simp only [List.map_cons, foldArithmetic, arithmetic_rescope]
      cases arithmetic op first v with
      | error e => rfl
      | ok next => exact ih next

lemma compareIntegers_rescope (name : String) (v v' : Value) :
    compareIntegers name (v.rescope f) (v'.rescope f) = rescoped f (compareIntegers name v v') := by
  cases v <;> cases v' <;>
    simp only [compareIntegers, Value.rescope_integer, rescoped, Value.rescope_ofBool] <;> rfl

end Arithmetic

lemma callables_word {name : String} {n : Int} {v : Value} (h : word name n = .ok v) :
    v.callables = [] := by
  unfold word at h
  split at h
  · cases h
    simp
  · cases h

lemma callables_arithmetic {op : Operator} {v v' r : Value} (h : arithmetic op v v' = .ok r) :
    r.callables = [] := by
  unfold arithmetic at h
  split at h
  · cases h
  · split at h
    · cases h
    · exact callables_word h
  · split at h
    · cases h
    · cases hf : op.onFloats _ _ with
      | error e => rw [hf] at h; cases h
      | ok x =>
          rw [hf] at h
          cases h
          simp

/-- Folding returns the first operand or a number. -/
lemma callables_foldArithmetic {op : Operator} : ∀ {rest : List Value} {first r : Value},
    foldArithmetic op first rest = .ok r → ∀ c ∈ r.callables, c ∈ first.callables := by
  intro rest
  induction rest with
  | nil =>
      intro first r h
      cases h
      exact fun _ hc => hc
  | cons v rest ih =>
      intro first r h
      simp only [foldArithmetic] at h
      split at h
      · rename_i next hn
        intro c hc
        have hnext := ih h c hc
        rw [callables_arithmetic hn] at hnext
        exact absurd hnext (by simp)
      · cases h

lemma callables_compareIntegers {name : String} {v v' r : Value}
    (h : compareIntegers name v v' = .ok r) : r.callables = [] := by
  unfold compareIntegers at h
  split at h
  · cases h
    simp
  · cases h

/-! No operation on numbers meets a released scope. -/

lemma word_ne_released {name : String} {n : Int} :
    word name n ≠ .error (.stray .releasedScope) := by
  unfold word
  split <;> simp

lemma onFloats_ne_released {op : Operator} {x y : Float} :
    op.onFloats x y ≠ .error (.stray .releasedScope) := by
  cases op with
  | mod =>
      simp only [Operator.onFloats]
      split <;> simp
  | _ => simp [Operator.onFloats]

lemma arithmetic_ne_released {op : Operator} {v v' : Value} :
    arithmetic op v v' ≠ .error (.stray .releasedScope) := by
  unfold arithmetic
  split
  · rename_i e he
    unfold promote at he
    split at he <;> cases he
    simp
  · split
    · simp
    · exact word_ne_released
  · rename_i x y _
    split
    · simp
    · have hf := @onFloats_ne_released op x y
      cases h : op.onFloats x y with
      | error e => exact fun he => hf (by rw [h, (Except.error.inj he : e = _)])
      | ok z => simp [Except.map]

lemma foldArithmetic_ne_released {op : Operator} : ∀ {rest : List Value} {first : Value},
    foldArithmetic op first rest ≠ .error (.stray .releasedScope) := by
  intro rest
  induction rest with
  | nil => simp [foldArithmetic]
  | cons v rest ih =>
      intro first
      simp only [foldArithmetic]
      split
      · exact ih
      · rename_i e he
        exact fun h => arithmetic_ne_released (by rw [he, h])

lemma compareIntegers_ne_released {name : String} {v v' : Value} :
    compareIntegers name v v' ≠ .error (.stray .releasedScope) := by
  unfold compareIntegers
  split <;> simp

/-! ## Parts of operations -/

section Quiet

open Coupling

variable {f : Handle → Option Handle} {P : Closure → Prop} {Q : Value → Prop} {D : Prop}
  {a a' : Arena}

lemma Quiet.ok {R : α → α → Prop} {x y : α} {w w' : World} (ha : w.arena = a)
    (ha' : w'.arena = a') (hw : w.Agree w') (hxy : R x y) :
    (quiet f P D a a').Outcomes 0 0 () (fun _ => R) (.ok x w) (.ok y w') :=
  @Outcomes.ok (quiet f P D a a') _ _ 0 0 () _ () x y w w' trivial ⟨ha, ha', hw⟩ hxy

lemma Quiet.error {R : α → α → Prop} {e e' : Fault} {w w' : World} (ha : w.arena = a)
    (ha' : w'.arena = a') (hw : w.Agree w') (he : e' = e.rescope f)
    (hD : e = .stray .releasedScope → D) :
    (quiet f P D a a').Outcomes 0 0 () (fun _ => R) (.error e w) (.error e' w') :=
  @Outcomes.error (quiet f P D a a') _ _ 0 0 () _ () e e' w w' (Or.inl trivial) ⟨ha, ha', hw⟩ ⟨he, hD⟩

lemma Quiet.rescoped {r r' : Except Fault Value} (h : r' = ArenaLisp.rescoped f r)
    (hc : ∀ v, r = .ok v → ∀ u ∈ v.callables, Q u) (hr : r ≠ .error (.stray .releasedScope)) :
    Quiet f P D a a' (Value.Kin f Q) (Run.ofExcept r) (Run.ofExcept r') := by
  subst h
  cases r with
  | error e => exact .throw ⟨rfl, fun he => absurd (congrArg Except.error he) hr⟩
  | ok v => exact .pure ⟨rfl, hc v rfl⟩

lemma Quiet.unexpected {R : α → α → Prop} (name : String) (kinds : List Value.Kind) (v : Value) :
    Quiet f P D a a' R (unexpected name kinds v) (unexpected name kinds (v.rescope f)) :=
  .throw ⟨rfl, by simp⟩

lemma Quiet.wrongCount {R : α → α → Prop} (operation : Operation) (name : String)
    {args args' : List Value} (h : args.length = args'.length) :
    Quiet f P D a a' R (throw (.arity (operation.arity.fault name args.length)))
      (throw (.arity (operation.arity.fault name args'.length))) := by
  rw [h]
  exact .throw ⟨rfl, by simp⟩

lemma Quiet.expectString (name : String) {v v' : Value} (hv : v.Kin f Q v') :
    Quiet f P D a a' Eq (expectString name v) (expectString name v') := by
  obtain ⟨rfl, _⟩ := hv
  cases v with
  | string text =>
      rw [Value.rescope_string]
      exact .pure rfl
  | _ => exact Quiet.unexpected _ _ _

lemma Quiet.expectList (name : String) {v v' : Value} (hv : v.Kin f Q v') :
    Quiet f P D a a' (List.Forall₂ (Value.Kin f Q)) (expectList name v) (expectList name v') := by
  cases v with
  | list items =>
      obtain ⟨items', rfl, hi⟩ := hv.items
      exact .pure hi
  | _ =>
      obtain ⟨rfl, _⟩ := hv
      exact Quiet.unexpected _ _ _

lemma Quiet.expectStrings (name : String) {vs vs' : List Value}
    (h : List.Forall₂ (Value.Kin f Q) vs vs') :
    Quiet f P D a a' Eq (expectStrings name vs) (expectStrings name vs') := by
  induction h with
  | nil => exact .pure rfl
  | cons hv _ ih =>
      refine (Quiet.expectString name hv).bind fun _ text text' _ ht => ?_
      refine ih.bind fun _ texts texts' _ hts => ?_
      exact .pure (by rw [ht, hts])

lemma Quiet.expectBool (name : String) {v v' : Value} (hv : v.Kin f Q v') :
    Quiet f P D a a' Eq (expectBool name v) (expectBool name v') := by
  obtain ⟨rfl, _⟩ := hv
  cases v with
  | integer n =>
      rw [Value.rescope_integer]
      simp only [ArenaLisp.expectBool]
      split_ifs
      · exact .pure rfl
      · exact .pure rfl
      · exact .throw ⟨rfl, by simp⟩
  | _ => exact .throw ⟨rfl, by simp⟩

lemma Quiet.expectNumbers (name : String) {vs vs' : List Value}
    (h : List.Forall₂ (Value.Kin f Q) vs vs') :
    Quiet f P D a a' (fun _ _ => True) (expectNumbers name vs) (expectNumbers name vs') := by
  induction h with
  | nil => exact .pure trivial
  | @cons v _ vs vs' hv _ ih =>
      obtain ⟨rfl, _⟩ := hv
      have hn : (v.rescope f).isNumber = v.isNumber := by cases v <;> simp [Value.isNumber]
      unfold ArenaLisp.expectNumbers
      rw [hn]
      split_ifs
      · exact ih
      · exact Quiet.unexpected _ _ _

lemma Quiet.requireAll {vs vs' : List Value} (h : List.Forall₂ (Value.Kin f Q) vs vs') :
    Quiet f P D a a' (Value.Kin f Q) (requireAll vs) (requireAll vs') := by
  induction h with
  | nil => exact .pure (Value.kin_plain (by simp) (by simp))
  | @cons v _ vs vs' hv _ ih =>
      obtain ⟨rfl, _⟩ := hv
      unfold ArenaLisp.requireAll
      rw [Value.isYes_rescope]
      split_ifs
      · exact ih
      · exact .throw ⟨rfl, by simp⟩

/-! ## The outside -/

lemma Quiet.log (tracer : Tracer) (message message' : Unit → String) :
    Quiet f P D a a' (fun _ _ => True) (Run.log tracer message) (Run.log tracer message') := by
  rintro w w' ⟨ha, ha', hw⟩
  exact Quiet.ok ((w.trace_arena _ _).trans ha) ((w'.trace_arena _ _).trans ha')
    (hw.trace _ _ _ _) trivial

lemma Quiet.print (text : String) :
    Quiet f P D a a' (fun _ _ => True) (Run.print text) (Run.print text) := by
  rintro w w' ⟨ha, ha', hw⟩
  refine Quiet.ok ha ha' ⟨hw.input, ?_, hw.files, hw.environ, hw.platform⟩ trivial
  simp only [World.print, hw.output]

lemma Quiet.readLine : Quiet f P D a a' Eq Run.readLine Run.readLine := by
  rintro w w' ⟨ha, ha', hw⟩
  have hline : Run.readLine w' = .ok w.input.readLine.1
      { w' with input := w.input.readLine.2 } := by
    rw [← hw.input]
    rfl
  rw [hline]
  exact Quiet.ok ha ha' ⟨rfl, hw.output, hw.files, hw.environ, hw.platform⟩ rfl

lemma Quiet.readText (path : String) :
    Quiet f P D a a' Eq (Run.readText path) (Run.readText path) := by
  unfold Run.readText
  split_ifs
  · exact .throw ⟨rfl, by simp⟩
  · rintro w w' ⟨ha, ha', hw⟩
    exact Quiet.ok ha ha' hw (congrArg (·.readText path) hw.files.symm)

lemma Quiet.readSource (path : String) :
    Quiet f P D a a' Eq (readSource path) (readSource path) := by
  refine (Quiet.readText path).bind fun _ r r' _ heq => ?_
  subst heq
  cases r with
  | ok text => exact .pure rfl
  | error problem => exact .throw ⟨rfl, by simp⟩

lemma Quiet.localNames {h h' : Handle} (hn : a'.localNames h' = a.localNames h)
    (hD : ∀ e, a.localNames h = .error e → D) :
    Quiet f P D a a' Eq (Run.localNames h) (Run.localNames h') := by
  rintro w w' ⟨rfl, rfl, hw⟩
  show Outcomes _ _ _ _ _ (Run.ofExcept ((w.arena.localNames h).mapError .stray) w)
    (Run.ofExcept ((w'.arena.localNames h').mapError .stray) w')
  rw [hn]
  cases he : w.arena.localNames h with
  | error e => exact Quiet.error rfl rfl hw rfl fun _ => hD e he
  | ok names => exact Quiet.ok rfl rfl hw rfl

lemma Quiet.allNames {h h' : Handle} (hn : a'.names h' = a.names h)
    (hD : ∀ e, a.names h = .error e → D) :
    Quiet f P D a a' Eq (Run.allNames h) (Run.allNames h') := by
  rintro w w' ⟨rfl, rfl, hw⟩
  show Outcomes _ _ _ _ _ (Run.ofExcept ((w.arena.names h).mapError .stray) w)
    (Run.ofExcept ((w'.arena.names h').mapError .stray) w')
  rw [hn]
  cases he : w.arena.names h with
  | error e => exact Quiet.error rfl rfl hw rfl fun _ => hD e he
  | ok names => exact Quiet.ok rfl rfl hw rfl

/-- What a command line leaves behind is the same in worlds that agree. -/
lemma World.Agree.afterCommand {w w' : World} (h : w.Agree w') (c : CompletedProcess) :
    (w.afterCommand c).Agree (w'.afterCommand c) := by
  refine ⟨?_, h.output, rfl, h.environ, h.platform⟩
  simp only [World.afterCommand, h.input]

lemma outputValue_ne_released {output : List UInt8} :
    outputValue output ≠ .error (.stray .releasedScope) := by
  unfold outputValue
  split <;> simp

/-- The value that is made of an output is a text. -/
lemma outputValue_eq_string {output : List UInt8} {v : Value} (h : outputValue output = .ok v) :
    ∃ text, v = .string text := by
  unfold outputValue at h
  split at h
  · cases h
  · cases h
    exact ⟨_, rfl⟩

lemma rescoped_outputValue (output : List UInt8) :
    ArenaLisp.rescoped f (outputValue output) = outputValue output := by
  unfold outputValue
  split
  · rfl
  · simp [ArenaLisp.rescoped]

/-- A command line sees the standard input, the files and the variables, and changes the world
beyond the arena. -/
lemma Quiet.inShell (command : String) :
    Quiet f P D a a' (Value.Kin f Q) (inShell command) (inShell command) := by
  intro w w' hw
  obtain ⟨ha, ha', hagree⟩ := hw
  unfold ArenaLisp.inShell
  rw [hagree.platform, hagree.files, hagree.environ, hagree.input]
  cases w.platform.shell w.files w.environ w.input.supplies command with
  | error fault => exact Quiet.error ha ha' hagree rfl (by simp)
  | ok completed =>
      refine Quiet.rescoped (rescoped_outputValue _).symm (fun v hv => ?_) outputValue_ne_released
        _ _ ⟨ha, ha', hagree.afterCommand completed⟩
      obtain ⟨text, rfl⟩ := outputValue_eq_string hv
      simp

lemma Quiet.runCommand (command : String) :
    Quiet f P D a a' (Value.Kin f Q) (runCommand command) (runCommand command) := by
  refine (Quiet.log _ _ _).bind fun _ _ _ _ _ => ?_
  split_ifs
  · exact .throw ⟨rfl, by simp⟩
  · exact Quiet.inShell command

lemma Quiet.readDecimal (text : String) :
    Quiet f P D a a' (Value.Kin f Q) (readDecimal text) (readDecimal text) := by
  unfold ArenaLisp.readDecimal
  split
  · exact .throw ⟨rfl, by simp⟩
  · exact .throw ⟨rfl, by simp⟩
  · refine Quiet.rescoped (rescoped_word f _ _).symm (fun v hv => ?_) word_ne_released
    simp [callables_word hv]

/-! ## The operations by their form -/

/-- Only listing all visible names looks beyond the scope at hand. -/
lemma Nullary.quiet (op : Nullary) {h h' : Handle} (hl : a'.localNames h' = a.localNames h)
    (hn : op = .allNames → a'.names h' = a.names h)
    (hD : ∀ e, a.localNames h = .error e ∨ a.names h = .error e → D) :
    Quiet f P D a a' (Value.Kin f Q) (op.apply h) (op.apply h') := by
  have hnames : ∀ ns, (namesValue ns).Kin f Q (namesValue ns) := fun ns =>
    Value.kin_plain (by simp [namesValue]) (by simp [namesValue])
  cases op with
  | readLine =>
      refine Quiet.readLine.bind fun _ line line' _ heq => ?_
      subst heq
      match line with
      | .ok line => exact .pure (Value.kin_plain (by simp) (by simp))
      | .error (.refused fault) => exact .throw ⟨rfl, by simp⟩
      | .error (.notText problem) => exact .throw ⟨rfl, by simp [InputFault.stray]⟩
  | localNames =>
      refine (Quiet.localNames hl fun e he => hD e (Or.inl he)).bind fun _ ns ns' _ heq => ?_
      subst heq
      exact .pure (hnames ns)
  | allNames =>
      refine (Quiet.allNames (hn rfl) fun e he => hD e (Or.inr he)).bind fun _ ns ns' _ heq => ?_
      subst heq
      exact .pure (hnames ns)

/-- Only the operations on lists hand back what they were given. -/
lemma Unary.quiet (op : Unary) {v v' : Value} (hv : v.Kin f Q v') :
    Quiet f P D a a' (Value.Kin f Q) (op.apply v) (op.apply v') := by
  obtain ⟨rfl, hc⟩ := id hv
  cases op with
  | car =>
      cases v with
      | list items =>
          obtain ⟨items', heq, hi⟩ := hv.items
          rw [heq]
          cases hi with
          | nil => exact .throw ⟨rfl, by simp⟩
          | cons hfirst _ => exact .pure hfirst
      | _ => exact Quiet.unexpected _ _ _
  | cdr =>
      cases v with
      | list items =>
          obtain ⟨items', heq, hi⟩ := hv.items
          rw [heq]
          cases hi with
          | nil => exact .pure (Value.kin_list .nil)
          | cons _ hrest => exact .pure (Value.kin_list hrest)
      | _ => exact Quiet.unexpected _ _ _
  | length =>
      cases v with
      | unit | string => exact .pure (Value.kin_plain (by simp) (by simp))
      | list items =>
          obtain ⟨items', heq, hi⟩ := hv.items
          rw [heq]
          show Quiet f P D a a' _ (pure (Value.integer items.length))
            (pure (Value.integer items'.length))
          rw [hi.length_eq]
          exact .pure (Value.kin_plain (by simp) (by simp))
      | _ => exact Quiet.unexpected _ _ _
  | endp =>
      cases v with
      | list items =>
          obtain ⟨items', heq, hi⟩ := hv.items
          rw [heq]
          cases hi <;> exact .pure (Value.kin_plain (by simp) (by simp))
      | _ => exact Quiet.unexpected _ _ _
  | not =>
      cases v with
      | integer n => exact .pure (Value.kin_plain (by simp) (by simp))
      | _ => exact Quiet.unexpected _ _ _
  | lines =>
      cases v with
      | string text =>
          exact .pure (Value.kin_plain (by simp [linesValue]) (by simp [linesValue]))
      | _ => exact Quiet.unexpected _ _ _
  | readFile =>
      cases v with
      | string path =>
          refine (Quiet.readText path).bind fun _ r r' _ heq => ?_
          subst heq
          cases r with
          | ok text => exact .pure (Value.kin_plain (by simp) (by simp))
          | error problem => exact .throw ⟨rfl, by simp⟩
      | _ => exact Quiet.unexpected _ _ _
  | parseInt =>
      cases v with
      | integer n => exact .pure (Value.kin_plain (by simp) (by simp))
      | string text => exact Quiet.readDecimal text
      | _ => exact Quiet.unexpected _ _ _
  | system =>
      cases v with
      | string command => exact Quiet.runCommand command
      | _ => exact Quiet.unexpected _ _ _
  | error =>
      cases v with
      | string text => exact .pure (Value.kin_plain (by simp) (by simp))
      | _ => exact Quiet.unexpected _ _ _

lemma Binary.quiet (op : Binary) {v v' u u' : Value} (hv : v.Kin f Q v') (hu : u.Kin f Q u') :
    Quiet f P D a a' (Value.Kin f Q) (op.apply v u) (op.apply v' u') := by
  have hbool : ∀ b, (Value.ofBool b).Kin f Q (.ofBool b) := fun b =>
    Value.kin_plain (by simp) (by simp)
  cases op with
  | mod =>
      refine Quiet.rescoped ?_ (fun r hr => by simp [callables_arithmetic hr])
        arithmetic_ne_released
      rw [hv.1, hu.1, arithmetic_rescope]
  | less | greater =>
      refine Quiet.rescoped ?_ (fun r hr => by simp [callables_compareIntegers hr])
        compareIntegers_ne_released
      rw [hv.1, hu.1, compareIntegers_rescope]
  | equals =>
      rw [hv.1, hu.1]
      show Quiet f P D a a' _ (pure (Value.ofBool (v.same u)))
        (pure (Value.ofBool ((v.rescope f).same (u.rescope f))))
      rw [Value.same_rescope]
      exact .pure (hbool _)
  | assertEqual =>
      rw [hv.1, hu.1]
      simp only [Binary.apply, Value.same_rescope]
      split_ifs
      · exact .pure (Value.kin_plain (by simp) (by simp))
      · exact .throw ⟨rfl, by simp⟩
  | and | or =>
      refine (Quiet.expectBool _ hv).bind fun _ x x' _ hx => ?_
      refine (Quiet.expectBool _ hu).bind fun _ y y' _ hy => ?_
      subst hx hy
      exact .pure (hbool _)
  | cons =>
      refine (Quiet.expectList _ hu).bind fun _ items items' _ hi => ?_
      exact .pure (Value.kin_list (.cons hv hi))
  | split =>
      refine (Quiet.expectString _ hv).bind fun _ text text' _ ht => ?_
      refine (Quiet.expectString _ hu).bind fun _ sep sep' _ hs => ?_
      subst ht hs
      split_ifs
      · exact .throw ⟨rfl, by simp⟩
      · exact .pure (Value.kin_plain (by simp [splitValue]) (by simp [splitValue]))
  | join =>
      refine (Quiet.expectString _ hv).bind fun _ sep sep' _ hs => ?_
      refine (Quiet.expectList _ hu).bind fun _ items items' _ hi => ?_
      refine (Quiet.expectStrings _ hi).bind fun _ texts texts' _ ht => ?_
      subst hs ht
      exact .pure (Value.kin_plain (by simp) (by simp))

/-- A list of texts, or one text, made from values whatever their handles. -/
lemma Value.kin_oneOrList (g : Value → String) (hg : ∀ v : Value, g (v.rescope f) = g v)
    (first : Value) (rest : List Value) :
    (oneOrList (fun v => .string (g v)) first rest).Kin f Q
      (oneOrList (fun v => .string (g v)) (first.rescope f) (rest.map (·.rescope f))) := by
  cases rest with
  | nil => exact ⟨by simp [oneOrList, hg], by simp [oneOrList]⟩
  | cons v rest =>
      simp only [oneOrList, List.map_cons, List.map_map, Function.comp_def, hg]
      exact Value.kin_plain (by simp) (by simp)

lemma NonEmpty.quiet (op : NonEmpty) {v v' : Value} {vs vs' : List Value} (hv : v.Kin f Q v')
    (hvs : List.Forall₂ (Value.Kin f Q) vs vs') :
    Quiet f P D a a' (Value.Kin f Q) (op.apply v vs) (op.apply v' vs') := by
  obtain ⟨heq, _⟩ := Value.forall₂_kin hvs
  cases op with
  | fold op =>
      refine (Quiet.expectNumbers op.name (.cons hv hvs)).bind fun _ _ _ _ _ => ?_
      refine Quiet.rescoped ?_ (fun r hr c hc => hv.2 c (callables_foldArithmetic hr c hc))
        foldArithmetic_ne_released
      rw [heq, hv.1, foldArithmetic_rescope]
  | toText =>
      rw [heq, hv.1]
      exact .pure (Value.kin_oneOrList _ (Value.text_rescope f) v vs)
  | typeOf =>
      rw [heq, hv.1]
      exact .pure (Value.kin_oneOrList (·.kind.name) (fun u => by rw [Value.kind_rescope]) v vs)

lemma debugLines_rescope (vs : List Value) : ∀ n : Nat,
    debugLines n (vs.map (·.rescope f)) = debugLines n vs := by
  induction vs with
  | nil => exact fun _ => rfl
  | cons v rest ih =>
      intro n
      simp only [List.map_cons, debugLines, Value.describe_rescope, ih]

lemma Variadic.quiet (op : Variadic) {vs vs' : List Value}
    (hvs : List.Forall₂ (Value.Kin f Q) vs vs') :
    Quiet f P D a a' (Value.Kin f Q) (op.apply vs) (op.apply vs') := by
  have hunit : Value.unit.Kin f Q .unit := Value.kin_plain (by simp) (by simp)
  obtain ⟨heq, hc⟩ := Value.forall₂_kin hvs
  cases op with
  | list => exact .pure (Value.kin_list hvs)
  | last =>
      rw [heq]
      refine .pure ?_
      rcases List.eq_nil_or_concat vs with rfl | ⟨init, v, rfl⟩
      · exact hunit
      · simp only [List.concat_eq_append, List.map_append, List.map_cons, List.map_nil,
          List.getLastD_concat]
        exact ⟨rfl, hc v (by simp)⟩
  | concat =>
      refine (Quiet.expectStrings _ hvs).bind fun _ texts texts' _ ht => ?_
      subst ht
      exact .pure (Value.kin_plain (by simp) (by simp))
  | print =>
      have htext : vs'.map Value.text = vs.map Value.text := by
        rw [heq, List.map_map]
        exact List.map_congr_left fun v _ => Value.text_rescope f v
      simp only [Variadic.apply, htext]
      exact (Quiet.print _).bind fun _ _ _ _ _ => .pure hunit
  | debug =>
      simp only [Variadic.apply, heq, debugLines_rescope]
      exact (Quiet.print _).bind fun _ _ _ _ _ => .pure hunit
  | assertAll => exact Quiet.requireAll hvs

/-- **Builtins and handles.**  A builtin leaves the arena alone, does not depend on handles, and
returns no lambda and no reference that it was not given. -/
theorem Builtin.kin (b : Builtin) {h h' : Handle} {args args' : List Value}
    (hl : a'.localNames h' = a.localNames h)
    (hn : b.operation = .nullary .allNames → a'.names h' = a.names h)
    (hD : ∀ e, a.localNames h = .error e ∨ a.names h = .error e → D)
    (ha : List.Forall₂ (Value.Kin f Q) args args') :
    Quiet f P D a a' (Value.Kin f Q) (b.apply h args) (b.apply h' args') := by
  have hlen := ha.length_eq
  obtain ⟨name, operation⟩ := b
  cases operation with
  | variadic op => exact op.quiet ha
  | nullary op =>
      cases ha with
      | nil => exact op.quiet hl (fun hop => hn (congrArg _ hop)) hD
      | cons _ hrest => exact Quiet.wrongCount _ _ hlen
  | unary op =>
      match ha with
      | .nil => exact .throw ⟨rfl, by simp⟩
      | .cons hv .nil => exact op.quiet hv
      | .cons _ (.cons _ hrest) => exact Quiet.wrongCount _ _ hlen
  | binary op =>
      match ha with
      | .nil => exact .throw ⟨rfl, by simp⟩
      | .cons _ .nil => exact .throw ⟨rfl, by simp⟩
      | .cons hv (.cons hu .nil) => exact op.quiet hv hu
      | .cons _ (.cons _ (.cons _ hrest)) =>
          exact Quiet.wrongCount _ _ hlen
  | nonEmpty op =>
      cases ha with
      | nil => exact .throw ⟨rfl, by simp⟩
      | cons hv hvs => exact op.quiet hv hvs

/-- The same where only the lambdas with a handle matter. -/
theorem Builtin.quiet (b : Builtin) {h h' : Handle} {args args' : List Value}
    (hl : a'.localNames h' = a.localNames h) (hn : a'.names h' = a.names h)
    (hD : ∀ e, a.localNames h = .error e ∨ a.names h = .error e → D)
    (ha : List.Forall₂ (Value.Like f P) args args') :
    Quiet f P D a a' (Value.Like f P) (b.apply h args) (b.apply h' args') := by
  have hkin := ha.imp fun _ _ hv => Value.kin_iff_like.mpr hv
  intro w w' hw
  exact (Builtin.kin b hl (fun _ => hn) hD hkin w w' hw).imp fun _ _ _ hv =>
    Value.kin_iff_like.mp hv

end Quiet

end ArenaLisp
