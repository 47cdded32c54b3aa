import ArenaLisp.Fault.Wording
import ArenaLisp.Proofs.Scopes

/-!
# The scopes that values hold on to

Under lexical scoping a lambda carries the handle of the scope it was made in.  Nothing a script
can see depends on *which* handle that is: two values that differ only in the handles of their
lambdas are printed alike, described alike and compare as equal.  Changing the handles of a value
is therefore a renaming in the strict sense, and this file sets it up.

* `Closure`, `Value.closures` — the lambdas inside a value that carry a handle.
* `Value.callables` — all lambdas inside a value, and the references.
* `Value.rescope`, `Fault.rescope` — a value, or a fault, with its handles changed or dropped.
* `Value.bare` — a value without handles, which is what a script can observe of it.
* **`Value.same_rescope`**, `Value.text_rescope`, `Value.describe_rescope`,
  `Fault.message_rescope` — handles cannot be observed.
* `Arena.Entries`, `Arena.Binds` — a property of every entry of an arena, or of every lambda that is
  bound in it.
-/

namespace ArenaLisp

/-- A lambda that holds on to a scope. -/
structure Closure where
  params : List String
  body : List Node
  scope : Handle

namespace Value

/-! ## The closures of a value -/

mutual

/-- The lambdas inside a value that hold on to a scope. -/
def closures : Value → List Closure
  | .list items => closuresAll items
  | .lambda params body (some scope) => [⟨params, body, scope⟩]
  | _ => []

/-- The lambdas inside several values that hold on to a scope. -/
def closuresAll : List Value → List Closure
  | [] => []
  | v :: rest => closures v ++ closuresAll rest

end

lemma closuresAll_eq (vs : List Value) : closuresAll vs = vs.flatMap closures := by
  induction vs with
  | nil => rfl
  | cons v rest ih => rw [closuresAll, ih, List.flatMap_cons]

@[simp] lemma closures_list (items : List Value) :
    (Value.list items).closures = items.flatMap closures := by
  rw [closures, closuresAll_eq]

@[simp] lemma closures_unit : Value.unit.closures = [] := rfl
@[simp] lemma closures_string (t : String) : (Value.string t).closures = [] := rfl
@[simp] lemma closures_integer (n : Int) : (Value.integer n).closures = [] := rfl
@[simp] lemma closures_float (x : Float) : (Value.float x).closures = [] := rfl
@[simp] lemma closures_reference (n : String) : (Value.reference n).closures = [] := rfl
@[simp] lemma closures_error (m : String) : (Value.error m).closures = [] := rfl

lemma closures_lambda (params : List String) (body : List Node) (scope : Option Handle) :
    (Value.lambda params body scope).closures = (scope.map fun i => ⟨params, body, i⟩).toList := by
  cases scope <;> simp [closures]

@[simp] lemma closures_ofBool (b : Bool) : (Value.ofBool b).closures = [] := by
  cases b <;> simp [ofBool, yes, no]

@[simp] lemma closures_ofLiteral (l : Literal) : (Value.ofLiteral l).closures = [] := by
  cases l <;> simp [ofLiteral]

/-! ## The callable parts of a value -/

mutual

/-- The lambdas and the references inside a value. -/
def callables : Value → List Value
  | .list items => callablesAll items
  | .lambda params body scope => [.lambda params body scope]
  | .reference name => [.reference name]
  | _ => []

/-- The lambdas and the references inside several values. -/
def callablesAll : List Value → List Value
  | [] => []
  | v :: rest => callables v ++ callablesAll rest

end

lemma callablesAll_eq (vs : List Value) : callablesAll vs = vs.flatMap callables := by
  induction vs with
  | nil => rfl
  | cons v rest ih => rw [callablesAll, ih, List.flatMap_cons]

@[simp] lemma callables_list (items : List Value) :
    (Value.list items).callables = items.flatMap callables := by
  rw [callables, callablesAll_eq]

@[simp] lemma callables_lambda (params : List String) (body : List Node) (scope : Option Handle) :
    (Value.lambda params body scope).callables = [.lambda params body scope] := rfl

@[simp] lemma callables_reference (n : String) :
    (Value.reference n).callables = [.reference n] := rfl

@[simp] lemma callables_unit : Value.unit.callables = [] := rfl
@[simp] lemma callables_string (t : String) : (Value.string t).callables = [] := rfl
@[simp] lemma callables_integer (n : Int) : (Value.integer n).callables = [] := rfl
@[simp] lemma callables_float (x : Float) : (Value.float x).callables = [] := rfl
@[simp] lemma callables_error (m : String) : (Value.error m).callables = [] := rfl

@[simp] lemma callables_ofBool (b : Bool) : (Value.ofBool b).callables = [] := by
  cases b <;> simp [ofBool, yes, no]

@[simp] lemma callables_ofLiteral (l : Literal) : (Value.ofLiteral l).callables = [] := by
  cases l <;> simp [ofLiteral]

mutual

/-- What holds on to a scope is callable. -/
lemma closures_eq_callables : ∀ v : Value, v.closures = v.callables.flatMap closures
  | .list items => by rw [closures, callables, closuresAll_eq_callablesAll items]
  | .lambda params body scope => by simp
  | .unit | .string _ | .integer _ | .float _ | .reference _ | .error _ => by simp

lemma closuresAll_eq_callablesAll :
    ∀ vs : List Value, closuresAll vs = (callablesAll vs).flatMap closures
  | [] => rfl
  | v :: rest => by
      rw [closuresAll, callablesAll, List.flatMap_append, closures_eq_callables v,
        closuresAll_eq_callablesAll rest]

end

/-! ## Changing handles -/

mutual

/-- A value with the handle of each lambda changed, or dropped where there is no new one. -/
def rescope (f : Handle → Option Handle) : Value → Value
  | .list items => .list (rescopeAll f items)
  | .lambda params body scope => .lambda params body (scope.bind f)
  | v => v

/-- Several values with the handle of each lambda changed. -/
def rescopeAll (f : Handle → Option Handle) : List Value → List Value
  | [] => []
  | v :: rest => rescope f v :: rescopeAll f rest

end

lemma rescopeAll_eq (f : Handle → Option Handle) :
    ∀ vs : List Value, rescopeAll f vs = vs.map (rescope f)
  | [] => rfl
  | v :: rest => by rw [rescopeAll, rescopeAll_eq f rest, List.map_cons]

section

variable (f : Handle → Option Handle)

@[simp] lemma rescope_list (items : List Value) :
    (Value.list items).rescope f = .list (items.map (rescope f)) := by
  rw [rescope, rescopeAll_eq]

@[simp] lemma rescope_lambda (params : List String) (body : List Node) (scope : Option Handle) :
    (Value.lambda params body scope).rescope f = .lambda params body (scope.bind f) := rfl

@[simp] lemma rescope_unit : Value.unit.rescope f = .unit := rfl
@[simp] lemma rescope_string (t : String) : (Value.string t).rescope f = .string t := rfl
@[simp] lemma rescope_integer (n : Int) : (Value.integer n).rescope f = .integer n := rfl
@[simp] lemma rescope_float (x : Float) : (Value.float x).rescope f = .float x := rfl
@[simp] lemma rescope_reference (n : String) : (Value.reference n).rescope f = .reference n := rfl
@[simp] lemma rescope_error (m : String) : (Value.error m).rescope f = .error m := rfl

@[simp] lemma rescope_ofBool (b : Bool) : (Value.ofBool b).rescope f = .ofBool b := by
  cases b <;> simp [ofBool, yes, no]

@[simp] lemma rescope_ofLiteral (l : Literal) : (Value.ofLiteral l).rescope f = .ofLiteral l := by
  cases l <;> simp [ofLiteral]

end

/-- A value without handles: what a script can observe of it. -/
def bare (v : Value) : Value := v.rescope fun _ => none

mutual

/-- Changing handles twice is changing them once. -/
theorem rescope_rescope (f g : Handle → Option Handle) :
    ∀ v : Value, (v.rescope f).rescope g = v.rescope fun i => (f i).bind g
  | .list items => by
      rw [rescope, rescope, rescope, rescopeAll_rescopeAll f g items]
  | .lambda params body scope => by cases scope <;> simp
  | .unit | .string _ | .integer _ | .float _ | .reference _ | .error _ => by simp

theorem rescopeAll_rescopeAll (f g : Handle → Option Handle) :
    ∀ vs : List Value, rescopeAll g (rescopeAll f vs) = rescopeAll (fun i => (f i).bind g) vs
  | [] => rfl
  | v :: rest => by
      rw [rescopeAll, rescopeAll, rescopeAll, rescope_rescope f g v,
        rescopeAll_rescopeAll f g rest]

end

@[simp] lemma bare_rescope (f : Handle → Option Handle) (v : Value) :
    (v.rescope f).bare = v.bare := by
  rw [bare, rescope_rescope, bare]
  congr 1
  funext i
  cases f i <;> rfl

mutual

/-- Only the handles that occur in a value matter for changing them. -/
theorem rescope_congr {f g : Handle → Option Handle} :
    ∀ {v : Value}, (∀ c ∈ v.closures, f c.scope = g c.scope) → v.rescope f = v.rescope g
  | .list items, h => by
      rw [closures] at h
      rw [rescope, rescope, rescopeAll_congr h]
  | .lambda params body none, _ => by simp
  | .lambda params body (some scope), h => by
      have hs := h ⟨params, body, scope⟩ (by simp [closures])
      simpa using hs
  | .unit, _ | .string _, _ | .integer _, _ | .float _, _ | .reference _, _ | .error _, _ => by
      simp

theorem rescopeAll_congr {f g : Handle → Option Handle} :
    ∀ {vs : List Value}, (∀ c ∈ closuresAll vs, f c.scope = g c.scope) →
      rescopeAll f vs = rescopeAll g vs
  | [], _ => rfl
  | v :: rest, h => by
      simp only [closuresAll, List.mem_append] at h
      rw [rescopeAll, rescopeAll, rescope_congr fun c hc => h c (Or.inl hc),
        rescopeAll_congr fun c hc => h c (Or.inr hc)]

end

mutual

/-- Keeping every handle changes nothing. -/
theorem rescope_some : ∀ v : Value, v.rescope some = v
  | .list items => by rw [rescope, rescopeAll_some items]
  | .lambda params body scope => by cases scope <;> simp
  | .unit | .string _ | .integer _ | .float _ | .reference _ | .error _ => by simp

theorem rescopeAll_some : ∀ vs : List Value, rescopeAll some vs = vs
  | [] => rfl
  | v :: rest => by rw [rescopeAll, rescope_some v, rescopeAll_some rest]

end

/-! ## Handles cannot be observed -/

@[simp] lemma kind_rescope (f : Handle → Option Handle) (v : Value) :
    (v.rescope f).kind = v.kind := by
  cases v <;> simp [kind]

mutual

/-- Equality does not look at handles. -/
theorem same_rescope (f g : Handle → Option Handle) :
    ∀ v v' : Value, (v.rescope f).same (v'.rescope g) = v.same v'
  | .list items, v' => by
      cases v' with
      | list items' =>
          rw [rescope, rescope, same, same, sameAll_rescope f g items items']
      | _ => simp [same]
  | .lambda params body scope, v' => by cases v' <;> simp [same]
  | .unit, v' | .string _, v' | .integer _, v' | .float _, v' | .reference _, v'
  | .error _, v' => by cases v' <;> simp [same]

theorem sameAll_rescope (f g : Handle → Option Handle) :
    ∀ vs vs' : List Value, sameAll (rescopeAll f vs) (rescopeAll g vs') = sameAll vs vs'
  | [], [] => rfl
  | [], _ :: _ => by simp [rescopeAll, sameAll]
  | _ :: _, [] => by simp [rescopeAll, sameAll]
  | v :: rest, v' :: rest' => by
      rw [rescopeAll, rescopeAll, sameAll, sameAll, same_rescope f g v v',
        sameAll_rescope f g rest rest']

end

@[simp] lemma isYes_rescope (f : Handle → Option Handle) (v : Value) :
    (v.rescope f).isYes = v.isYes := by
  have h := same_rescope f f v yes
  rwa [show yes.rescope f = yes from rescope_integer f 1] at h

mutual

/-- The printed text does not show handles. -/
theorem text_rescope (f : Handle → Option Handle) : ∀ v : Value, (v.rescope f).text = v.text
  | .list items => by rw [rescope, text, text, textAll_rescope f items]
  | .lambda params body scope => by simp [text]
  | .unit | .string _ | .integer _ | .float _ | .reference _ | .error _ => by simp

theorem textAll_rescope (f : Handle → Option Handle) :
    ∀ vs : List Value, textAll (rescopeAll f vs) = textAll vs
  | [] => rfl
  | [v] => by simp only [rescopeAll, textAll, text_rescope f v]
  | v :: v' :: rest => by
      have ih := textAll_rescope f (v' :: rest)
      simp only [rescopeAll] at ih
      simp only [rescopeAll, textAll, text_rescope f v, ih]

end

mutual

/-- The description does not show handles. -/
theorem describe_rescope (f : Handle → Option Handle) :
    ∀ v : Value, (v.rescope f).describe = v.describe
  | .list items => by
      show "List(items=" ++ tuple (describeAll (rescopeAll f items)) ++ ")"
        = "List(items=" ++ tuple (describeAll items) ++ ")"
      rw [describeAll_rescope f items]
  | .lambda params body scope => by
      rw [rescope_lambda]
      rfl
  | .unit | .string _ | .integer _ | .float _ | .reference _ | .error _ => by simp

theorem describeAll_rescope (f : Handle → Option Handle) :
    ∀ vs : List Value, describeAll (rescopeAll f vs) = describeAll vs
  | [] => rfl
  | v :: rest => by
      show describe (rescope f v) :: describeAll (rescopeAll f rest)
        = describe v :: describeAll rest
      rw [describe_rescope f v, describeAll_rescope f rest]

end

attribute [simp] text_rescope describe_rescope same_rescope

end Value

/-! ## Faults -/

/-- A fault of evaluation with the handles of the value it shows changed. -/
def EvalFault.rescope (f : Handle → Option Handle) : EvalFault → EvalFault
  | .formNotString form value => .formNotString form (value.rescope f)
  | fault => fault

/-- A fault of a binding with the handles of the values it shows changed. -/
def BindingFault.rescope (f : Handle → Option Handle) : BindingFault → BindingFault
  | .notNumbers name a b => .notNumbers name (a.rescope f) (b.rescope f)
  | .divisionByZero name a b => .divisionByZero name (a.rescope f) (b.rescope f)
  | .notIntegers name a b => .notIntegers name (a.rescope f) (b.rescope f)
  | .unexpectedKind name expected value => .unexpectedKind name expected (value.rescope f)
  | .notBoolean name value => .notBoolean name (value.rescope f)
  | .assertionFailed value => .assertionFailed (value.rescope f)
  | .assertionUnequal a b => .assertionUnequal (a.rescope f) (b.rescope f)
  | fault => fault

namespace Fault

/-- A fault with the handles of the values it shows changed. -/
def rescope (f : Handle → Option Handle) : Fault → Fault
  | .eval fault => .eval (fault.rescope f)
  | .binding fault => .binding (fault.rescope f)
  | fault => fault

/-- A fault without handles: what a script, and whoever runs it, can observe of it. -/
def bare (fault : Fault) : Fault := fault.rescope fun _ => none

@[simp] lemma bare_rescope (f : Handle → Option Handle) (fault : Fault) :
    (fault.rescope f).bare = fault.bare := by
  have hv : ∀ v : Value, (v.rescope f).rescope (fun _ => none) = v.rescope fun _ => none :=
    Value.bare_rescope f
  cases fault with
  | eval e => cases e <;> simp [bare, rescope, EvalFault.rescope, hv]
  | binding e => cases e <;> simp [bare, rescope, BindingFault.rescope, hv]
  | _ => rfl

/-- A fault is worded alike whatever the handles in it. -/
lemma diagnostic?_rescope (f : Handle → Option Handle) (fault : Fault) :
    (fault.rescope f).diagnostic? = fault.diagnostic? := by
  cases fault with
  | eval e => cases e <;> simp [rescope, EvalFault.rescope, diagnostic?, EvalFault.parts]
  | binding e => cases e <;> simp [rescope, BindingFault.rescope, diagnostic?, BindingFault.parts]
  | _ => rfl

lemma stray?_rescope (f : Handle → Option Handle) (fault : Fault) :
    (fault.rescope f).stray? = fault.stray? := by
  cases fault <;> rfl

@[simp] lemma message_rescope (f : Handle → Option Handle) (fault : Fault) :
    (fault.rescope f).message = fault.message := by
  simp only [message, diagnostic?_rescope, stray?_rescope]

/-- What can be observed of a fault determines its message. -/
lemma message_eq_of_bare {fault fault' : Fault} (h : fault'.bare = fault.bare) :
    fault'.message = fault.message := by
  rw [← message_rescope (fun _ => none) fault', ← message_rescope (fun _ => none) fault]
  exact congrArg message h

end Fault

/-! ## Scopes and arenas -/

/-- A binding with the handles of its value changed. -/
def Binding.rescope (f : Handle → Option Handle) : Binding → Binding
  | .builtin b => .builtin b
  | .constant value => .constant (value.rescope f)

/-- A binding without handles. -/
def Binding.bare (binding : Binding) : Binding := binding.rescope fun _ => none

@[simp] lemma Binding.bare_rescope (f : Handle → Option Handle) (binding : Binding) :
    (binding.rescope f).bare = binding.bare := by
  cases binding with
  | builtin b => rfl
  | constant v => exact congrArg Binding.constant (Value.bare_rescope f v)

@[simp] lemma Binding.rescope_some (binding : Binding) : binding.rescope some = binding := by
  cases binding with
  | builtin b => rfl
  | constant v => exact congrArg Binding.constant (Value.rescope_some v)

/-- The lambdas inside the value of a binding that hold on to a scope. -/
def Binding.closures : Binding → List Closure
  | .builtin _ => []
  | .constant value => value.closures

namespace Arena

/-- Every entry of every scope has a property, which may depend on the index of the scope. -/
def Entries (E : Handle → String × Binding → Prop) (a : Arena) : Prop :=
  ∀ (i : Nat) (sc : Scope), a.scope? i = some sc → ∀ entry ∈ sc.bindings, E i entry

namespace Entries

variable {E E' : Handle → String × Binding → Prop} {a : Arena}

lemma mono (h : a.Entries E) (hE : ∀ i entry, E i entry → E' i entry) : a.Entries E' :=
  fun i sc hs entry he => hE i entry (h i sc hs entry he)

lemma fresh : fresh.Entries E := by
  intro i sc hs entry he
  have hi : i = 0 := by
    have hlt : i < Arena.fresh.size := lt_size hs
    rw [size_fresh] at hlt
    omega
  subst hi
  cases hs
  exact absurd he List.not_mem_nil

lemma child (h : a.Entries E) (p : Nat) : (a.child p).Entries E := by
  intro i sc hs entry he
  rw [scope?_child] at hs
  split_ifs at hs with hi
  · cases hs
    simp at he
  · exact h i sc hs entry he

lemma release (h : a.Entries E) (k : Nat) : (a.release k).Entries E := by
  intro i sc hs entry he
  rw [scope?_release] at hs
  split_ifs at hs with hi
  exact h i sc hs entry he

lemma capture (h : a.Entries E) (k : Nat) : (a.capture k).Entries E := by
  intro i sc hs entry he
  rw [Arena.capture, scope?_update] at hs
  split_ifs at hs with hi
  · obtain ⟨old, ho, rfl⟩ := Option.map_eq_some_iff.mp hs
    exact h i old ho entry he
  · exact h i sc hs entry he

lemma insert (h : a.Entries E) {k : Nat} {name : String} {binding : Binding}
    (hb : E k (name, binding)) : (a.insert k name binding).Entries E := by
  intro i sc hs entry he
  rw [Arena.insert, scope?_update] at hs
  split_ifs at hs with hi
  · subst hi
    obtain ⟨old, ho, rfl⟩ := Option.map_eq_some_iff.mp hs
    rcases Ordered.mem_put he with rfl | he
    · exact hb
    · exact h i old ho entry he
  · exact h i sc hs entry he

lemma register {k : Nat} : ∀ {bs : List Builtin} {a : Arena},
    (∀ b ∈ bs, E k (b.name, .builtin b)) → a.Entries E → (a.register k bs).Entries E := by
  intro bs
  induction bs with
  | nil => exact fun _ h => h
  | cons b rest ih =>
      intro a hbs h
      exact ih (fun b' hb' => hbs b' (by simp [hb'])) (h.insert (hbs b (by simp)))

end Entries

/-- Every lambda bound in the arena that holds on to a scope has a property. -/
def Binds (P : Closure → Prop) (a : Arena) : Prop :=
  ∀ (i : Nat) (sc : Scope), a.scope? i = some sc →
    ∀ entry ∈ sc.bindings, ∀ c ∈ entry.2.closures, P c

namespace Binds

variable {P Q : Closure → Prop} {a : Arena}

lemma entries_iff : a.Binds P ↔ a.Entries fun _ entry => ∀ c ∈ entry.2.closures, P c := Iff.rfl

lemma mono (h : a.Binds P) (hPQ : ∀ c, P c → Q c) : a.Binds Q :=
  (entries_iff.mp h).mono fun _ _ hP c hc => hPQ c (hP c hc)

lemma child (h : a.Binds P) (p : Nat) : (a.child p).Binds P := (entries_iff.mp h).child p

lemma release (h : a.Binds P) (f : Nat) : (a.release f).Binds P := (entries_iff.mp h).release f

lemma capture (h : a.Binds P) (k : Nat) : (a.capture k).Binds P := (entries_iff.mp h).capture k

lemma define (h : a.Binds P) (k : Nat) (name : String) {value : Value}
    (hv : ∀ c ∈ value.closures, P c) : (a.define k name value).Binds P :=
  (entries_iff.mp h).insert (show ∀ c ∈ (Binding.constant value).closures, P c from hv)

end Binds

/-! ## The arena a script starts with -/

lemma Rooted.register (bs : List Builtin) (h : Nat) :
    ∀ {a : Arena}, a.Rooted → (a.register h bs).Rooted := by
  induction bs with
  | nil => exact id
  | cons b rest ih =>
      intro a ha
      exact ih (ha.insert h b.name (.builtin b))

lemma rooted_default : default.Rooted :=
  Rooted.register _ 0 (rooted_fresh.define 0 "pi" (.float Library.pi))

/-- At the start the root scope holds the library and nothing else. -/
lemma entries_default : default.Entries fun i entry => i = 0 ∧
    (entry = ("pi", .constant (.float Library.pi)) ∨
      ∃ b ∈ Library.builtins, entry = (b.name, .builtin b)) :=
  Entries.register (fun b hb => ⟨rfl, Or.inr ⟨b, hb, rfl⟩⟩)
    (Entries.fresh.insert ⟨rfl, Or.inl rfl⟩)

/-- No lambda is bound at the start. -/
lemma binds_default (P : Closure → Prop) : default.Binds P := by
  refine Binds.entries_iff.mpr (entries_default.mono ?_)
  rintro _ _ ⟨-, rfl | ⟨b, -, rfl⟩⟩ <;> simp [Binding.closures]

end Arena

end ArenaLisp
