import ArenaLisp.Proofs.Discipline
import ArenaLisp.Proofs.Operations
import ArenaLisp.Proofs.RoundTrip

/-!
# Names spell themselves

The names that a script binds were read from a source: as symbols, or as the parameters of a lambda.
So each of them can be put into a source again, and is read as the symbol it came from.  In
particular a source that consists of a name in parentheses is a call of that name and nothing else,
whatever the name is.

* `Value.Readable` — values in which the parameters and bodies of lambdas can have been read.
* `Arena.Spelled` — arenas in which names spell themselves, and are bound once in a scope.
* `Discipline.spelled` — the discipline, with its laws.
* **`runSource_call`** — a name in parentheses is a call.
-/

namespace ArenaLisp

/-! ## Values that were read -/

lemma Node.readableAll_iff {nodes : List Node} :
    Node.ReadableAll nodes ↔ ∀ node ∈ nodes, node.Readable := by
  induction nodes with
  | nil => simp [Node.ReadableAll]
  | cons node rest ih => simp [Node.ReadableAll, ih]

namespace Value

/-- If the value is a lambda, its parameters and its body can have been read. -/
def ReadableLambda : Value → Prop
  | .lambda params body _ =>
    (∀ param ∈ params, (Node.symbol param).Readable) ∧ ∀ node ∈ body, node.Readable
  | _ => True

/-- Every lambda inside a value can have been read. -/
def Readable (v : Value) : Prop := ∀ u ∈ v.callables, u.ReadableLambda

lemma readable_lambda {params : List String} {body : List Node} {scope : Option Handle} :
    (Value.lambda params body scope).Readable ↔
      (∀ param ∈ params, (Node.symbol param).Readable) ∧ ∀ node ∈ body, node.Readable := by
  simp [Readable, ReadableLambda]

end Value

/-- What a builtin comes to holds no lambda that it was not given. -/
lemma Builtin.yields_readable (b : Builtin) (env : Handle) {args : List Value}
    (ha : ∀ arg ∈ args, arg.Readable) : Yields Value.Readable (b.apply env args) where
  comes w := by
    have hargs : List.Forall₂ (Value.Kin some Value.ReadableLambda) args args :=
      List.forall₂_same.mpr fun arg harg => ⟨(Value.rescope_some arg).symm, ha arg harg⟩
    have hkin := Builtin.kin (h := env) (P := fun _ => True) (D := True) b rfl (fun _ => rfl)
      (fun _ _ => trivial) hargs w w ⟨rfl, rfl, .refl w⟩
    have hcomes := (Builtin.yields b env args).comes w
    generalize b.apply env args w = r at hkin hcomes ⊢
    cases hcomes with
    | ok hw _ =>
        cases hkin with
        | ok _ _ hv => exact .ok hw hv.2
    | error hw hf => exact .error hw hf
  oblivious := (Builtin.yields b env args).oblivious

/-! ## Arenas -/

namespace Arena

variable {a : Arena}

/-- No scope binds a name twice. -/
def Distinct (a : Arena) : Prop := ∀ (i : Nat) (sc : Scope), a.scope? i = some sc → sc.names.Nodup

namespace Distinct

lemma fresh : fresh.Distinct := by
  intro i sc hs
  have hi : i < Arena.fresh.size := lt_size hs
  obtain rfl : i = 0 := by
    rw [size_fresh] at hi
    omega
  cases hs
  exact List.nodup_nil

lemma child (h : a.Distinct) (p : Handle) : (a.child p).Distinct := by
  intro i sc hs
  rw [scope?_child] at hs
  split_ifs at hs
  · cases hs
    exact List.nodup_nil
  · exact h i sc hs

lemma release (h : a.Distinct) (k : Handle) : (a.release k).Distinct := by
  intro i sc hs
  rw [scope?_release] at hs
  split_ifs at hs
  exact h i sc hs

lemma update (h : a.Distinct) (k : Handle) {f : Scope → Scope}
    (hf : ∀ sc, sc.names.Nodup → (f sc).names.Nodup) : (a.update k f).Distinct := by
  intro i sc hs
  rw [scope?_update] at hs
  split_ifs at hs
  · obtain ⟨old, ho, rfl⟩ := Option.map_eq_some_iff.mp hs
    exact hf old (h i old ho)
  · exact h i sc hs

lemma capture (h : a.Distinct) (k : Handle) : (a.capture k).Distinct := h.update k fun _ => id

lemma insert (h : a.Distinct) (k : Handle) (name : String) (binding : Binding) :
    (a.insert k name binding).Distinct :=
  h.update k fun _ => Ordered.nodup_keys_put

lemma register (k : Handle) (bs : List Builtin) :
    ∀ {a : Arena}, a.Distinct → (a.register k bs).Distinct := by
  induction bs with
  | nil => exact id
  | cons b rest ih => exact fun h => ih (h.insert k b.name (.builtin b))

end Distinct

/-- No scope binds a name twice.  All names below the root spell themselves, and what is bound to
them can have been read. -/
structure Spelled (a : Arena) : Prop where
  distinct : a.Distinct
  entries : a.Entries fun i entry =>
    (i ≠ 0 → (Node.symbol entry.1).Readable) ∧ ∀ v, entry.2 = .constant v → v.Readable

lemma Spelled.child (h : a.Spelled) (p : Handle) : (a.child p).Spelled :=
  ⟨h.distinct.child p, h.entries.child p⟩

/-- The names of a scope below the root. -/
lemma Spelled.localNames (h : a.Spelled) {i : Handle} (hi : i ≠ 0) {names : List String}
    (hl : a.localNames i = .ok names) :
    names.Nodup ∧ ∀ name ∈ names, (Node.symbol name).Readable := by
  unfold Arena.localNames at hl
  cases hs : a.scope? i with
  | none =>
      rw [hs] at hl
      cases hl
  | some sc =>
      rw [hs] at hl
      cases hl
      refine ⟨h.distinct i sc hs, fun name hn => ?_⟩
      obtain ⟨entry, he, rfl⟩ := List.mem_map.mp hn
      exact (h.entries i sc hs entry he).1 hi

end Arena

/-! ## The discipline -/

/-- Everything was read at some time. -/
def Discipline.spelled : Discipline where
  arenas := Arena.Spelled
  names name := (Node.symbol name).Readable
  values := Value.Readable
  nodes := Node.Readable
  granted _ := True

lemma Discipline.spelled_laws : Discipline.spelled.Laws where
  unit := by simp [Discipline.spelled, Value.Readable]
  reference name := by simp [Discipline.spelled, Value.Readable, Value.ReadableLambda]
  literal _ := by simp [Discipline.spelled, Value.Readable]
  lambda := Value.readable_lambda
  symbol h := h
  items h := Node.readableAll_iff.mp h
  parsed hp := Node.readableAll_iff.mp (readable_of_parse hp)
  apply ha := Builtin.yields_readable _ _ fun arg harg => (ha arg harg).1
  found ha hl := by
    obtain ⟨_, hentry⟩ := ha.entries.lookup hl
    exact hentry.2 _ rfl
  define h hn ha hv := by
    refine ⟨ha.distinct.insert h _ _, ha.entries.insert ⟨fun _ => hn, ?_⟩⟩
    rintro v ⟨⟩
    exact hv
  capture h ha := ⟨ha.distinct.capture h, ha.entries.capture h⟩
  child h ha := ha.child h
  release h ha := ⟨ha.distinct.release h, ha.entries.release h⟩

/-! ## Calls as sources -/

/-- A name in parentheses is read as a list with that symbol. -/
lemma parse_call {name : String} (h : (Node.symbol name).Readable) :
    parse ("(" ++ name ++ ")") = .ok [.list [.symbol name]] := by
  have hnodes : Node.ReadableAll [.list [.symbol name]] := ⟨⟨h, trivial⟩, trivial⟩
  simpa [Node.renderAll, Node.render, Node.againAll, Node.again] using parse_renderAll hnodes

/-- **A name in parentheses is a call**, unless it is the name of a special form. -/
theorem runSource_call {s : Settings} {depth : Nat} (hdepth : s.stack.depth = depth + 1)
    {name : String} (h : (Node.symbol name).Readable) (hform : s.form? name = none)
    (env : Handle) :
    runSource s ("(" ++ name ++ ")") env =
      evaluateCall s reclaimFrame depth (evaluateWith s reclaimFrame depth) name [] env := by
  simp only [runSource, evaluate, hdepth, runWith, parse_call h, evaluateBody, evaluateWith,
    evaluateNode, hform, bind_pure]

/-- On a stack that takes no evaluation nothing is called. -/
lemma runSource_call_of_empty {s : Settings} (hdepth : s.stack.depth = 0) {name : String}
    (h : (Node.symbol name).Readable) (env : Handle) :
    runSource s ("(" ++ name ++ ")") env = throw .recursionLimit := by
  simp only [runSource, evaluate, hdepth, runWith, parse_call h, evaluateBody, evaluateWith]
  rfl

end ArenaLisp
