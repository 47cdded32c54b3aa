import ArenaLisp.Proofs.Capture
import ArenaLisp.Proofs.Release

/-!
# Scripts that capture no names cannot tell the scopings apart

Under lexical scoping the frame of a call hangs below the scope its lambda was made in, under
dynamic scoping below the scope of the call.  The two arenas soon look nothing alike: not even the
number of scopes agrees, since only lexical scoping keeps frames.  What does agree is the frames of
the calls that are under way, one by one, and the root.  In a script without capture that is enough:
a parameter is only ever looked up in the frame at hand, and any other name is found in the root,
whatever lies in between.

* `Arena.Separates`, `Arena.Rooted.lookup_root` — names that only the root binds.
* `Twins` — entries of a table that stand for the same in both arenas.
* `Alongside` — the arenas of two runs, with the pairs of scopes that correspond.
* `Fits` — what is asked of the nodes that are evaluated.
* `Coupling.scoping` — the comparison of the two runs.
* **`scoping_unobservable`** — the two runs show the same.
-/

namespace ArenaLisp

/-- The settings with a scoping and no capability, on a stack of any size. -/
def Settings.plain (scoping : Scoping) (stack : Stack) : Settings :=
  ({ scoping, stack } : Settings).withCapabilities []

namespace Arena

/-! ## Names that only the root binds -/

/-- The root scope binds none of the names, and all other scopes bind nothing else. -/
def Separates (names : List String) (a : Arena) : Prop :=
  a.Entries fun i entry => (entry.1 ∈ names ↔ i ≠ 0)

variable {names : List String} {a : Arena}

lemma Separates.mem_iff (h : a.Separates names) {i : Nat} {sc : Scope} (hs : a.scope? i = some sc)
    {name : String} (hn : name ∈ sc.names) : name ∈ names ↔ i ≠ 0 := by
  obtain ⟨entry, he, rfl⟩ := List.mem_map.mp hn
  exact h i sc hs entry he

/-- Leaving a frame keeps an arena in order. -/
lemma Separates.leave (h : a.Separates names) (s : Settings) (k : Nat) :
    (a.leave s k).Separates names := by
  unfold Arena.leave
  split_ifs
  · exact Entries.release h k
  · exact h

lemma Rooted.leave (h : a.Rooted) (s : Settings) {k : Nat} (hk : 0 < k) : (a.leave s k).Rooted := by
  unfold Arena.leave
  split_ifs
  · exact h.release hk
  · exact h

/-- On the way to the root a name that no other scope binds is found in the root or nowhere.  The
induction is on the length of the way. -/
lemma lookupAlong_root (ha : a.Rooted) (hs : a.Separates names) {root : Scope} {name : String}
    (hroot : a.scope? 0 = some root) : ∀ (n : Nat) {i : Nat}, i < n → i < a.size →
      (i = 0 ∨ name ∉ names) → lookupAlong name (a.chainFrom n i) = .ok (root.get? name) := by
  intro n
  induction n with
  | zero =>
      intro i hn
      omega
  | succ n ih =>
      intro i hn hi hname
      rcases Nat.eq_zero_or_pos i with rfl | hpos
      · obtain ⟨sc, hsc, hparent⟩ := ha.root
        obtain rfl : root = sc := by rwa [hroot, Option.some.injEq] at hsc
        simp only [chainFrom, hroot, hparent, lookupAlong]
        cases root.get? name <;> rfl
      · obtain ⟨sc, hsc⟩ := exists_scope hi
        obtain ⟨p, hp, hparent⟩ := ha.parent hsc hpos
        have hnot : name ∉ names := hname.resolve_left (by omega)
        have hget : sc.get? name = none :=
          Ordered.get?_eq_none_iff.mpr fun hin => hnot ((hs.mem_iff hsc hin).mpr (by omega))
        simp only [chainFrom, hsc, hparent, lookupAlong, hget]
        exact ih (by omega) (by omega) (Or.inr hnot)

lemma Rooted.lookup_root (ha : a.Rooted) (hs : a.Separates names) {root : Scope} {name : String}
    (hroot : a.scope? 0 = some root) {i : Nat} (hi : i < a.size)
    (hname : i = 0 ∨ name ∉ names) : a.lookup i name = .ok (root.get? name) :=
  lookupAlong_root ha hs hroot _ (by omega) hi hname

/-- A name that the scope at hand binds is found there. -/
lemma lookup_own {i : Nat} {sc : Scope} {name : String} {binding : Binding}
    (hs : a.scope? i = some sc) (hb : sc.get? name = some binding) :
    a.lookup i name = .ok (some binding) := by
  simp only [lookup, chain, chainFrom, hs, lookupAlong, hb]

/-- The scope of a handle binds a name. -/
def Has (a : Arena) (i : Handle) (name : String) : Prop :=
  ∃ sc, a.scope? i = some sc ∧ name ∈ sc.names

lemma has_define {i : Nat} (hi : i < a.size) (name : String) (value : Value) :
    (a.define i name value).Has i name := by
  obtain ⟨sc, hs⟩ := exists_scope hi
  refine ⟨sc.insert name (.constant value), ?_, Ordered.mem_keys_put.mpr (Or.inl rfl)⟩
  rw [define, insert, scope?_update, if_pos rfl, hs]
  rfl

end Arena

/-- No evaluation takes a name away. -/
lemma Frame.has {s : Settings} {env : Handle} {a a' : Arena} (h : Frame s env a a') {i : Nat}
    {name : String} (hi : a.Has i name) : a'.Has i name := by
  obtain ⟨sc, hs, hn⟩ := hi
  by_cases he : i = env
  · subst he
    obtain ⟨sc', hs', hg⟩ := h.own sc hs
    exact ⟨sc', hs', hg.names.subset hn⟩
  · exact ⟨sc, by rw [h.others i (Arena.lt_size hs) he, hs], hn⟩

/-! ## Values that stand for the same -/

section Script

variable (script : List Node)

/-- What is asked of the lambdas and the references that a script meets: a lambda stems from a
lambda form of the script and holds on to a scope, and a reference can be followed from anywhere. -/
def Value.Callable (a : Arena) : Value → Prop
  | .lambda params body scope =>
    ⟨params, body⟩ ∈ Node.lambdas script ∧ ∃ i, scope = some i ∧ a.Holds i
  | .reference name => name ∉ Node.params script ∧ name ≠ "global-env"
  | _ => True

/-- Values that stand for the same: the second one is the first one without its handles. -/
def Value.Loosened (a : Arena) : Value → Value → Prop :=
  Value.Kin (fun _ => none) (Value.Callable script a)

/-- Entries of two tables that stand for the same. -/
inductive Twins (a : Arena) : String × Binding → String × Binding → Prop where
  | builtin {name : String} {b : Builtin} : name ∉ Node.params script →
      (b.operation = .nullary .allNames → name = "global-env") →
      Twins a (name, .builtin b) (name, .builtin b)
  | constant {name : String} {v v' : Value} :
      v.Loosened script a v' → Twins a (name, .constant v) (name, .constant v')

end Script

variable {script : List Node} {a a' : Arena}

lemma Value.Loosened.mono (hm : ∀ i, a.Holds i → a'.Holds i) {v v' : Value}
    (h : v.Loosened script a v') : v.Loosened script a' v' := by
  refine ⟨h.1, fun u hu => ?_⟩
  have hcall := h.2 u hu
  cases u with
  | lambda params body scope =>
      obtain ⟨hform, i, hi, hheld⟩ := hcall
      exact ⟨hform, i, hi, hm i hheld⟩
  | reference name => exact hcall
  | _ => trivial

namespace Twins

lemma mono (hm : ∀ i, a.Holds i → a'.Holds i) {e e' : String × Binding}
    (h : Twins script a e e') : Twins script a' e e' := by
  cases h with
  | builtin hname hall => exact .builtin hname hall
  | constant hv => exact .constant (hv.mono hm)

lemma name_eq {e e' : String × Binding} (h : Twins script a e e') : e'.1 = e.1 := by
  cases h <;> rfl

variable {t t' : Ordered String Binding}

lemma keys (h : List.Forall₂ (Twins script a) t t') : Ordered.keys t' = Ordered.keys t := by
  induction h with
  | nil => rfl
  | cons he _ ih => exact congrArg₂ List.cons he.name_eq ih

/-- A name stands for the same in both tables, or in neither for anything. -/
lemma get? (h : List.Forall₂ (Twins script a) t t') (name : String) :
    Option.Rel (fun b b' => Twins script a (name, b) (name, b')) (Ordered.get? name t)
      (Ordered.get? name t') := by
  induction h with
  | nil => exact .none
  | @cons e e' _ _ he _ ih =>
      obtain ⟨other, b⟩ := e
      obtain ⟨other', b'⟩ := e'
      obtain rfl : other' = other := he.name_eq
      by_cases hn : other' = name
      · subst hn
        simpa [Ordered.get?] using Option.Rel.some he
      · simpa [Ordered.get?, hn] using ih

lemma put (h : List.Forall₂ (Twins script a) t t') {name : String} {b b' : Binding}
    (hb : Twins script a (name, b) (name, b')) :
    List.Forall₂ (Twins script a) (Ordered.put name b t) (Ordered.put name b' t') := by
  induction h with
  | nil => exact .cons hb .nil
  | @cons e e' _ _ he hrest ih =>
      obtain ⟨other, old⟩ := e
      obtain ⟨other', old'⟩ := e'
      obtain rfl : other' = other := he.name_eq
      by_cases hn : other' = name
      · simpa [Ordered.put, hn] using ⟨hb, hrest⟩
      · simpa [Ordered.put, hn] using ⟨he, ih⟩

/-- Without handles the tables are the same. -/
lemma bare (h : List.Forall₂ (Twins script a) t t') :
    (t'.map fun entry => (entry.1, entry.2.bare)) = t.map fun entry => (entry.1, entry.2.bare) := by
  induction h with
  | nil => rfl
  | cons he _ ih =>
      rw [List.map_cons, List.map_cons, ih]
      cases he with
      | builtin => rfl
      | constant hv =>
          obtain ⟨rfl, -⟩ := hv
          simp [Binding.bare, Binding.rescope, Value.rescope_rescope]

end Twins

/-! ## Two arenas -/

/-- How far two runs have come: their arenas, and the pairs of scopes that correspond. -/
structure Sides where
  lexical : Arena
  dynamic : Arena
  frames : List (Handle × Handle)

/-- Both arenas are in order, and scopes that correspond hold the same. -/
structure Alongside (script : List Node) (κ : Sides) : Prop where
  rooted : κ.lexical.Rooted
  rooted' : κ.dynamic.Rooted
  separates : κ.lexical.Separates (Node.params script)
  separates' : κ.dynamic.Separates (Node.params script)
  root : (0, 0) ∈ κ.frames
  matched : ∀ p ∈ κ.frames, ∀ q ∈ κ.frames, (p.1 = q.1 ↔ p.2 = q.2)
  twins : ∀ p ∈ κ.frames, ∃ sc sc', κ.lexical.scope? p.1 = some sc ∧
    κ.dynamic.scope? p.2 = some sc' ∧
    List.Forall₂ (Twins script κ.lexical) sc.bindings sc'.bindings

/-- Seen from two scopes, a name stands for the same or for nothing. -/
def Sides.Resolves (script : List Node) (κ : Sides) (h h' : Handle) (name : String) : Prop :=
  ∃ found found', κ.lexical.lookup h name = .ok found ∧ κ.dynamic.lookup h' name = .ok found' ∧
    Option.Rel (fun b b' => Twins script κ.lexical (name, b) (name, b')) found found'

namespace Alongside

variable {κ : Sides} {h h' : Nat}

lemma lt_size (hA : Alongside script κ) (hp : (h, h') ∈ κ.frames) :
    h < κ.lexical.size ∧ h' < κ.dynamic.size := by
  obtain ⟨sc, sc', hs, hs', -⟩ := hA.twins _ hp
  exact ⟨Arena.lt_size hs, Arena.lt_size hs'⟩

lemma eq_zero_iff (hA : Alongside script κ) (hp : (h, h') ∈ κ.frames) : h = 0 ↔ h' = 0 :=
  hA.matched _ hp _ hA.root

lemma localNames (hA : Alongside script κ) (hp : (h, h') ∈ κ.frames) :
    κ.dynamic.localNames h' = κ.lexical.localNames h := by
  obtain ⟨sc, sc', hs, hs', ht⟩ := hA.twins _ hp
  simp only [Arena.localNames, hs, hs']
  exact congrArg Except.ok (Twins.keys ht)

/-- A name that is no parameter is found in the root from both sides. -/
lemma lookup_root (hA : Alongside script κ) (hp : (h, h') ∈ κ.frames) {name : String}
    (hname : h = 0 ∨ name ∉ Node.params script) : κ.Resolves script h h' name := by
  obtain ⟨hlt, hlt'⟩ := hA.lt_size hp
  obtain ⟨root, root', hr, hr', ht⟩ := hA.twins _ hA.root
  have hname' : h' = 0 ∨ name ∉ Node.params script := hname.imp_left (hA.eq_zero_iff hp).mp
  exact ⟨_, _, hA.rooted.lookup_root hA.separates hr hlt hname,
    hA.rooted'.lookup_root hA.separates' hr' hlt' hname', Twins.get? ht name⟩

/-- A name that the scope at hand binds is found there, on both sides. -/
lemma lookup_own (hA : Alongside script κ) (hp : (h, h') ∈ κ.frames) {name : String}
    (hname : κ.lexical.Has h name) : κ.Resolves script h h' name := by
  obtain ⟨sc, sc', hs, hs', ht⟩ := hA.twins _ hp
  obtain ⟨sc₁, hs₁, hn⟩ := hname
  obtain rfl : sc₁ = sc := by rwa [hs₁, Option.some.injEq] at hs
  have hrel : Option.Rel _ (sc₁.get? name) (sc'.get? name) := Twins.get? ht name
  cases hb : sc₁.get? name with
  | none => exact absurd hn (Ordered.get?_eq_none_iff.mp hb)
  | some b =>
      rw [hb] at hrel
      cases hb' : sc'.get? name with
      | none =>
          rw [hb'] at hrel
          cases hrel
      | some b' =>
          rw [hb'] at hrel
          exact ⟨_, _, Arena.lookup_own hs hb, Arena.lookup_own hs' hb', hrel⟩

/-! ### The operations on both arenas -/

/-- A frame is opened on both sides, below scopes that need not correspond. -/
lemma child (hA : Alongside script κ) {p p' : Nat} (hp : p < κ.lexical.size)
    (hp' : p' < κ.dynamic.size) :
    Alongside script ⟨κ.lexical.child p, κ.dynamic.child p',
      (κ.lexical.size, κ.dynamic.size) :: κ.frames⟩ where
  rooted := hA.rooted.child hp
  rooted' := hA.rooted'.child hp'
  separates := Arena.Entries.child hA.separates p
  separates' := Arena.Entries.child hA.separates' p'
  root := List.mem_cons_of_mem _ hA.root
  matched := by
    have hnew : ∀ q ∈ κ.frames, (κ.lexical.size = q.1 ↔ κ.dynamic.size = q.2) := fun q hq => by
      obtain ⟨hlt, hlt'⟩ := hA.lt_size hq
      omega
    intro q hq r hr
    rcases List.mem_cons.mp hq with rfl | hq <;> rcases List.mem_cons.mp hr with rfl | hr
    · simp
    · exact hnew r hr
    · rw [eq_comm, eq_comm (b := κ.dynamic.size)]
      exact hnew q hq
    · exact hA.matched q hq r hr
  twins := by
    intro q hq
    rcases List.mem_cons.mp hq with rfl | hq
    · -- the new scopes are empty, and their parents are of no account
      refine ⟨{ parent := some p }, { parent := some p' }, ?_, ?_, .nil⟩
      · rw [Arena.scope?_child, if_pos rfl]
      · rw [Arena.scope?_child, if_pos rfl]
    · obtain ⟨hlt, hlt'⟩ := hA.lt_size hq
      obtain ⟨sc, sc', hs, hs', ht⟩ := hA.twins q hq
      refine ⟨sc, sc', ?_, ?_, ht.imp fun _ _ => Twins.mono fun _ => Arena.holds_child.mpr⟩
      · rw [Arena.scope?_child_of_lt hlt, hs]
      · rw [Arena.scope?_child_of_lt hlt', hs']

/-- Parameters are bound in frames, all other names in the root. -/
lemma define (hA : Alongside script κ) (hp : (h, h') ∈ κ.frames) {name : String}
    (hname : name ∈ Node.params script ↔ h ≠ 0) {v v' : Value}
    (hv : v.Loosened script κ.lexical v') :
    Alongside script ⟨κ.lexical.define h name v, κ.dynamic.define h' name v', κ.frames⟩ where
  rooted := hA.rooted.define h name v
  rooted' := hA.rooted'.define h' name v'
  separates := Arena.Entries.insert hA.separates hname
  separates' := Arena.Entries.insert hA.separates' (by rwa [Ne, ← hA.eq_zero_iff hp])
  root := hA.root
  matched := hA.matched
  twins := by
    intro q hq
    have hm : ∀ i, κ.lexical.Holds i → (κ.lexical.define h name v).Holds i :=
      fun _ => Arena.holds_define.mpr
    obtain ⟨sc, sc', hs, hs', ht⟩ := hA.twins q hq
    have ht₁ := ht.imp fun _ _ => Twins.mono hm
    simp only [Arena.define, Arena.insert, Arena.scope?_update]
    -- two pairs agree on one side exactly if they agree on the other
    by_cases hqh : q.1 = h
    · have hqh' : q.2 = h' := (hA.matched q hq _ hp).mp hqh
      refine ⟨sc.insert name (.constant v), sc'.insert name (.constant v'), ?_, ?_, ?_⟩
      · rw [if_pos hqh, hs]
        rfl
      · rw [if_pos hqh', hs']
        rfl
      · exact Twins.put ht₁ (.constant (hv.mono hm))
    · have hqh' : q.2 ≠ h' := fun heq => hqh ((hA.matched q hq _ hp).mpr heq)
      exact ⟨sc, sc', by rw [if_neg hqh, hs], by rw [if_neg hqh', hs'], ht₁⟩

/-- Only lexical scoping marks scopes. -/
lemma capture (hA : Alongside script κ) (k : Handle) :
    Alongside script { κ with lexical := κ.lexical.capture k } where
  rooted := hA.rooted.capture k
  rooted' := hA.rooted'
  separates := Arena.Entries.capture hA.separates k
  separates' := hA.separates'
  root := hA.root
  matched := hA.matched
  twins := by
    intro q hq
    have hm : ∀ i, κ.lexical.Holds i → (κ.lexical.capture k).Holds i :=
      fun _ hi => Arena.holds_capture.mpr (Or.inr hi)
    obtain ⟨sc, sc', hs, hs', ht⟩ := hA.twins q hq
    have ht₁ := ht.imp fun _ _ => Twins.mono hm
    simp only [Arena.capture, Arena.scope?_update]
    by_cases hqk : q.1 = k
    · exact ⟨{ sc with captured := true }, sc', by rw [if_pos hqk, hs]; rfl, hs', ht₁⟩
    · exact ⟨sc, sc', by rw [if_neg hqk, hs], hs', ht₁⟩

/-- Scopes that are as they were still correspond. -/
lemma keeps (hA : Alongside script κ) {b b' : Arena} (hb : κ.lexical.Keeps b)
    (hb' : κ.dynamic.Keeps b') (hr : b.Rooted) (hr' : b'.Rooted)
    (hs : b.Separates (Node.params script)) (hs' : b'.Separates (Node.params script)) :
    Alongside script ⟨b, b', κ.frames⟩ where
  rooted := hr
  rooted' := hr'
  separates := hs
  separates' := hs'
  root := hA.root
  matched := hA.matched
  twins := by
    intro q hq
    obtain ⟨hlt, hlt'⟩ := hA.lt_size hq
    obtain ⟨sc, sc', hsc, hsc', ht⟩ := hA.twins q hq
    refine ⟨sc, sc', ?_, ?_, ht.imp fun _ _ => Twins.mono fun _ => hb.holds⟩
    · rw [hb q.1 hlt, hsc]
    · rw [hb' q.2 hlt', hsc']

end Alongside

/-! ## The nodes that are evaluated -/

/-- What is asked of a node that is met while a scope is at hand: it is no symbol that the scopings
could resolve differently, it defines no parameter and nothing outside the root, and the lambda
forms are those of the script. -/
structure Fits (script : List Node) (a : Arena) (h : Handle) (n : Node) : Prop where
  global : n.symbol? ≠ some "global-env"
  symbol : ∀ name, n.symbol? = some name → (h = 0 ∨ name ∉ Node.params script) ∨ a.Has h name
  target : ∀ name, n.target? = some name → h = 0 ∧ name ∉ Node.params script
  lambda : ∀ f, n.lambda? = some f → f ∈ Node.lambdas script

lemma Fits.mono {h : Handle} {n : Node} (hn : Fits script a h n)
    (hm : ∀ name, a.Has h name → a'.Has h name) : Fits script a' h n where
  global := hn.global
  symbol name hs := (hn.symbol name hs).imp_right (hm name)
  target := hn.target
  lambda := hn.lambda

/-- Names that are no parameters can be looked up from anywhere. -/
lemma Fits.of_free {name : String} (hname : name ∉ Node.params script) (hne : name ≠ "global-env")
    (h : Handle) : Fits script a h (.symbol name) where
  global := by simpa [Node.symbol?] using hne
  symbol _ hs := Or.inl (Or.inr (Option.some.inj hs ▸ hname))
  target _ ht := by cases ht
  lambda _ hf := by cases hf

namespace CaptureFree

lemma ne_global (hfree : CaptureFree script) {n : Node} (hn : n ∈ Node.partsAll script) :
    n.symbol? ≠ some "global-env" :=
  fun hs => hfree.global (List.mem_filterMap.mpr ⟨n, hn, hs⟩)

/-- The script itself is evaluated in the root. -/
lemma fits_root (hfree : CaptureFree script) {n : Node} (hn : n ∈ Node.outerAll script) :
    Fits script a 0 n where
  global := hfree.ne_global (Node.outer_subset_parts hn)
  symbol _ _ := Or.inl (Or.inl rfl)
  target name ht := ⟨rfl, fun hp => hfree.defined name hp n (Node.outer_subset_parts hn) ht⟩
  lambda _ hf := Node.mem_lambdas (Node.outer_subset_parts hn) hf

/-- The body of a lambda is evaluated in a frame that binds its parameters. -/
lemma fits_body (hfree : CaptureFree script) {f : LambdaForm} (hf : f ∈ Node.lambdas script)
    {h : Handle} (hbound : ∀ name ∈ f.params, a.Has h name) {n : Node}
    (hn : n ∈ Node.outerAll f.body) : Fits script a h n where
  global := hfree.ne_global (Node.body_parts hf (Node.outer_subset_parts hn))
  symbol name hs := by
    have hmem : name ∈ Node.symbols (Node.outerAll f.body) := List.mem_filterMap.mpr ⟨n, hn, hs⟩
    rcases hfree.captured f hf name hmem with hp | hp
    · exact Or.inr (hbound name hp)
    · exact Or.inl (Or.inr hp)
  target name ht := by
    have hnot := hfree.local_define f hf n (Node.outer_subset_parts hn)
    rw [Node.isDefine_of_target? ht] at hnot
    cases hnot
  lambda _ hg := Node.mem_lambdas (Node.body_parts hf (Node.outer_subset_parts hn)) hg

end CaptureFree

lemma Settings.form?_eq_lambda_iff {s : Settings} {name : String} :
    s.form? name = some .lambda ↔ name = "lambda" := by
  constructor
  · intro h
    unfold Settings.form? at h
    split at h <;> simp_all
  · rintro rfl
    rfl

lemma Settings.eq_define_of_form? {s : Settings} {name : String}
    (h : s.form? name = some .define) : name = "define" := by
  unfold Settings.form? at h
  split at h <;> simp_all

/-! ## The two runs -/

/-- A scope that is held when a frame is left is held afterwards. -/
lemma Frame.holds_leave {s : Settings} {p : Handle} (h : Frame s a.size (a.child p) a') {i : Nat}
    (hi : a'.Holds i) : (a'.leave s a.size).Holds i := by
  rcases h.spills.leave_cases with ⟨heq, hheld⟩ | ⟨heq, -, -⟩
  · rw [heq]
    exact Arena.holds_release.mpr ⟨hheld i hi, hi⟩
  · rwa [heq]

/-- A run under lexical scoping beside one under dynamic scoping.  While nodes are evaluated, the
scopes that correspond stay the same. -/
def Coupling.scoping (script : List Node) (stack : Stack) : Coupling where
  Stage := Sides
  worlds κ w w' := w.arena = κ.lexical ∧ w'.arena = κ.dynamic ∧ Alongside script κ ∧ w.Agree w'
  handles κ h h' := (h, h') ∈ κ.frames
  values κ := Value.Loosened script κ.lexical
  faults e e' := e'.bare = e.bare
  builtins b := b.operation ≠ .nullary .allNames
  forms κ h _ node := ∀ n ∈ node.within (Node.headed "lambda"), Fits script κ.lexical h n
  passes g g' κ κ' := κ'.frames = κ.frames ∧ Frame (.plain .lexical stack) g κ.lexical κ'.lexical ∧
    Frame (.plain .dynamic stack) g' κ.dynamic κ'.dynamic
  passes_refl _ _ _ := ⟨rfl, .refl _, .refl _⟩
  passes_trans h h' := ⟨h'.1.trans h.1, h.2.1.trans h'.2.1, h.2.2.trans h'.2.2⟩
  handles_passes hp h := hp.1 ▸ h
  values_passes hp h := h.mono fun _ => hp.2.1.holds
  forms_passes hp h := fun n hn => (h n hn).mono fun _ => hp.2.1.has
  spills g g' κ κ' := κ'.frames = κ.frames ∧ Spills (.plain .lexical stack) g κ.lexical κ'.lexical ∧
    Spills (.plain .dynamic stack) g' κ.dynamic κ'.dynamic
  spills_of_passes hp h := ⟨h.1.trans hp.1, h.2.1.of_frame hp.2.1, h.2.2.of_frame hp.2.2⟩

namespace Coupling

variable {α : Type} {g g' h h' : Handle} {κ : Sides} {stack : Stack}

lemma scoping_worlds_iff {w w' : World} : (scoping script stack).worlds κ w w' ↔
    w.arena = κ.lexical ∧ w'.arena = κ.dynamic ∧ Alongside script κ ∧ w.Agree w' :=
  Iff.rfl

/-- A computation that leaves both arenas alone passes no stage. -/
lemma scoping_of_quiet {R : α → α → Prop} {x y : Run α}
    (hq : Alongside script κ →
      Quiet (fun _ => none) (fun _ => True) True κ.lexical κ.dynamic R x y) :
    (scoping script stack).Coupled g g' κ (fun κ' u v => κ' = κ ∧ R u v) x y := by
  intro w w' hw
  obtain ⟨ha, ha', hA, hagree⟩ := scoping_worlds_iff.mp hw
  have hr := hq hA w w' ⟨ha, ha', hagree⟩
  have hp := (scoping script stack).passes_refl g g' κ
  generalize x w = r at hr ⊢
  generalize y w' = r' at hr ⊢
  cases hr with
  | ok _ hw₁ hR => exact .ok hp ⟨hw₁.1, hw₁.2.1, hA, hw₁.2.2⟩ ⟨rfl, hR⟩
  | error _ hw₁ he =>
      refine .error (Or.inl hp) ⟨hw₁.1, hw₁.2.1, hA, hw₁.2.2⟩ ?_
      obtain ⟨rfl, -⟩ := he
      exact Fault.bare_rescope _ _

lemma scoping_reference {name : String} (hname : name ∉ Node.params script)
    (hne : name ≠ "global-env") :
    (scoping script stack).values κ (.reference name) (.reference name) :=
  ⟨by simp, by simpa [Value.Callable] using ⟨hname, hne⟩⟩

/-- What a name is found to stand for.  A builtin that would list all names is not found. -/
lemma scoping_found {name : String} {found found' : Option Binding} (hne : name ≠ "global-env")
    (hrel : Option.Rel (fun b b' => Twins script κ.lexical (name, b) (name, b')) found found') :
    (scoping script stack).Found κ found found' ∧ ∀ b, found = some (.builtin b) →
      (scoping script stack).values κ (.reference name) (.reference name) := by
  cases hrel with
  | none => exact ⟨.none, by simp⟩
  | some ht =>
      cases ht with
      | builtin hname hall =>
          exact ⟨.some (.builtin fun hop => hne (hall hop)), fun _ _ => scoping_reference hname hne⟩
      | constant hv => exact ⟨.some (.constant hv), by simp⟩

lemma scoping_lookup {name : String} (hn : Fits script κ.lexical h (.symbol name))
    (hh : (scoping script stack).handles κ h h') :
    (scoping script stack).Coupled g g' κ (fun κ' found found' => (scoping script stack).Found κ' found found' ∧
        ∀ b, found = some (.builtin b) →
          (scoping script stack).values κ' (.reference name) (.reference name))
      (Run.lookup h name) (Run.lookup h' name) := by
  intro w w' hw
  obtain ⟨ha, ha', hA, hagree⟩ := scoping_worlds_iff.mp hw
  have hne : name ≠ "global-env" := by simpa [Node.symbol?] using hn.global
  obtain ⟨found, found', hl, hl', hrel⟩ :=
    (hn.symbol name rfl).elim (hA.lookup_root hh) (hA.lookup_own hh)
  rw [Run.lookup_eq, Run.lookup_eq, ha, ha', hl, hl']
  exact .ok ((scoping script stack).passes_refl g g' κ) ⟨ha, ha', hA, hagree⟩ (scoping_found hne hrel)

lemma scoping_define {name : String} {v v' : Value} (hh : (scoping script stack).handles κ h h')
    (hname : name ∈ Node.params script ↔ h ≠ 0) (hv : (scoping script stack).values κ v v') :
    (scoping script stack).Coupled h h' κ (fun κ' _ _ => κ'.lexical.Has h name) (Run.define h name v)
      (Run.define h' name v') := by
  intro w w' hw
  obtain ⟨ha, ha', hA, hagree⟩ := scoping_worlds_iff.mp hw
  obtain ⟨hlt, hlt'⟩ := hA.lt_size hh
  rw [Run.define_of_live (ha ▸ hlt), Run.define_of_live (ha' ▸ hlt'), ha, ha']
  let κ' : Sides := ⟨κ.lexical.define h name v, κ.dynamic.define h' name v', κ.frames⟩
  have hp : (scoping script stack).passes h h' κ κ' := ⟨rfl, Frame.define name v, Frame.define name v'⟩
  exact .ok hp ⟨rfl, rfl, hA.define hh hname hv, hagree.withArena _ _⟩
    (Arena.has_define hlt name v)

/-- Only lexical scoping marks the scope at hand. -/
lemma scoping_make {names : List String} {body : List Node}
    (hf : ⟨names, body⟩ ∈ Node.lambdas script) (hh : (scoping script stack).handles κ h h') :
    (scoping script stack).Coupled h h' κ (scoping script stack).values
      (makeLambda (.plain .lexical stack) names body h)
      (makeLambda (.plain .dynamic stack) names body h') := by
  intro w w' hw
  obtain ⟨ha, ha', hA, hagree⟩ := scoping_worlds_iff.mp hw
  obtain ⟨hlt, -⟩ := hA.lt_size hh
  have hlex : makeLambda (.plain .lexical stack) names body h w =
      .ok (.lambda names body (some h)) { w with arena := κ.lexical.capture h } := by
    rw [← ha]
    exact bind_of_ok (Run.capture_of_live (ha ▸ hlt))
  have hdyn : makeLambda (.plain .dynamic stack) names body h' w' =
      .ok (.lambda names body none) w' := rfl
  rw [hlex, hdyn]
  let κ' : Sides := { κ with lexical := κ.lexical.capture h }
  have hp : (scoping script stack).passes h h' κ κ' := ⟨rfl, Frame.capture rfl, Frame.refl _⟩
  have hheld : κ'.lexical.Holds h := Arena.holds_capture.mpr (Or.inl ⟨rfl, hlt⟩)
  refine .ok hp ⟨rfl, ha', hA.capture h, hagree.withArena _ _⟩ ?_
  exact ⟨by simp, by simpa [Value.Callable] using ⟨hf, hheld⟩⟩

/-- Parameters are bound one by one, and once bound stay bound. -/
lemma scoping_bindParams (hpos : h ≠ 0) : ∀ {params : List String} {args args' : List Value}
    {κ : Sides}, (∀ name ∈ params, name ∈ Node.params script) → params.length = args.length →
      (scoping script stack).handles κ h h' → List.Forall₂ ((scoping script stack).values κ) args args' →
      (scoping script stack).Coupled h h' κ (fun κ' _ _ => ∀ name ∈ params, κ'.lexical.Has h name)
        (bindParams h params args) (bindParams h' params args') := by
  intro params
  induction params with
  | nil => exact fun _ _ _ _ => .pure (by simp)
  | cons param params ih =>
      intro args args' κ hparams hlen hh ha
      cases ha with
      | nil => simp at hlen
      | cons hv hvs =>
          have hname : param ∈ Node.params script ↔ h ≠ 0 := by simp [hparams param (by simp), hpos]
          refine (scoping_define hh hname hv).bind fun κ₁ _ _ hp hbound => ?_
          have hrest := ih (fun name hn => hparams name (by simp [hn])) (Nat.succ.inj hlen)
            ((scoping script stack).handles_passes hp hh)
            (hvs.imp fun _ _ => (scoping script stack).values_passes hp)
          intro w w' hw
          refine (hrest w w' hw).imp_passes fun κ₂ _ _ hp₂ hall => ?_
          intro name hn
          rcases List.mem_cons.mp hn with rfl | hn
          · exact hp₂.2.1.has hbound
          · exact hall name hn

/-- Leaving frames that correspond, whatever happened in them: the frames that correspond are then
those from before the call again, which has kept them. -/
lemma scoping_leave {κ₂ : Sides} {p p' : Handle} {w w' : World} (hA : Alongside script κ)
    (hlex : Spills (.plain .lexical stack) κ.lexical.size (κ.lexical.child p) κ₂.lexical)
    (hdyn : Spills (.plain .dynamic stack) κ.dynamic.size (κ.dynamic.child p') κ₂.dynamic)
    (hw : (scoping script stack).worlds κ₂ w w') :
    let κ₃ : Sides := ⟨κ₂.lexical.leave (.plain .lexical stack) κ.lexical.size,
      κ₂.dynamic.leave (.plain .dynamic stack) κ.dynamic.size, κ.frames⟩
    (scoping script stack).worlds κ₃ (reclaimFrame (.plain .lexical stack) κ.lexical.size w)
      (reclaimFrame (.plain .dynamic stack) κ.dynamic.size w') := by
  obtain ⟨ha, ha', hA₂, hagree⟩ := scoping_worlds_iff.mp hw
  have hA₃ := hA.keeps hlex.leave_keeps hdyn.leave_keeps
    (hA₂.rooted.leave _ hA.rooted.size_pos) (hA₂.rooted'.leave _ hA.rooted'.size_pos)
    (hA₂.separates.leave _ _) (hA₂.separates'.leave _ _)
  have hagree₃ := (hagree.reclaimFrame (.plain .lexical stack) κ.lexical.size).symm.reclaimFrame
    (.plain .dynamic stack) κ.dynamic.size
  exact ⟨by rw [reclaimFrame_arena, ha], by rw [reclaimFrame_arena, ha'], hA₃, hagree₃.symm⟩

/-- Frames that correspond can be left. -/
lemma scoping_canLeave {κ₁ : Sides} {p p' : Handle} (hA : Alongside script κ)
    (hlex : κ₁.lexical = κ.lexical.child p) (hdyn : κ₁.dynamic = κ.dynamic.child p') :
    (scoping script stack).CanLeave (reclaimFrame (.plain .lexical stack) κ.lexical.size)
      (reclaimFrame (.plain .dynamic stack) κ.dynamic.size) κ.lexical.size κ.dynamic.size κ κ₁ where
  passed {κ₂ w w'} hp hw := by
    obtain ⟨-, hlex₂, hdyn₂⟩ := hp
    rw [hlex] at hlex₂
    rw [hdyn] at hdyn₂
    let κ₃ : Sides := ⟨κ₂.lexical.leave (.plain .lexical stack) κ.lexical.size,
      κ₂.dynamic.leave (.plain .dynamic stack) κ.dynamic.size, κ.frames⟩
    exact ⟨κ₃, fun g g' => ⟨rfl, hlex₂.leave.frame g, hdyn₂.leave.frame g'⟩,
      scoping_leave hA hlex₂.spills hdyn₂.spills hw,
      fun v v' hv => hv.mono fun _ => Frame.holds_leave hlex₂⟩
  spilled {κ₂ w w'} hs hw := by
    obtain ⟨-, hlex₂, hdyn₂⟩ := hs
    rw [hlex] at hlex₂
    rw [hdyn] at hdyn₂
    obtain ⟨a₁, hspares, hspilled⟩ := hlex₂.leave
    obtain ⟨a₁', hspares', hspilled'⟩ := hdyn₂.leave
    let κ₃ : Sides := ⟨κ₂.lexical.leave (.plain .lexical stack) κ.lexical.size,
      κ₂.dynamic.leave (.plain .dynamic stack) κ.dynamic.size, κ.frames⟩
    exact ⟨κ₃, fun g g' => ⟨rfl, ⟨a₁, hspares.frame g, hspilled⟩, a₁', hspares'.frame g',
      hspilled'⟩, scoping_leave hA hlex₂ hdyn₂ hw⟩

/-- A call: the frames correspond while it lasts.  Under lexical scoping its frame hangs below the
scope `p` that the lambda holds on to, under dynamic scoping below the scope of the call. -/
lemma scoping_call (hfree : CaptureFree script) {params : List String} {body : List Node}
    {p : Handle} {args args' : List Value} {w w' : World}
    (hform : ⟨params, body⟩ ∈ Node.lambdas script) (hheld : κ.lexical.Holds p)
    (hh : (scoping script stack).handles κ h h')
    (hargs : List.Forall₂ ((scoping script stack).values κ) args args')
    (hlen : params.length = args.length) (hw : (scoping script stack).worlds κ w w') :
    ∃ κ₁, (scoping script stack).handles κ₁ κ.lexical.size κ.dynamic.size ∧
      (scoping script stack).Outcomes κ.lexical.size κ.dynamic.size κ₁
        (fun κ₂ _ _ => ∀ node ∈ body,
          (scoping script stack).forms κ₂ κ.lexical.size κ.dynamic.size node)
        (bindParams κ.lexical.size params args (w.opened p))
        (bindParams κ.dynamic.size params args' (w'.opened h')) ∧
      κ₁.lexical = κ.lexical.child p ∧ κ₁.dynamic = κ.dynamic.child h' := by
  obtain ⟨ha, ha', hA, hagree⟩ := scoping_worlds_iff.mp hw
  obtain ⟨-, hlt'⟩ := hA.lt_size hh
  have hpos : κ.lexical.size ≠ 0 := Nat.ne_of_gt hA.rooted.size_pos
  let κ₁ : Sides := ⟨κ.lexical.child p, κ.dynamic.child h',
    (κ.lexical.size, κ.dynamic.size) :: κ.frames⟩
  have hw₁ : (scoping script stack).worlds κ₁ (w.opened p) (w'.opened h') :=
    ⟨by rw [World.opened_arena, ha], by rw [World.opened_arena, ha'],
      hA.child hheld.lt_size hlt', hagree.opened p h'⟩
  have hframe : (scoping script stack).handles κ₁ κ.lexical.size κ.dynamic.size := List.mem_cons_self
  have hargs₁ : List.Forall₂ ((scoping script stack).values κ₁) args args' :=
    hargs.imp fun _ _ hv => hv.mono fun _ => Arena.holds_child.mpr
  refine ⟨κ₁, hframe, ?_, rfl, rfl⟩
  refine (scoping_bindParams hpos (fun _ => Node.mem_params hform) hlen hframe hargs₁ _ _
    hw₁).imp fun κ₂ _ _ hbound node hnode n hn => ?_
  exact hfree.fits_body hform hbound (Node.mem_withinAll.mpr ⟨node, hnode, hn⟩)

/-- A node inside a list that is no lambda form is evaluated where the list is. -/
lemma scoping_item {name : String} {args : List Node} {node : Node} (hl : name ≠ "lambda")
    (hf : (scoping script stack).forms κ h h' (.list (.symbol name :: args)))
    (hn : node ∈ Node.symbol name :: args) : (scoping script stack).forms κ h h' node := by
  have hc : Node.headed "lambda" (.symbol name :: args) = false := by simpa [Node.headed] using hl
  exact fun n hin => hf n (Node.within_trans hin (Node.mem_within_item hc hn))

/-- The primitive steps keep up the comparison. -/
theorem scoping_rules (hfree : CaptureFree script) :
    (scoping script stack).Rules (.plain .lexical stack) (.plain .dynamic stack) reclaimFrame
      reclaimFrame where
  special _ := rfl
  stack := rfl
  unit _ := Value.kin_plain (by simp) (by simp)
  literal _ _ := Value.kin_plain (by simp) (by simp)
  shape hv := by rw [hv.1, Value.bare_rescope]
  head hd hf := by
    refine scoping_item ?_ hf List.mem_cons_self
    rintro rfl
    cases hd
  items hd hf _ hn := by
    refine scoping_item ?_ hf (List.mem_cons_of_mem _ hn)
    rintro rfl
    exact hd rfl
  -- without capabilities no further source is read
  parsed hcap := by cases hcap <;> contradiction
  fault _ := rfl
  notString form hv := by
    obtain ⟨rfl, -⟩ := hv
    exact Fault.bare_rescope _ (.eval (.formNotString form _))
  log tracer message := fun w w' hw =>
    (scoping_of_quiet (fun _ => Quiet.log tracer message message) w w' hw).imp
      fun _ _ _ _ => trivial
  source path _ := fun w w' hw =>
    (scoping_of_quiet (fun _ => Quiet.readSource path) w w' hw).imp fun _ _ _ h => h.2
  referred {_ _ _ name} hv := by
    obtain ⟨hname, hne⟩ : (Value.reference name).Callable script _ := hv.2 _ (by simp)
    intro n hn
    rw [Node.within, List.mem_singleton] at hn
    exact hn ▸ Fits.of_free hname hne _
  lookup hf hh := scoping_lookup (hf _ (Node.mem_within_self _)) hh
  define {_ _ _ _ _ head name rest} hd hf hh hv := by
    obtain rfl := Settings.eq_define_of_form? hd
    obtain ⟨rfl, hname⟩ := (hf _ (Node.mem_within_self _)).target name rfl
    intro w w' hw
    exact (scoping_define hh (by simp [hname]) hv w w' hw).imp fun _ _ _ _ => trivial
  make hd hf hp hh := by
    obtain rfl := Settings.form?_eq_lambda_iff.mp hd
    exact scoping_make ((hf _ (Node.mem_within_self _)).lambda _ (Node.lambda?_of_paramNames hp)) hh
  apply hb hh hargs := fun w w' hw => by
    refine (scoping_of_quiet (fun hA => Builtin.kin _ (hA.localNames hh)
      (fun hop => absurd hop hb) (fun _ _ => trivial) hargs) w w' hw).imp ?_
    rintro _ _ _ ⟨rfl, hv⟩
    exact hv
  call {κ _ _ params body scope _ _ _ w w'} hc hh hargs hlen hw := by
    obtain ⟨ha, ha', hA, -⟩ := scoping_worlds_iff.mp hw
    obtain ⟨hform, p, rfl, hheld⟩ : (Value.lambda params body scope).Callable script κ.lexical :=
      hc.2 _ (by simp)
    obtain ⟨κ₁, hframe, hbind, hlex, hdyn⟩ := scoping_call hfree hform hheld hh hargs hlen hw
    rw [ha, ha']
    exact ⟨κ₁, hframe, hbind, scoping_canLeave hA hlex hdyn⟩
  cramped {κ _ h' params body scope _ w w'} _ hc hh hw := by
    obtain ⟨ha, ha', hA, hagree⟩ := scoping_worlds_iff.mp hw
    obtain ⟨-, p, rfl, hheld⟩ : (Value.lambda params body scope).Callable script κ.lexical :=
      hc.2 _ (by simp)
    obtain ⟨-, hlt'⟩ := hA.lt_size hh
    have hspill : κ.lexical.Spilled (κ.lexical.child p) := Or.inr ⟨p, rfl⟩
    have hspill' : κ.dynamic.Spilled (κ.dynamic.child h') := Or.inr ⟨h', rfl⟩
    have hA₁ := hA.keeps hspill.keeps hspill'.keeps (hA.rooted.child hheld.lt_size)
      (hA.rooted'.child hlt') (hA.separates.child p) (hA.separates'.child h')
    refine ⟨⟨κ.lexical.child p, κ.dynamic.child h', κ.frames⟩, fun g g' =>
      ⟨rfl, ⟨_, .refl _, hspill⟩, _, .refl _, hspill'⟩, ?_⟩
    rw [ha, ha']
    exact ⟨rfl, rfl, hA₁, hagree.withArena _ _⟩

end Coupling

/-! ## Scripts that start with the library -/

lemma Library.allNames_name : ∀ b ∈ Library.builtins, b.operation = .nullary .allNames →
    b.name = "global-env" := by
  decide

/-- The names of the library are no parameters. -/
lemma CaptureFree.entries_default (hfree : CaptureFree script) :
    Arena.default.Entries fun i entry => i = 0 ∧ entry.1 ∉ Node.params script ∧
      Twins script Arena.default entry entry := by
  have hpi : "pi" ∈ Library.names := List.mem_append_left _ (by simp [Library.constants])
  have hbuiltin : ∀ b ∈ Library.builtins, b.name ∈ Library.names :=
    fun b hb => List.mem_append_right _ (List.mem_map_of_mem hb)
  refine Arena.entries_default.mono ?_
  rintro i entry ⟨hi, rfl | ⟨b, hb, rfl⟩⟩
  · refine ⟨hi, fun hp => hfree.library _ hp hpi, ?_⟩
    exact .constant (Value.kin_plain (by simp) (by simp))
  · have hnot : b.name ∉ Node.params script := fun hp => hfree.library _ hp (hbuiltin b hb)
    exact ⟨hi, hnot, .builtin hnot (Library.allNames_name b hb)⟩

/-- At the start there are only the two roots. -/
lemma CaptureFree.alongside_default (hfree : CaptureFree script) :
    Alongside script ⟨Arena.default, Arena.default, [(0, 0)]⟩ := by
  have hseparates : Arena.default.Separates (Node.params script) :=
    hfree.entries_default.mono fun i entry ⟨hi, hnot, _⟩ => by simp [hi, hnot]
  refine ⟨Arena.rooted_default, Arena.rooted_default, hseparates, hseparates, by simp, by simp, ?_⟩
  intro p hp
  obtain rfl : p = (0, 0) := by simpa using hp
  obtain ⟨root, hroot, -⟩ := Arena.rooted_default.root
  refine ⟨root, root, hroot, hroot, List.forall₂_same.mpr fun entry he => ?_⟩
  exact (hfree.entries_default 0 root hroot entry he).2.2

/-- Roots that correspond show the same bindings. -/
lemma Alongside.rootBindings {κ : Sides} (hA : Alongside script κ) {w w' : World}
    (hw : w.arena = κ.lexical) (hw' : w'.arena = κ.dynamic) :
    observe.rootBindings w' = observe.rootBindings w := by
  obtain ⟨root, root', hr, hr', ht⟩ := hA.twins _ hA.root
  unfold observe.rootBindings
  rw [hw, hw', hr, hr']
  exact congrArg some (Twins.bare ht)

/-- **Without capture the scopings cannot be told apart.**  Start with the library in the root
scope, whatever the files and the standard input are, and run a script that captures no names with
no capability granted.  Then lexical and dynamic scoping show the same: the same value or the same
fault, the same output, and the same bindings in the root scope.  This holds for every bound on
nesting and every stack. -/
theorem scoping_unobservable {source : String} {script : List Node}
    (hparse : parse source = .ok script) (hfree : CaptureFree script) (stack : Stack)
    (depth : Nat) (w : World) :
    let run (scoping : Scoping) :=
      runWith (evaluateWith (.plain scoping stack) reclaimFrame depth) source 0
        { w with arena := Arena.default }
    observe (run .dynamic) = observe (run .lexical) := by
  intro run
  have L : (Coupling.scoping script stack).Rules _ _ reclaimFrame reclaimFrame :=
    Coupling.scoping_rules hfree
  let κ : Sides := ⟨Arena.default, Arena.default, [(0, 0)]⟩
  have hforms : ∀ nodes, parse source = .ok nodes → ∀ node ∈ nodes,
      (Coupling.scoping script stack).forms κ 0 0 node := by
    intro nodes hnodes node hn n hin
    obtain rfl : script = nodes := Except.ok.inj (hparse.symm.trans hnodes)
    exact hfree.fits_root (Node.mem_withinAll.mpr ⟨node, hn, hin⟩)
  have hhandles : (Coupling.scoping script stack).handles κ 0 0 := List.mem_singleton.mpr rfl
  have hr : (Coupling.scoping script stack).Outcomes 0 0 κ (Coupling.scoping script stack).values
      (run .lexical) (run .dynamic) :=
    L.runWith (L.evaluateWith depth) hforms hhandles _ _
      ⟨rfl, rfl, hfree.alongside_default, .refl _⟩
  generalize run .lexical = r at hr ⊢
  generalize run .dynamic = r' at hr ⊢
  cases hr with
  | ok _ hw hv =>
      obtain ⟨ha, ha', hA, hagree⟩ := Coupling.scoping_worlds_iff.mp hw
      simp only [observe, L.shape hv, hagree.output, hA.rootBindings ha ha']
  | error _ hw he =>
      obtain ⟨ha, ha', hA, hagree⟩ := Coupling.scoping_worlds_iff.mp hw
      simp only [observe, show _ = _ from he, Fault.message_eq_of_bare he, hagree.output,
        hA.rootBindings ha ha']

/-- A lambda that applies another one twice, each with parameters of its own. -/
theorem scoping_unobservable_twice :
    let source := "(define twice (lambda (f x) (f (f x)))) (twice (lambda (n) (* n n)) 3)"
    ∃ script, parse source = .ok script ∧ CaptureFree script ∧
      ∀ (stack : Stack) (depth : Nat) (w : World),
      observe (runWith (evaluateWith (.plain .dynamic stack) reclaimFrame depth) source 0
        { w with arena := Arena.default }) =
      observe (runWith (evaluateWith (.plain .lexical stack) reclaimFrame depth) source 0
        { w with arena := Arena.default }) := by
  have hparse : parse "(define twice (lambda (f x) (f (f x)))) (twice (lambda (n) (* n n)) 3)" =
      .ok
        [.list [.symbol "define", .symbol "twice",
          .list [.symbol "lambda", .list [.symbol "f", .symbol "x"],
            .list [.symbol "f", .list [.symbol "f", .symbol "x"]]]],
         .list [.symbol "twice",
          .list [.symbol "lambda", .list [.symbol "n"],
            .list [.symbol "*", .symbol "n", .symbol "n"]],
          .literal (.integer 3)]] := rfl
  exact ⟨_, hparse, by decide, scoping_unobservable hparse (by decide)⟩

end ArenaLisp
