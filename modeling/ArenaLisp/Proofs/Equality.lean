import ArenaLisp.Library
import ArenaLisp.Proofs.RoundTrip

/-!
# Equality of values

Values are compared by their structure, through lists and through the bodies of lambdas.  Two things
are not compared: the scope that a lambda was made in, and the sign of a zero.  One thing is never
equal, not even to itself: what is not a number.  So the comparison is an equivalence, except that
it is reflexive only where there is no NaN.

That it is symmetric and transitive is seen at once from a second description.  A value has a
*canonical form*, in which the scopes of lambdas are forgotten and zeros are positive, and two values
without NaN are equal exactly if they have the same one.

* `Node.Alike` — structural equality of nodes.
* `Value.floats`, `Value.NaNFree` — the floats that occur in a value.
* `Value.canonical`, `Value.same_iff` — equality through canonical forms.
* **`equals_structural`** — what the builtin for equality decides.
-/

namespace ArenaLisp

open Decimal

/-! ## Numbers -/

/-- One of the doubles that are the same number: of the two zeros the positive one. -/
def Decimal.representative (x : Float) : Float := if isZero x then 0.0 else x

lemma Decimal.sameNumber_iff {x y : Float} :
    sameNumber x y = true ↔
      (x.isNaN = false ∧ y.isNaN = false) ∧ representative x = representative y := by
  have hzero : isZero 0.0 = true := by decide
  simp only [sameNumber, representative, Bool.and_eq_true, Bool.or_eq_true, Bool.not_eq_true',
    decide_eq_true_eq]
  refine and_congr_right fun _ => ⟨?_, fun h => ?_⟩
  · rintro (rfl | ⟨hx, hy⟩)
    · rfl
    · rw [if_pos hx, if_pos hy]
  · split_ifs at h with hx hy hy
    · exact Or.inr ⟨hx, hy⟩
    · exact absurd (h ▸ hzero) hy
    · exact absurd (h ▸ hzero) hx
    · exact Or.inl h

/-! ## Nodes -/

/-- Equality of literals: the same kind and the same text or number.  Floats are compared as the
floating-point standard has it. -/
inductive Literal.Alike : Literal → Literal → Prop where
  | string (text : String) : Literal.Alike (.string text) (.string text)
  | integer (n : Int) : Literal.Alike (.integer n) (.integer n)
  | float {x y : Float} : (x == y) = true → Literal.Alike (.float x) (.float y)

/-- **Structural equality of nodes**: the same shape, with the same symbols and equal literals. -/
inductive Node.Alike : Node → Node → Prop where
  | list {items others : List Node} :
      List.Forall₂ Node.Alike items others → Node.Alike (.list items) (.list others)
  | symbol (name : String) : Node.Alike (.symbol name) (.symbol name)
  | literal {l m : Literal} : l.Alike m → Node.Alike (.literal l) (.literal m)

/-- A node in which every float is a number. -/
def Node.NaNFree (node : Node) : Prop := ∀ x ∈ node.floats, x.isNaN = false

/-- A literal with its zeros positive. -/
def Literal.canonical : Literal → Literal
  | .float x => .float (representative x)
  | l => l

mutual

/-- A node with its zeros positive. -/
def Node.canonical : Node → Node
  | .list items => .list (Node.canonicalAll items)
  | .symbol name => .symbol name
  | .literal l => .literal l.canonical

/-- Several nodes with their zeros positive. -/
def Node.canonicalAll : List Node → List Node
  | [] => []
  | node :: rest => node.canonical :: Node.canonicalAll rest

end

lemma Literal.same_iff_alike {l m : Literal} : l.same m = true ↔ l.Alike m := by
  constructor
  · intro h
    cases l <;> cases m <;> simp only [Literal.same, decide_eq_true_eq, Bool.false_eq_true] at h
    case string.string => exact h ▸ .string _
    case integer.integer => exact h ▸ .integer _
    case float.float => exact .float (Double.sameNumber_eq_beq .. ▸ h)
  · rintro (_ | _ | h)
    · simp [Literal.same]
    · simp [Literal.same]
    · rwa [Literal.same, Double.sameNumber_eq_beq]

mutual

/-- Comparing nodes decides structural equality. -/
lemma Node.same_iff_alike : ∀ a b : Node, a.same b = true ↔ a.Alike b
  | .list items, b => by
      cases b with
      | list others =>
          rw [Node.same, Node.sameAll_iff_alike items others]
          exact ⟨.list, fun | .list h => h⟩
      | _ => exact iff_of_false (by simp [Node.same]) nofun
  | .symbol name, b => by
      cases b with
      | symbol other =>
          rw [Node.same, decide_eq_true_iff]
          exact ⟨fun h => h ▸ .symbol name, fun | .symbol _ => rfl⟩
      | _ => exact iff_of_false (by simp [Node.same]) nofun
  | .literal l, b => by
      cases b with
      | literal m =>
          rw [Node.same, Literal.same_iff_alike]
          exact ⟨.literal, fun | .literal h => h⟩
      | _ => exact iff_of_false (by simp [Node.same]) nofun

lemma Node.sameAll_iff_alike : ∀ as bs : List Node,
    Node.sameAll as bs = true ↔ List.Forall₂ Node.Alike as bs
  | [], [] => by simp [Node.sameAll]
  | [], _ :: _ => by simp [Node.sameAll]
  | _ :: _, [] => by simp [Node.sameAll]
  | a :: as, b :: bs => by
      rw [Node.sameAll, Bool.and_eq_true, Node.same_iff_alike a b, Node.sameAll_iff_alike as bs,
        List.forall₂_cons]

end

lemma Literal.same_iff (l m : Literal) :
    l.same m = true ↔
      ((Node.literal l).NaNFree ∧ (Node.literal m).NaNFree) ∧ l.canonical = m.canonical := by
  cases l <;> cases m <;>
    simp [Literal.same, Node.NaNFree, Node.floats, Literal.canonical, sameNumber_iff]

mutual

/-- Nodes are the same if they hold no NaN and have the same canonical form. -/
lemma Node.same_iff : ∀ a b : Node,
    a.same b = true ↔ (a.NaNFree ∧ b.NaNFree) ∧ a.canonical = b.canonical
  | .list items, b => by
      cases b with
      | list others =>
          rw [Node.same, Node.sameAll_iff items others]
          simp [Node.NaNFree, Node.floats, Node.canonical]
      | _ => simp [Node.same, Node.canonical]
  | .symbol name, b => by
      cases b with
      | symbol other => simp [Node.same, Node.NaNFree, Node.floats, Node.canonical]
      | _ => simp [Node.same, Node.canonical]
  | .literal l, b => by
      cases b with
      | literal m =>
          rw [Node.same, Literal.same_iff]
          simp [Node.canonical]
      | _ => simp [Node.same, Node.canonical]

lemma Node.sameAll_iff : ∀ as bs : List Node,
    Node.sameAll as bs = true ↔
      ((∀ x ∈ Node.floatsAll as, x.isNaN = false) ∧ ∀ x ∈ Node.floatsAll bs, x.isNaN = false) ∧
        Node.canonicalAll as = Node.canonicalAll bs
  | [], [] => by simp [Node.sameAll, Node.floatsAll]
  | [], _ :: _ => by simp [Node.sameAll, Node.canonicalAll]
  | _ :: _, [] => by simp [Node.sameAll, Node.canonicalAll]
  | a :: as, b :: bs => by
      rw [Node.sameAll, Bool.and_eq_true, Node.same_iff a b, Node.sameAll_iff as bs]
      simp only [Node.NaNFree, Node.floatsAll, Node.canonicalAll, List.forall_mem_append,
        List.cons.injEq]
      tauto

end

/-! ## Values -/

namespace Value

mutual

/-- The floats that occur in a value, in the items of a list and in the body of a lambda. -/
def floats : Value → List Float
  | .float x => [x]
  | .list items => floatsAll items
  | .lambda _ body _ => Node.floatsAll body
  | _ => []

/-- The floats that occur in several values. -/
def floatsAll : List Value → List Float
  | [] => []
  | v :: rest => floats v ++ floatsAll rest

end

/-- A value in which every float is a number. -/
def NaNFree (v : Value) : Prop := ∀ x ∈ v.floats, x.isNaN = false

mutual

/-- A value with its zeros positive and the scopes of its lambdas forgotten. -/
def canonical : Value → Value
  | .float x => .float (representative x)
  | .list items => .list (canonicalAll items)
  | .lambda params body _ => .lambda params (Node.canonicalAll body) none
  | v => v

/-- Several values in canonical form. -/
def canonicalAll : List Value → List Value
  | [] => []
  | v :: rest => canonical v :: canonicalAll rest

end

@[simp] lemma kind_canonical (v : Value) : v.canonical.kind = v.kind := by
  cases v <;> simp [canonical, kind]

mutual

/-- **Values are the same** if they hold no NaN and have the same canonical form. -/
lemma same_iff : ∀ v u : Value,
    v.same u = true ↔ (v.NaNFree ∧ u.NaNFree) ∧ v.canonical = u.canonical
  | .list items, u => by
      cases u with
      | list others =>
          rw [same, sameAll_iff items others]
          simp [NaNFree, floats, canonical]
      | _ => simp [same, canonical]
  | .lambda params body _, u => by
      cases u with
      | lambda params' body' _ =>
          rw [same, Bool.and_eq_true, Node.sameAll_iff body body']
          simp only [NaNFree, floats, canonical, decide_eq_true_eq, lambda.injEq, and_true]
          tauto
      | _ => simp [same, canonical]
  | .float x, u => by
      cases u <;> simp [same, NaNFree, floats, canonical, sameNumber_iff]
  | .unit, u | .string _, u | .integer _, u | .reference _, u | .error _, u => by
      cases u <;> simp [same, NaNFree, floats, canonical]

lemma sameAll_iff : ∀ vs us : List Value,
    sameAll vs us = true ↔
      ((∀ x ∈ floatsAll vs, x.isNaN = false) ∧ ∀ x ∈ floatsAll us, x.isNaN = false) ∧
        canonicalAll vs = canonicalAll us
  | [], [] => by simp [sameAll, floatsAll]
  | [], _ :: _ => by simp [sameAll, canonicalAll]
  | _ :: _, [] => by simp [sameAll, canonicalAll]
  | v :: vs, u :: us => by
      rw [sameAll, Bool.and_eq_true, same_iff v u, sameAll_iff vs us]
      simp only [NaNFree, floatsAll, canonicalAll, List.forall_mem_append, List.cons.injEq]
      tauto

end

variable {v u t : Value}

lemma same_refl (h : v.NaNFree) : v.same v = true := (same_iff v v).mpr ⟨⟨h, h⟩, rfl⟩

lemma same_symm (h : v.same u = true) : u.same v = true := by
  rw [same_iff] at h ⊢
  exact ⟨h.1.symm, h.2.symm⟩

lemma same_trans (h : v.same u = true) (h' : u.same t = true) : v.same t = true := by
  rw [same_iff] at h h' ⊢
  exact ⟨⟨h.1.1, h'.1.2⟩, h.2.trans h'.2⟩

/-- Only values of one kind are the same. -/
lemma kind_eq_of_same (h : v.same u = true) : v.kind = u.kind := by
  rw [← kind_canonical v, ((same_iff v u).mp h).2, kind_canonical]

lemma sameAll_iff_forall₂ {vs us : List Value} :
    sameAll vs us = true ↔ List.Forall₂ (fun v u => v.same u = true) vs us := by
  induction vs generalizing us with
  | nil => cases us <;> simp [sameAll]
  | cons v vs ih => cases us <;> simp [sameAll, ih]

end Value

/-! ## What scripts see -/

namespace Builtin

/-- The builtin for equality. -/
def equals : Builtin := ⟨"==", .binary .equals⟩

/-- The builtin that names the kind of a value. -/
def typeOf : Builtin := ⟨"type-of", .nonEmpty .typeOf⟩

/-- The assertion that two values are equal. -/
def assertEqual : Builtin := ⟨"assert-eq", .binary .assertEqual⟩

end Builtin

/-- Two values are equal to a script: comparing them comes to the integer 1. -/
def EqualTo (env : Handle) (w : World) (v u : Value) : Prop :=
  Builtin.equals.apply env [v, u] w = .ok (.integer 1) w

variable {env : Handle} {w : World} {v u : Value}

lemma equals_apply :
    Builtin.equals.apply env [v, u] w = .ok (.integer (if v.same u then 1 else 0)) w := by
  show EStateM.Result.ok (Value.ofBool (v.same u)) w = _
  cases v.same u <;> rfl

lemma equalTo_iff : EqualTo env w v u ↔ v.same u = true := by
  rw [EqualTo, equals_apply]
  cases v.same u <;> simp

lemma assertEqual_apply_eq_unit :
    Builtin.assertEqual.apply env [v, u] w = .ok .unit w ↔ v.same u = true := by
  show (if v.same u then pure .unit else throw _ : Run Value) w = _ ↔ _
  cases v.same u
  · exact iff_of_false nofun nofun
  · exact iff_of_true rfl rfl

/-- **Equality is structural and strict in kinds.**  Comparing two values always comes to the integer
0 or 1, and on values without NaN it decides an equivalence.  Equal values are of one kind.  Lists
are equal if they have the same length and equal items at each place, and lambdas if they have the
same parameters and structurally equal bodies, whatever scopes they were made in.  The assertion that
two values are equal succeeds exactly if they are. -/
theorem equals_structural (env : Handle) (w : World) :
    (Builtin.equals ∈ Library.builtins ∧ Builtin.typeOf ∈ Library.builtins ∧
      Builtin.assertEqual ∈ Library.assertions) ∧
    (∀ v u, EqualTo env w v u ∨ Builtin.equals.apply env [v, u] w = .ok (.integer 0) w) ∧
    Equivalence (fun v u : {v : Value // v.NaNFree} => EqualTo env w v u) ∧
    (∀ v u, EqualTo env w v u → ∃ kind : String,
      Builtin.typeOf.apply env [v] w = .ok (.string kind) w ∧
      Builtin.typeOf.apply env [u] w = .ok (.string kind) w) ∧
    (∀ items others, EqualTo env w (.list items) (.list others) ↔
      List.Forall₂ (EqualTo env w) items others) ∧
    (∀ params params' body body' scope scope',
      EqualTo env w (.lambda params body scope) (.lambda params' body' scope') ↔
        params = params' ∧ List.Forall₂ Node.Alike body body') ∧
    (∀ v u, Builtin.assertEqual.apply env [v, u] w = .ok .unit w ↔ EqualTo env w v u) := by
  refine ⟨⟨by decide, by decide, by decide⟩, ?_, ?_, ?_, ?_, ?_, ?_⟩
  · intro v u
    rw [EqualTo, equals_apply]
    cases v.same u <;> simp
  · simp only [equalTo_iff]
    exact ⟨fun v => Value.same_refl v.2, Value.same_symm, Value.same_trans⟩
  · intro v u h
    refine ⟨v.kind.name, rfl, ?_⟩
    rw [Value.kind_eq_of_same (equalTo_iff.mp h)]
    rfl
  · intro items others
    have hsame : EqualTo env w = fun v u => v.same u = true :=
      funext₂ fun _ _ => propext equalTo_iff
    rw [equalTo_iff, hsame, Value.same, Value.sameAll_iff_forall₂]
  · intro params params' body body' scope scope'
    rw [equalTo_iff, Value.same, Bool.and_eq_true, decide_eq_true_iff, Node.sameAll_iff_alike]
  · exact fun v u => assertEqual_apply_eq_unit.trans equalTo_iff.symm

/-- Lambdas that were made in different scopes and differ in the sign of a zero are equal, also as
items of lists.  An integer and a float are not. -/
theorem equals_structural_lambdas :
    let v : Value := .lambda ["x"] [.list [.symbol "x", .literal (.float 0.0)]] (some 3)
    let u : Value := .lambda ["x"] [.list [.symbol "x", .literal (.float (-0.0))]] none
    v.NaNFree ∧ EqualTo 0 {} v v ∧ EqualTo 0 {} v u ∧
    EqualTo 0 {} (.list [v, .integer 1]) (.list [u, .integer 1]) ∧
    Builtin.assertEqual.apply 0 [v, u] {} = .ok .unit {} ∧
    ¬ EqualTo 0 {} (.integer 1) (.float 1.0) := by
  intro v u
  obtain ⟨-, -, hequivalence, hkind, hlist, hlambda, hassert⟩ := equals_structural 0 {}
  have hfree : v.NaNFree := by
    show ∀ x ∈ [(0.0 : Float)], x.isNaN = false
    decide
  have hvu : EqualTo 0 {} v u :=
    (hlambda _ _ _ _ _ _).mpr ⟨rfl, .cons (.list (.cons (.symbol "x")
      (.cons (.literal (.float (by decide))) .nil))) .nil⟩
  have hone : EqualTo 0 {} (.integer 1) (.integer 1) := rfl
  refine ⟨hfree, hequivalence.refl ⟨v, hfree⟩, hvu, (hlist _ _).mpr (.cons hvu (.cons hone .nil)),
    (hassert v u).mpr hvu, fun h => ?_⟩
  obtain ⟨kind, hinteger, hfloat⟩ := hkind _ _ h
  have hnames : "integer" = kind ∧ "float" = kind :=
    ⟨Value.string.inj (EStateM.Result.ok.inj hinteger).1,
      Value.string.inj (EStateM.Result.ok.inj hfloat).1⟩
  exact absurd (hnames.1.trans hnames.2.symm) (by decide)

end ArenaLisp
