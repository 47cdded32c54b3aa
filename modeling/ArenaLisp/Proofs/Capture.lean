import ArenaLisp.Evaluate
import ArenaLisp.Library
import Mathlib.Data.List.Basic
import Mathlib.Tactic.Common

/-!
# Scripts that capture no names

Where the frame of a call is attached matters only if a name is looked up that some lambda has for
a parameter: then the frames in between may bind it.  Whether this can happen is written in the
script.

* `Node.within` — the nodes inside a node, as far as its lists are entered.
* `Node.partsAll`, `Node.outerAll` — all nodes of a script; those outside its lambda forms.
* `LambdaForm`, `Node.lambdas`, `Node.params` — the lambda forms of a script and their parameters.
* **`CaptureFree`** — the scripts in which no parameter is looked up but by its own lambda.
* `body_parts` — what stands in a lambda form of a script stands in the script.
-/

namespace ArenaLisp

namespace Node

/-! ## The nodes of a script -/

mutual

/-- A node and the nodes inside it.  What stands inside a closed list is left out. -/
def within (closed : List Node → Bool) : Node → List Node
  | .list items => .list items :: if closed items then [] else withinAll closed items
  | .symbol name => [.symbol name]
  | .literal value => [.literal value]

/-- Several nodes and the nodes inside them. -/
def withinAll (closed : List Node → Bool) : List Node → List Node
  | [] => []
  | node :: rest => within closed node ++ withinAll closed rest

end

/-- Whether items make up the form of a name: the first one is that symbol. -/
def headed (name : String) : List Node → Bool
  | .symbol head :: _ => decide (head = name)
  | _ => false

/-- All nodes of a script. -/
def partsAll (nodes : List Node) : List Node := withinAll (fun _ => false) nodes

/-- The nodes of a script that stand in no lambda form; the lambda forms themselves are among
them. -/
def outerAll (nodes : List Node) : List Node := withinAll (headed "lambda") nodes

/-- The name of a symbol. -/
def symbol? : Node → Option String
  | .symbol name => some name
  | _ => none

/-- The names of the symbols among nodes. -/
def symbols (nodes : List Node) : List String := nodes.filterMap symbol?

/-! ## Definitions and lambda forms -/

/-- Whether a node is a define form. -/
def isDefine : Node → Bool
  | .list items => headed "define" items
  | _ => false

/-- The symbol that a define form binds. -/
def target? : Node → Option String
  | .list (.symbol head :: .symbol name :: _) => if head = "define" then some name else none
  | _ => none

end Node

/-- A lambda form: the names of its parameters, and its body. -/
structure LambdaForm where
  params : List String
  body : List Node

namespace Node

/-- The lambda form that a node is, if its parameters are symbols. -/
def lambda? : Node → Option LambdaForm
  | .list (.symbol head :: .list params :: body) =>
    if head = "lambda" then (paramNames params).toOption.map (⟨·, body⟩) else none
  | _ => none

/-- The lambda forms of a script. -/
def lambdas (script : List Node) : List LambdaForm := (partsAll script).filterMap lambda?

/-- The names that occur as a parameter of some lambda form of a script. -/
def params (script : List Node) : List String := (lambdas script).flatMap (·.params)

end Node

/-- The names of the library. -/
def Library.names : List String := constants.map (·.1) ++ builtins.map (·.name)

/-- **Scripts that capture no names.**  Parameters are neither in the library nor defined; lambda
forms define nothing, and no symbol in a lambda form is a parameter of another one, unless it is a
parameter of the innermost lambda form around it.  Nothing asks for all visible names. -/
@[mk_iff]
structure CaptureFree (script : List Node) : Prop where
  library : ∀ name ∈ Node.params script, name ∉ Library.names
  defined : ∀ name ∈ Node.params script, ∀ node ∈ Node.partsAll script, node.target? ≠ some name
  local_define : ∀ f ∈ Node.lambdas script, ∀ node ∈ Node.partsAll f.body, node.isDefine = false
  captured : ∀ f ∈ Node.lambdas script, ∀ name ∈ Node.symbols (Node.outerAll f.body),
    name ∈ f.params ∨ name ∉ Node.params script
  global : "global-env" ∉ Node.symbols (Node.partsAll script)

instance (script : List Node) : Decidable (CaptureFree script) :=
  decidable_of_iff' _ (captureFree_iff script)

/-- A name that is a parameter of one lambda and free in another one. -/
example : ¬CaptureFree
    [.list [.symbol "lambda", .list [.symbol "x"],
      .list [.symbol "lambda", .list [.symbol "y"], .symbol "x"]]] := by
  decide

namespace Node

/-! ## Nodes inside nodes -/

variable {closed closed' : List Node → Bool}

lemma mem_withinAll {n : Node} {nodes : List Node} :
    n ∈ withinAll closed nodes ↔ ∃ node ∈ nodes, n ∈ node.within closed := by
  induction nodes with
  | nil => simp [withinAll]
  | cons node rest ih => simp [withinAll, ih]

lemma mem_within_self (node : Node) : node ∈ node.within closed := by
  cases node <;> simp [within]

lemma mem_within_list {n : Node} {items : List Node} :
    n ∈ (Node.list items).within closed ↔
      n = .list items ∨ closed items = false ∧ n ∈ withinAll closed items := by
  rw [within, List.mem_cons]
  by_cases hc : closed items = true <;> simp [hc]

lemma mem_within_item {item : Node} {items : List Node} (hc : closed items = false)
    (hi : item ∈ items) : item ∈ (Node.list items).within closed :=
  mem_within_list.mpr (Or.inr ⟨hc, mem_withinAll.mpr ⟨item, hi, mem_within_self item⟩⟩)

mutual

/-- What stands inside a node inside a node stands inside that one too. -/
lemma within_trans {m n : Node} (hm : m ∈ n.within closed) :
    ∀ {node : Node}, n ∈ node.within closed → m ∈ node.within closed
  | .list items, hn => by
      rcases mem_within_list.mp hn with rfl | ⟨hc, hn⟩
      · exact hm
      · exact mem_within_list.mpr (Or.inr ⟨hc, withinAll_trans hm hn⟩)
  | .symbol name, hn => by
      rw [within, List.mem_singleton] at hn
      exact hn ▸ hm
  | .literal value, hn => by
      rw [within, List.mem_singleton] at hn
      exact hn ▸ hm

lemma withinAll_trans {m n : Node} (hm : m ∈ n.within closed) :
    ∀ {nodes : List Node}, n ∈ withinAll closed nodes → m ∈ withinAll closed nodes
  | [], hn => by simp [withinAll] at hn
  | node :: rest, hn => by
      rw [withinAll, List.mem_append] at hn ⊢
      exact hn.imp (within_trans hm) (withinAll_trans hm)

end

mutual

/-- Fewer closed lists show more nodes. -/
lemma within_mono (h : ∀ items, closed items = false → closed' items = false) {n : Node} :
    ∀ {node : Node}, n ∈ node.within closed → n ∈ node.within closed'
  | .list items, hn => by
      rcases mem_within_list.mp hn with rfl | ⟨hc, hn⟩
      · exact mem_within_self _
      · exact mem_within_list.mpr (Or.inr ⟨h items hc, withinAll_mono h hn⟩)
  | .symbol _, hn => hn
  | .literal _, hn => hn

lemma withinAll_mono (h : ∀ items, closed items = false → closed' items = false) {n : Node} :
    ∀ {nodes : List Node}, n ∈ withinAll closed nodes → n ∈ withinAll closed' nodes
  | [], hn => hn
  | node :: rest, hn => by
      rw [withinAll, List.mem_append] at hn ⊢
      exact hn.imp (within_mono h) (withinAll_mono h)

end

lemma outer_subset_parts {n : Node} {nodes : List Node} (h : n ∈ outerAll nodes) :
    n ∈ partsAll nodes :=
  withinAll_mono (fun _ _ => rfl) h

lemma isDefine_of_target? {n : Node} {name : String} (h : n.target? = some name) :
    n.isDefine = true := by
  unfold target? at h
  split at h
  · split_ifs at h with hd
    simp [isDefine, headed, hd]
  · cases h

/-! ## Lambda forms of a script -/

variable {script : List Node}

lemma lambda?_eq_some {n : Node} {f : LambdaForm} (h : n.lambda? = some f) :
    ∃ params, n = .list (.symbol "lambda" :: .list params :: f.body) ∧
      paramNames params = .ok f.params := by
  unfold lambda? at h
  split at h
  · rename_i head params body
    split_ifs at h with hl
    subst hl
    cases hp : paramNames params with
    | error fault => simp [hp, Except.toOption] at h
    | ok names =>
        simp only [hp, Except.toOption, Option.map_some, Option.some.injEq] at h
        subst h
        exact ⟨params, rfl, hp⟩
  · cases h

lemma lambda?_of_paramNames {params : List Node} {names : List String} {body : List Node}
    (h : paramNames params = .ok names) :
    (Node.list (.symbol "lambda" :: .list params :: body)).lambda? = some ⟨names, body⟩ := by
  simp [lambda?, h, Except.toOption]

lemma mem_lambdas {f : LambdaForm} {n : Node} (hn : n ∈ partsAll script)
    (hf : n.lambda? = some f) : f ∈ lambdas script :=
  List.mem_filterMap.mpr ⟨n, hn, hf⟩

lemma mem_params {f : LambdaForm} (hf : f ∈ lambdas script) {name : String}
    (hn : name ∈ f.params) : name ∈ params script :=
  List.mem_flatMap.mpr ⟨f, hf, hn⟩

/-- What stands in a lambda form of a script stands in the script. -/
lemma body_parts {f : LambdaForm} (hf : f ∈ lambdas script) {n : Node}
    (hn : n ∈ partsAll f.body) : n ∈ partsAll script := by
  obtain ⟨node, hnode, hl⟩ := List.mem_filterMap.mp hf
  obtain ⟨ps, rfl, -⟩ := lambda?_eq_some hl
  refine withinAll_trans ?_ hnode
  rw [mem_within_list, withinAll, withinAll]
  exact Or.inr ⟨rfl, List.mem_append_right _ (List.mem_append_right _ hn)⟩

end Node

end ArenaLisp
