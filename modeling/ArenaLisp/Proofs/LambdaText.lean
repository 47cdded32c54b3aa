import ArenaLisp.Proofs.Rereading
import ArenaLisp.Proofs.Spelling

/-!
# The text of a lambda is its source

A lambda is printed as a lambda form.  The printer puts the form together from the names of the
parameters and the rendered body, and not from a node.  The text comes out the same, though, so that
it can be read: and since all that a lambda is made of was read at some time, the form that is read
makes the same lambda again.

* `Value.lambdaForm` — the form that makes a lambda, with `Value.text_lambda`.
* `evaluate_lambdaForm` — the form makes the lambda, in any live scope.
* `Reached` — values that are at hand after any sequence of runs.
* **`History.evaluate_lambda_text`** — the text of a lambda that is at hand makes it again.
-/

namespace ArenaLisp

open Decimal

/-! ## Lambda forms -/

/-- The form that makes a lambda with some parameters and a body. -/
def Value.lambdaForm (params : List String) (body : List Node) : Node :=
  .list (.symbol "lambda" :: .list (params.map .symbol) :: body)

lemma Node.renderAll_eq_intercalate (nodes : List Node) :
    Node.renderAll nodes = " ".intercalate (nodes.map Node.render) := by
  induction nodes with
  | nil => rfl
  | cons node rest ih =>
      cases rest with
      | nil => simp [Node.renderAll]
      | cons next others => simp [Node.renderAll, ih]

/-- A lambda is printed as its form. -/
lemma Value.text_lambda (params : List String) (body : List Node) (scope : Option Handle) :
    (Value.lambda params body scope).text = (Value.lambdaForm params body).render := by
  have hparams : (params.map Node.symbol).map Node.render = params := by
    simp [Function.comp_def, Node.render]
  have hlist : (Node.list (params.map .symbol)).render = "(" ++ " ".intercalate params ++ ")" := by
    rw [Node.render, Node.renderAll_eq_intercalate, hparams]
  rw [Value.text, Value.lambdaText, Value.lambdaForm, Node.render, Node.renderAll_eq_intercalate,
    List.map_cons, List.map_cons, hlist, Node.render, String.intercalate_cons_cons]
  simp only [String.append_assoc]
  rfl

lemma Value.readable_lambdaForm {params : List String} {body : List Node}
    (hp : ∀ param ∈ params, (Node.symbol param).Readable) (hb : ∀ node ∈ body, node.Readable) :
    (Value.lambdaForm params body).Readable := by
  have hparams : (Node.list (params.map .symbol)).Readable :=
    Node.readableAll_iff.mpr (List.forall_mem_map.mpr hp)
  have hlambda : parse "lambda" = .ok [.symbol "lambda"] := rfl
  exact ⟨(readable_of_parse hlambda).1, hparams, Node.readableAll_iff.mpr hb⟩

lemma Value.floats_lambdaForm (params : List String) (body : List Node) :
    (Value.lambdaForm params body).floats = Node.floatsAll body := by
  have hparams : Node.floatsAll (params.map .symbol) = [] := by
    induction params with
    | nil => rfl
    | cons param rest ih => simp [Node.floatsAll, Node.floats, ih]
  simp [Value.lambdaForm, Node.floats, Node.floatsAll, hparams]

lemma paramNames_symbols (params : List String) :
    paramNames (params.map .symbol) = .ok params := by
  induction params with
  | nil => rfl
  | cons param rest ih =>
      rw [List.map_cons, paramNames, ih]
      rfl

/-- The scope that a lambda holds on to if it is made in a scope. -/
def Settings.captures (s : Settings) (env : Handle) : Option Handle :=
  match s.scoping with
  | .lexical => some env
  | .dynamic => none

/-- The form of a lambda makes it, wherever a scope can be held, if the stack takes one
evaluation. -/
lemma evaluate_lambdaForm {s : Settings} (hdepth : 0 < s.stack.depth) (params : List String)
    (body : List Node) {env : Handle} {w : World}
    (hlive : s.scoping = .lexical → env < w.arena.size) :
    ∃ w', evaluate s (Value.lambdaForm params body) env w =
      .ok (.lambda params body (s.captures env)) w' := by
  have hstep : ∀ {w' : World}, w'.arena = w.arena → ∃ w'',
      evaluateLambda s (.list (params.map .symbol) :: body) env w' =
        .ok (.lambda params body (s.captures env)) w'' := by
    intro w' harena
    simp only [evaluateLambda, paramNames_symbols, Settings.captures]
    cases hs : s.scoping with
    | dynamic => exact ⟨_, rfl⟩
    | lexical => exact ⟨_, bind_of_ok (Run.capture_of_live (harena ▸ hlive hs))⟩
  obtain ⟨w'', h⟩ := hstep (World.trace_arena w .evaluator fun _ => "special form lambda")
  obtain ⟨depth, hd⟩ : ∃ depth, s.stack.depth = depth + 1 := ⟨_, (Nat.sub_add_cancel hdepth).symm⟩
  rw [evaluate, hd]
  exact ⟨w'', h⟩

/-! ## Lambdas that are at hand -/

/-- A value that is at hand after some runs: it is, or is inside of, a value that came up in one of
them, a value that is bound, or what one more run comes to. -/
inductive Reached (past : List Moment) (w : World) (f : Value) : Prop where
  | evaluated {m : Moment} {v : Value} :
      m ∈ past → m.event = .evaluated v → f ∈ v.callables → Reached past w f
  | bound {i : Handle} {sc : Scope} {name : String} {v : Value} :
      w.arena.scope? i = some sc → (name, .constant v) ∈ sc.bindings → f ∈ v.callables →
      Reached past w f
  | result {s : Settings} {depth : Nat} {source : String} {env : Handle} {v : Value} {w' : World} :
      runWith (evaluateWith s reclaimFrame depth) source env w = .ok v w' → f ∈ v.callables →
      Reached past w f

lemma Arena.spelled_default : Arena.default.Spelled where
  distinct := (Distinct.fresh.insert 0 _ _).register 0 _
  entries := by
    refine entries_default.mono ?_
    rintro i _ ⟨rfl, rfl | ⟨b, -, rfl⟩⟩
    · refine ⟨fun hi => absurd rfl hi, ?_⟩
      rintro v ⟨⟩
      simp [Value.Readable]
    · exact ⟨fun hi => absurd rfl hi, by simp⟩

/-- A lambda that is at hand was read. -/
lemma History.readable {past : List Moment} {w : World} (h : History past w) {f : Value}
    (hf : Reached past w f) : f.ReadableLambda := by
  obtain ⟨hkept, ha⟩ := h.kept Discipline.spelled_laws Arena.spelled_default fun _ _ _ _ => trivial
  cases hf with
  | evaluated hm he hmem => exact (hkept _ hm).2 _ he f hmem
  | bound hs hb hmem => exact (ha.entries _ _ hs _ hb).2 _ rfl f hmem
  | @result s depth source env v w' hrun hmem =>
      have hends := Discipline.spelled_laws.ends_run s depth source env ha fun _ _ _ _ => trivial
      rw [hrun] at hends
      obtain ⟨_, _, hv⟩ := hends
      exact hv f hmem

/-- **The text of a lambda is its source.**  Take any sequence of runs, and a lambda that is at hand
after it: a value, a value that is bound, or an item of a list, at any depth.  If the floats in its
body are positional then its text is read as one node; and wherever that node is evaluated, and
under whichever settings, it makes an equal lambda, with the same parameters and the same body.  The
stack only has to take this one evaluation. -/
theorem History.evaluate_lambda_text {past : List Moment} {w : World} (h : History past w)
    {params : List String} {body : List Node} {scope : Option Handle}
    (hreached : Reached past w (.lambda params body scope))
    (hfloats : ∀ x ∈ Node.floatsAll body, Positional x) :
    ∃ node, parse (Value.lambda params body scope).text = .ok [node] ∧
      ∀ s env w', 0 < s.stack.depth → (s.scoping = .lexical → env < w'.arena.size) →
        ∃ w'', evaluate s node env w' = .ok (.lambda params body (s.captures env)) w'' ∧
          (Value.lambda params body (s.captures env)).same (.lambda params body scope) = true := by
  obtain ⟨hp, hb⟩ := h.readable hreached
  have hr : Node.ReadableAll [Value.lambdaForm params body] :=
    ⟨Value.readable_lambdaForm hp hb, trivial⟩
  have hf : ∀ x ∈ Node.floatsAll [Value.lambdaForm params body], Positional x := by
    simpa [Node.floatsAll, Value.floats_lambdaForm] using hfloats
  refine ⟨Value.lambdaForm params body, ?_, fun s env w' hdepth hlive => ?_⟩
  · have hparse := parse_renderAll_of_positional hr hf
    rwa [Node.renderAll, ← Value.text_lambda params body scope] at hparse
  · have hbody : Node.sameAll body body = true := by
      have hreadable := Node.readableAll_iff.mpr hb
      have hagain := (Node.sameAll_again body hreadable).mpr hfloats
      rwa [Node.againAll_eq body hreadable hfloats] at hagain
    have hsame : (Value.lambda params body (s.captures env)).same (.lambda params body scope) =
        true := by
      simp [Value.same, hbody]
    exact (evaluate_lambdaForm hdepth params body hlive).imp fun _ heval => ⟨heval, hsame⟩

/-- A lambda in a list, without parameters and with quotes in its body. -/
theorem History.evaluate_lambda_text_in_list :
    let s : Settings := { scoping := .lexical }
    let w : World := { arena := Arena.default }
    let source :=
      "(define k (lambda (x) (lambda () \"\\\"\\\\\" -0.5 x))) (define l (list 1 (k 2)))"
    let past := (Journal.runWith (Journal.evaluateWith s 10) source 0).moments w
    let w' := (runWith (evaluateWith s reclaimFrame 10) source 0).after w
    match (w'.arena.scope? 0).bind (·.get? "l") with
    | some (.constant (.list [_, .lambda params body scope])) =>
      Reached past w' (.lambda params body scope) ∧
        (Value.lambda params body scope).text = "(lambda () \"\\\"\\\\\" -0.5 x)" ∧
        ∃ node, parse (Value.lambda params body scope).text = .ok [node] ∧
          ∀ s env v, 0 < s.stack.depth → (s.scoping = .lexical → env < v.arena.size) →
            ∃ v', evaluate s node env v = .ok (.lambda params body (s.captures env)) v' ∧
              (Value.lambda params body (s.captures env)).same
                (.lambda params body scope) = true
    | _ => False := by
  intro s w source past w'
  have h : History past w' := .run s 10 source 0 (.start (w := w) rfl) Arena.rooted_default.size_pos
  have hbound : (match (w'.arena.scope? 0).bind (·.get? "l") with
      | some (.constant (.list [_, .lambda params body scope])) =>
        some ((Value.lambda params body scope).text, Node.floatsAll body)
      | _ => none) = some ("(lambda () \"\\\"\\\\\" -0.5 x)", [-0.5]) := by decide +kernel
  split at hbound
  · rename_i item params body scope hl
    obtain ⟨htext, hfloats⟩ := Prod.mk.inj (Option.some.inj hbound)
    obtain ⟨sc, hs, hget⟩ := Option.bind_eq_some_iff.mp hl
    have hreached : Reached past w' (.lambda params body scope) :=
      .bound hs (Ordered.mem_of_get? hget) (by simp)
    refine ⟨hreached, htext, h.evaluate_lambda_text hreached ?_⟩
    rw [hfloats]
    decide +kernel
  · cases hbound

end ArenaLisp
