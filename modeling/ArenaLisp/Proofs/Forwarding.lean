import ArenaLisp.Proofs.Chains
import ArenaLisp.Proofs.Coupling
import Mathlib.Data.Fintype.Pigeonhole

/-!
# Calls that are forwarded

To invoke a name that is bound to a reference is to invoke the name it refers to, looked up where
the call is.  The evaluator takes one reference at a time and recognises only a name that refers to
itself.  So what becomes of a call depends on the whole graph of references, through all scopes
that are visible from the call: following the references ends at a binding of another kind, at a
name that is not bound, at a name that refers to itself, or not at all, because it runs in a circle.

* `Arena.Leads`, `Arena.Circles` — paths of references, and references that run in a circle.
* `Arena.Rooted.leads_cases` — there are no other ways in which references can lead.
* `invokeWithin_leads` — a call is forwarded along a path, at one forward a reference.
* **`invoke_follows_references`** — what becomes of a call, in each of the cases.
* `invoke_unbound_beyond_limit` — a path to a name that is not bound, but too long to be followed.
-/

namespace ArenaLisp

namespace Arena

variable {a : Arena} {h : Handle}

/-! ## Following references -/

/-- By following so many references, each of which goes on to another name, one gets from a name to
a name. -/
inductive Leads (a : Arena) (h : Handle) : Nat → String → String → Prop where
  | here (name : String) : Leads a h 0 name name
  | on {k : Nat} {name next last : String} :
      a.lookup h name = .ok (some (.constant (.reference next))) → next ≠ name →
      Leads a h k next last → Leads a h (k + 1) name last

/-- By following references one comes to a name from which they lead back to it, through at least
one other name. -/
def Circles (a : Arena) (h : Handle) (name : String) : Prop :=
  ∃ k last i, a.Leads h k name last ∧ 1 < i ∧ a.Leads h i last last

namespace Leads

variable {k : Nat} {name next last : String}

/-- Every name on a path but its end is bound. -/
lemma exists_bound (hl : a.Leads h k name last) {t : Binding}
    (ht : a.lookup h last = .ok (some t)) : ∃ b, a.lookup h name = .ok (some b) := by
  cases hl with
  | here => exact ⟨t, ht⟩
  | on hb _ _ => exact ⟨_, hb⟩

lemma snoc (hl : a.Leads h k name last)
    (hb : a.lookup h last = .ok (some (.constant (.reference next)))) (hne : next ≠ last) :
    a.Leads h (k + 1) name next := by
  induction hl with
  | here => exact .on hb hne (.here next)
  | on hb' hne' _ ih => exact .on hb' hne' (ih hb hne)

/-- A path can be taken in two parts, the first of any length up to its own. -/
lemma split {i : Nat} : ∀ {name : String}, a.Leads h (i + k) name last →
    ∃ middle, a.Leads h i name middle ∧ a.Leads h k middle last := by
  induction i with
  | zero =>
      intro name hl
      exact ⟨name, .here name, by rwa [Nat.zero_add] at hl⟩
  | succ i ih =>
      intro name hl
      rw [Nat.succ_add] at hl
      cases hl with
      | on hb hne rest =>
          obtain ⟨middle, hfirst, hsecond⟩ := ih rest
          exact ⟨middle, .on hb hne hfirst, hsecond⟩

lemma unique (hl : a.Leads h k name last) {other : String} (ho : a.Leads h k name other) :
    other = last := by
  induction hl with
  | here =>
      cases ho
      rfl
  | on hb _ _ ih =>
      cases ho with
      | on hb' _ rest =>
          rw [hb] at hb'
          cases hb'
          exact ih rest

end Leads

/-! ## Circles -/

/-- From a name that runs into a circle the references go on to such a name. -/
lemma Circles.exists_next {name : String} (hc : a.Circles h name) :
    ∃ next, a.lookup h name = .ok (some (.constant (.reference next))) ∧ next ≠ name ∧
      a.Circles h next := by
  obtain ⟨k, last, i, hl, hi, hback⟩ := hc
  cases hl with
  | here =>
      cases hback with
      | here => omega
      | on hb hne rest => exact ⟨_, hb, hne, _, _, _, rest, hi, .on hb hne rest⟩
  | on hb hne rest => exact ⟨_, hb, hne, _, _, _, rest, hi, hback⟩

/-- Into a circle one can follow the references as long as one likes. -/
lemma Circles.endless (k : Nat) : ∀ {name : String}, a.Circles h name →
    ∃ last, a.Leads h k name last ∧ a.Circles h last := by
  induction k with
  | zero => exact fun hc => ⟨_, .here _, hc⟩
  | succ k ih =>
      intro name hc
      obtain ⟨next, hb, hne, hnext⟩ := hc.exists_next
      obtain ⟨last, hl, hlast⟩ := ih hnext
      exact ⟨last, .on hb hne hl, hlast⟩

/-- If references can be followed as long as one likes, but only within finitely many names, they
run in a circle. -/
lemma Circles.of_endless {name : String} {ns : List String}
    (hns : ∀ k last, a.Leads h k name last → last ∈ ns)
    (hall : ∀ k, ∃ last, a.Leads h k name last) : a.Circles h name := by
  choose reached hreached using hall
  let visited (k : Nat) : {other // other ∈ ns.toFinset} :=
    ⟨reached k, List.mem_toFinset.mpr (hns k _ (hreached k))⟩
  -- Two different lengths lead to the same name; what lies between them is the circle.
  have hcircle : ∀ i j : Nat, i < j → visited i = visited j → a.Circles h name := by
    intro i j hij heq
    have hpath := hreached j
    rw [← Nat.add_sub_cancel' (Nat.le_of_lt hij)] at hpath
    obtain ⟨middle, hfirst, hback⟩ := hpath.split
    have hsame : reached i = reached j := congrArg Subtype.val heq
    rw [(hreached i).unique hfirst, Nat.add_sub_cancel' (Nat.le_of_lt hij), ← hsame] at hback
    refine ⟨i, reached i, j - i, hreached i, ?_, hback⟩
    by_contra hle
    have hone : j - i = 1 := by omega
    rw [hone] at hback
    cases hback with
    | on _ hne rest =>
        cases rest
        exact hne rfl
  obtain ⟨i, j, hne, heq⟩ := Finite.exists_ne_map_eq_of_infinite visited
  rcases Nat.lt_or_gt_of_ne hne with hlt | hlt
  · exact hcircle i j hlt heq
  · exact hcircle j i hlt heq.symm

/-! ## Where references lead -/

lemma lt_size_of_lookup {h : Nat} {name : String} {found : Option Binding}
    (hf : a.lookup h name = .ok found) : h < a.size := by
  by_contra hdead
  have hnone : a.scope? h = none := scope?_eq_none_iff.mpr (Nat.le_of_not_lt hdead)
  simp [lookup, chain, chainFrom, hnone, lookupAlong] at hf

/-- From a live scope finitely many names are bound, and any other name is not. -/
lemma Rooted.lookup_names (ha : a.Rooted) {h : Nat} (hlive : h < a.size) :
    ∃ ns : List String, ∀ name, a.lookup h name = .ok none ∨
      name ∈ ns ∧ ∃ b, a.lookup h name = .ok (some b) := by
  obtain ⟨scs, hscs, -⟩ := ha.chain_live hlive
  refine ⟨scs.flatMap Scope.names, fun name => ?_⟩
  rw [lookup, hscs, lookupAlong_live]
  cases hf : scs.findSome? (·.get? name) with
  | none => exact Or.inl rfl
  | some b => exact Or.inr ⟨findSome?_ne_none_iff.mp (by simp [hf]), b, rfl⟩

/-- References lead to a binding of another kind, to a name that is not bound, to a name that refers
to itself, or into a circle. -/
lemma Rooted.leads_cases (ha : a.Rooted) {h : Nat} (hlive : h < a.size) (name : String) :
    (∃ k last t, a.Leads h k name last ∧ a.lookup h last = .ok (some t) ∧
      ∀ target, t ≠ .constant (.reference target)) ∨
    (∃ k last, a.Leads h k name last ∧ a.lookup h last = .ok none) ∨
    (∃ k last, a.Leads h k name last ∧
      a.lookup h last = .ok (some (.constant (.reference last)))) ∨
    a.Circles h name := by
  by_contra hnot
  simp only [not_or] at hnot
  obtain ⟨hother, hunbound, hself, hcircle⟩ := hnot
  obtain ⟨ns, hns⟩ := ha.lookup_names hlive
  have hbound : ∀ k last, a.Leads h k name last → last ∈ ns ∧ ∃ next,
      a.lookup h last = .ok (some (.constant (.reference next))) ∧ next ≠ last := by
    intro k last hl
    rcases hns last with hnone | ⟨hmem, t, ht⟩
    · exact absurd ⟨k, last, hl, hnone⟩ hunbound
    · obtain ⟨next, rfl⟩ : ∃ next, t = .constant (.reference next) := by
        by_contra hkind
        exact hother ⟨k, last, t, hl, ht, fun target heq => hkind ⟨target, heq⟩⟩
      refine ⟨hmem, next, ht, ?_⟩
      rintro rfl
      exact hself ⟨k, next, hl, ht⟩
  refine hcircle (.of_endless (fun k last hl => (hbound k last hl).1) fun k => ?_)
  induction k with
  | zero => exact ⟨name, .here name⟩
  | succ k ih =>
      obtain ⟨last, hl⟩ := ih
      obtain ⟨-, next, hb, hne⟩ := hbound k last hl
      exact ⟨next, hl.snoc hb hne⟩

end Arena

/-! ## Forwarding -/

section Forwarding

variable {s : Settings} {leave : Leave} {left : Nat} {ev : Evaluation} {args : List Value}
  {env : Handle} {w : World} {n k : Nat} {name last target : String} {b t : Binding}

/-! What is done about one reference, by what its target is bound to. -/

lemma invokeWithin_exhausted :
    invokeWithin s leave left ev 0 name (.constant (.reference target)) args env w =
      .error .recursionLimit w := rfl

lemma invokeWithin_unbound (ht : w.arena.lookup env target = .ok none) :
    invokeWithin s leave left ev (n + 1) name (.constant (.reference target)) args env w =
      .error (.eval (.unknownSymbol target)) w :=
  bind_of_ok (a := none) (by rw [Run.lookup_eq, ht]; rfl)

lemma invokeWithin_self (ht : w.arena.lookup env name = .ok (some t)) :
    invokeWithin s leave left ev (n + 1) name (.constant (.reference name)) args env w =
      .error (.eval (.refersToItself name)) w := by
  refine (bind_of_ok (a := some t) (by rw [Run.lookup_eq, ht]; rfl)).trans ?_
  simp only [if_pos]
  rfl

lemma invokeWithin_forward (ht : w.arena.lookup env target = .ok (some t)) (hne : target ≠ name) :
    invokeWithin s leave left ev (n + 1) name (.constant (.reference target)) args env w =
      invokeWithin s leave left ev n target t args env w := by
  refine (bind_of_ok (a := some t) (by rw [Run.lookup_eq, ht]; rfl)).trans ?_
  simp only [if_neg hne]

/-- What is no reference is invoked at once, so it does not matter how many forwards are left. -/
lemma invokeWithin_of_ne_reference (ht : ∀ target, t ≠ .constant (.reference target)) (n n' : Nat) :
    invokeWithin s leave left ev n name t args env = invokeWithin s leave left ev n' name t args env := by
  cases t with
  | builtin b => rw [invokeWithin_builtin, invokeWithin_builtin]
  | constant v =>
      cases v with
      | lambda => rw [invokeWithin_lambda, invokeWithin_lambda]
      | reference target => exact absurd rfl (ht target)
      | _ => rw [invokeWithin_plain, invokeWithin_plain] <;> exact nofun

/-- **A call is forwarded** along a path of references, at one forward a reference. -/
lemma invokeWithin_leads (hl : w.arena.Leads env k name last)
    (hb : w.arena.lookup env name = .ok (some b)) (ht : w.arena.lookup env last = .ok (some t)) :
    invokeWithin s leave left ev (n + k) name b args env w =
      invokeWithin s leave left ev n last t args env w := by
  induction hl generalizing b with
  | here =>
      rw [hb] at ht
      cases ht
      rfl
  | on href hne rest ih =>
      rw [hb] at href
      cases href
      obtain ⟨b', hb'⟩ := rest.exists_bound ht
      rw [← Nat.add_assoc, invokeWithin_forward hb' hne, ih hb' ht]

/-- A call that is forwarded to a name that is not bound fails. -/
lemma invokeWithin_leads_unbound (hl : w.arena.Leads env k name last)
    (hb : w.arena.lookup env name = .ok (some b)) (ht : w.arena.lookup env last = .ok none) :
    invokeWithin s leave left ev (n + k) name b args env w = .error (.eval (.unknownSymbol last)) w := by
  induction hl generalizing b with
  | here =>
      rw [hb] at ht
      cases ht
  | on href hne rest ih =>
      rw [hb] at href
      cases href
      cases rest with
      | here => exact invokeWithin_unbound ht
      | on hb' hne' rest' => rw [← Nat.add_assoc, invokeWithin_forward hb' hne, ih hb' ht]

/-- A call whose references run in a circle uses up any number of forwards. -/
lemma invokeWithin_circles (hc : w.arena.Circles env name)
    (hb : w.arena.lookup env name = .ok (some b)) (n : Nat) :
    invokeWithin s leave left ev n name b args env w = .error .recursionLimit w := by
  obtain ⟨last, hl, hlast⟩ := hc.endless n
  obtain ⟨next, ht, -⟩ := hlast.exists_next
  calc invokeWithin s leave left ev n name b args env w
      = invokeWithin s leave left ev (0 + n) name b args env w := by rw [Nat.zero_add]
    _ = invokeWithin s leave left ev 0 last (.constant (.reference next)) args env w :=
        invokeWithin_leads hl hb ht
    _ = .error .recursionLimit w := invokeWithin_exhausted

end Forwarding

/-! ## What becomes of a call -/

/-- **A call of a bound name follows the references** that are visible where the call is.  If they
lead to a binding of another kind, the call is one of that binding, under the name it is found at.
If they lead to a name that is not bound, or that refers to itself, the call fails and says so.
All this holds as long as the forwards last; a call that needs more of them ends at the recursion
limit, as does one whose references run in a circle, however many forwards there are.  When a call
fails in one of these ways, nothing has changed.  In a rooted arena there are no other cases. -/
theorem invoke_follows_references {s : Settings} {w : World} {env : Handle} {name : String}
    {b : Binding} (args : List Value) (hb : w.arena.lookup env name = .ok (some b)) :
    (∀ k last t, w.arena.Leads env k name last → k ≤ s.stack.forwards →
      w.arena.lookup env last = .ok (some t) → (∀ target, t ≠ .constant (.reference target)) →
      invoke s name b args env w = invoke s last t args env w) ∧
    (∀ k last, w.arena.Leads env k name last → k ≤ s.stack.forwards →
      w.arena.lookup env last = .ok none →
      invoke s name b args env w = .error (.eval (.unknownSymbol last)) w) ∧
    (∀ k last, w.arena.Leads env k name last → k < s.stack.forwards →
      w.arena.lookup env last = .ok (some (.constant (.reference last))) →
      invoke s name b args env w = .error (.eval (.refersToItself last)) w) ∧
    (w.arena.Circles env name → ∀ limit,
      invokeWithin s reclaimFrame s.stack.depth (evaluate s) limit name b args env w =
        .error .recursionLimit w) ∧
    (∀ last target, w.arena.Leads env s.stack.forwards name last →
      w.arena.lookup env last = .ok (some (.constant (.reference target))) →
      invoke s name b args env w = .error .recursionLimit w) ∧
    (w.arena.Rooted →
      (∃ k last t, w.arena.Leads env k name last ∧ w.arena.lookup env last = .ok (some t) ∧
        ∀ target, t ≠ .constant (.reference target)) ∨
      (∃ k last, w.arena.Leads env k name last ∧ w.arena.lookup env last = .ok none) ∨
      (∃ k last, w.arena.Leads env k name last ∧
        w.arena.lookup env last = .ok (some (.constant (.reference last)))) ∨
      w.arena.Circles env name) := by
  -- `n` forwards are left at the end of a path of `k` references.
  have hforward : ∀ n k last t, n + k = s.stack.forwards → w.arena.Leads env k name last →
      w.arena.lookup env last = .ok (some t) → invoke s name b args env w =
        invokeWithin s reclaimFrame s.stack.depth (evaluate s) n last t args env w := by
    intro n k last t hn hl ht
    rw [invoke, invokeWith, ← hn]
    exact invokeWithin_leads hl hb ht
  refine ⟨?_, ?_, ?_, fun hc limit => invokeWithin_circles hc hb limit, ?_,
    fun ha => ha.leads_cases (Arena.lt_size_of_lookup hb) name⟩
  · intro k last t hl hk ht hkind
    rw [hforward _ k last t (Nat.sub_add_cancel hk) hl ht,
      invokeWithin_of_ne_reference hkind _ s.stack.forwards]
    rfl
  · intro k last hl hk ht
    rw [invoke, invokeWith, ← Nat.sub_add_cancel hk]
    exact invokeWithin_leads_unbound hl hb ht
  · intro k last hl hk ht
    rw [hforward (s.stack.forwards - 1 - k + 1) k last _ (by omega) hl ht]
    exact invokeWithin_self ht
  · intro last target hl ht
    rw [hforward 0 s.stack.forwards last _ (Nat.zero_add _) hl ht]
    exact invokeWithin_exhausted

/-- References that end in each of the ways, seen from a scope that hides a name of the root. -/
theorem invoke_follows_references_ways :
    let a := Arena.fresh |>.define 0 "second" (.reference "first") |>.define 0 "first" .unit
      |>.define 0 "lost" (.reference "nowhere") |>.define 0 "me" (.reference "me")
      |>.define 0 "ping" (.reference "pong") |>.child 0
      |>.define 1 "first" (.integer 8) |>.define 1 "pong" (.reference "ping")
    let w : World := { arena := a }
    a.lookup 1 "second" = .ok (some (.constant (.reference "first"))) ∧
    invoke {} "second" (.constant (.reference "first")) [] 1 w = .ok (.integer 8) w ∧
    invoke {} "lost" (.constant (.reference "nowhere")) [] 1 w =
      .error (.eval (.unknownSymbol "nowhere")) w ∧
    invoke {} "me" (.constant (.reference "me")) [] 1 w =
      .error (.eval (.refersToItself "me")) w ∧
    (∀ limit, invokeWithin {} reclaimFrame 1000 (evaluate {}) limit "ping"
      (.constant (.reference "pong")) [] 1 w = .error .recursionLimit w) := by
  intro a w
  have hsecond : a.lookup 1 "second" = .ok (some (.constant (.reference "first"))) := rfl
  have hlost : a.lookup 1 "lost" = .ok (some (.constant (.reference "nowhere"))) := rfl
  have hme : a.lookup 1 "me" = .ok (some (.constant (.reference "me"))) := rfl
  have hping : a.lookup 1 "ping" = .ok (some (.constant (.reference "pong"))) := rfl
  have hpong : a.lookup 1 "pong" = .ok (some (.constant (.reference "ping"))) := rfl
  obtain ⟨hbound, -⟩ := invoke_follows_references (s := {}) (w := w) [] hsecond
  obtain ⟨-, hunbound, -⟩ := invoke_follows_references (s := {}) (w := w) [] hlost
  obtain ⟨-, -, hself, -⟩ := invoke_follows_references (s := {}) (w := w) [] hme
  obtain ⟨-, -, -, hcircle, -⟩ := invoke_follows_references (s := {}) (w := w) [] hping
  refine ⟨hsecond, ?_, ?_, ?_, hcircle ?_⟩
  · exact hbound 1 "first" (.constant (.integer 8)) (.on hsecond (by decide) (.here _))
      (by decide) rfl nofun
  · exact hunbound 1 "nowhere" (.on hlost (by decide) (.here _)) (by decide) rfl
  · exact hself 0 "me" (.here _) (by decide) hme
  · exact ⟨0, "ping", 2, .here _, by decide,
      .on hping (by decide) (.on hpong (by decide) (.here _))⟩

/-! ## Chains that are longer than the forwards last -/

lemma Ordered.get?_map_of_injective [DecidableEq κ] {key : Nat → κ}
    (hkey : Function.Injective key) (value : Nat → α) (i : Nat) (is : List Nat) :
    get? (key i) (is.map fun j => (key j, value j)) = if i ∈ is then some (value i) else none := by
  induction is with
  | nil => rfl
  | cons first rest ih =>
      by_cases h : first = i
      · simp [get?, h]
      · simp [get?, hkey.eq_iff, h, Ne.symm h, ih]

namespace Arena

/-- The name at a place in a chain of references. -/
def link (i : Nat) : String := "s" ++ toString i

lemma link_injective : Function.Injective link := by
  intro i j h
  have hdigits : Nat.toDigits 10 i = Nat.toDigits 10 j :=
    String.ofList_injective ((String.append_right_inj "s").mp h)
  rw [← Nat.ofDigitChars_ten_toDigits (n := i), hdigits, Nat.ofDigitChars_ten_toDigits]

/-- An arena with a chain of so many references in its root, the last one to a name that is not
bound. -/
def linked (n : Nat) : Arena :=
  ⟨#[{ bindings := (List.range n).map fun i => (link i, .constant (.reference (link (i + 1)))) }]⟩

lemma lookup_linked (n i : Nat) :
    (linked n).lookup 0 (link i) =
      .ok (if i < n then some (.constant (.reference (link (i + 1)))) else none) := by
  have hchain : (linked n).chain 0 = [{ bindings := (List.range n).map fun i =>
      (link i, .constant (.reference (link (i + 1)))) }].map some := rfl
  rw [lookup, hchain, lookupAlong_live]
  simp [Scope.get?, Ordered.get?_map_of_injective link_injective]

lemma leads_linked {n k : Nat} (hk : k ≤ n) : (linked n).Leads 0 k (link 0) (link k) := by
  induction k with
  | zero => exact .here _
  | succ k ih =>
      have hnext : (linked n).lookup 0 (link k) =
          .ok (some (.constant (.reference (link (k + 1))))) := by
        rw [lookup_linked, if_pos (Nat.lt_of_succ_le hk)]
      exact (ih (Nat.le_of_succ_le hk)).snoc hnext (link_injective.ne (Nat.succ_ne_self k))

end Arena

/-- References that lead to a name that is not bound, but are too many: the call ends at the
recursion limit and not with that name. -/
theorem invoke_unbound_beyond_limit :
    let w : World := { arena := Arena.linked 5000 }
    let b : Binding := .constant (.reference "s1")
    w.arena.lookup 0 "s0" = .ok (some b) ∧ w.arena.Leads 0 5000 "s0" "s5000" ∧
    w.arena.lookup 0 "s5000" = .ok none ∧
    invoke {} "s0" b [] 0 w = .error .recursionLimit w ∧
    invoke {} "s0" b [] 0 w ≠ .error (.eval (.unknownSymbol "s5000")) w := by
  intro w b
  have hfirst : w.arena.lookup 0 "s0" = .ok (some b) := Arena.lookup_linked 5000 0
  have hnext : w.arena.lookup 0 (Arena.link 1000) =
      .ok (some (.constant (.reference (Arena.link (1000 + 1))))) := by
    rw [Arena.lookup_linked, if_pos (by decide)]
  have hlimit : invoke {} "s0" b [] 0 w = .error .recursionLimit w := by
    have hleads : w.arena.Leads 0 1000 "s0" _ := Arena.leads_linked (by decide)
    rw [invoke, invokeWith, show ({} : Settings).stack.forwards = 0 + 1000 from rfl,
      invokeWithin_leads hleads hfirst hnext,
      invokeWithin_exhausted]
  refine ⟨hfirst, Arena.leads_linked (Nat.le_refl 5000), ?_, hlimit, ?_⟩
  · exact (Arena.lookup_linked 5000 5000).trans (by rw [if_neg (Nat.lt_irrefl 5000)])
  · rw [hlimit]
    exact nofun

end ArenaLisp
