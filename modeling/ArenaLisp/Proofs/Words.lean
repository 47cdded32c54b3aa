import ArenaLisp.Proofs.Discipline
import ArenaLisp.Proofs.Lasting
import ArenaLisp.Proofs.RoundTrip

/-!
# Integers fit a machine word

Integers come up in many places: literals, sums, lengths, truth values, texts that are read as
numbers.  Some of these places check the range of a machine word and others need not.  This file
shows that no integer outside of that range ever comes up, whatever is run and for however long: not
in a binding, not in a result, and not in the body of a lambda that is still to be called.

The one thing that is taken for granted is that strings and lists are not longer than a machine word
can tell, because `length` does not check.

* `Arena.Fits` — an arena in which every integer fits.
* `Discipline.words` — the discipline, with its laws.
* **`History.integers_fit`** — at every point of every sequence of runs.
-/

namespace ArenaLisp

/-- Every integer that occurs in the value of a binding fits a machine word. -/
def Binding.Fits : Binding → Prop
  | .builtin _ => True
  | .constant value => value.Fits

/-- Every integer that occurs in a binding of an arena fits a machine word. -/
def Arena.Fits (a : Arena) : Prop := a.Entries fun _ entry => entry.2.Fits

/-- If a value came up at a moment, it is a short one. -/
def Moment.Brief (m : Moment) : Prop := ∀ v, m.event = .evaluated v → v.Short

instance (v : Value) : Decidable v.Short :=
  match v with
  | .string text => inferInstanceAs (Decidable (text.utf8ByteSize < 2 ^ 63))
  | .list items => inferInstanceAs (Decidable (items.length < 2 ^ 63))
  | .unit | .integer _ | .float _ | .lambda .. | .reference _ | .error _ => isTrue trivial

instance (m : Moment) : Decidable m.Brief :=
  match m with
  | ⟨.evaluated v, _⟩ =>
    decidable_of_iff v.Short ⟨fun h _ hv => Event.evaluated.inj hv ▸ h, fun h => h v rfl⟩
  | ⟨.opened _, _⟩ | ⟨.bound .., _⟩ | ⟨.made _, _⟩ | ⟨.released _, _⟩ =>
    isTrue (by simp [Moment.Brief])

/-! ## What was read fits -/

mutual

/-- Nodes that can have been read fit. -/
theorem Node.Readable.fits : ∀ {node : Node}, node.Readable → node.Fits
  | .list items, h => Node.fits_list.mpr (Node.fits_of_readableAll (by rwa [Node.Readable] at h))
  | .symbol _, _ => by simp [Node.Fits, Node.integers]
  | .literal (.string _), _ => by simp [Node.Fits, Node.integers]
  | .literal (.float _), _ => by simp [Node.Fits, Node.integers]
  | .literal (.integer n), h => by
      have hn : Decimal.inWord n = true := by rwa [Node.Readable] at h
      simpa [Node.Fits, Node.integers] using fitsWord_iff.mpr hn

theorem Node.fits_of_readableAll : ∀ {nodes : List Node}, Node.ReadableAll nodes →
    ∀ node ∈ nodes, node.Fits
  | [], _ => by simp
  | node :: rest, h => by
      have hcons : node.Readable ∧ Node.ReadableAll rest := by rwa [Node.ReadableAll] at h
      exact List.forall_mem_cons.mpr ⟨hcons.1.fits, Node.fits_of_readableAll hcons.2⟩

end

/-- No integer is bound at the start. -/
lemma Arena.fits_default : Arena.default.Fits := by
  refine entries_default.mono ?_
  rintro _ _ ⟨-, rfl | ⟨b, -, rfl⟩⟩
  · exact Value.fits_float _
  · trivial

/-! ## The discipline -/

/-- Integers fit as long as strings and lists are short. -/
def Discipline.words : Discipline where
  arenas := Arena.Fits
  values := Value.Fits
  nodes := Node.Fits
  granted := Value.Short

lemma Discipline.words_laws : Discipline.words.Laws where
  unit := Value.fits_unit
  reference := Value.fits_reference
  literal := Value.fits_ofLiteral
  lambda := Value.fits_lambda.trans ⟨fun h => ⟨fun _ _ => trivial, h⟩, fun h => h.2⟩
  symbol _ := trivial
  items := Node.fits_list.mp
  parsed hp := Node.fits_of_readableAll (readable_of_parse hp)
  apply ha := (Builtin.yields _ _ _).imp fun _ hv => hv ha
  found ha hl := by
    obtain ⟨_, hfits⟩ := Arena.Entries.lookup ha hl
    exact hfits
  define _ _ ha hv := Arena.Entries.insert ha hv
  capture h ha := Arena.Entries.capture ha h
  child h ha := Arena.Entries.child ha h
  release h ha := Arena.Entries.release ha h

/-- Whatever has been run, the integers fit at every moment and at the end. -/
lemma History.kept_words {past : List Moment} {w : World} (h : History past w) :
    (∀ m ∈ past, m.Brief) → (∀ m ∈ past, Discipline.words.Kept m) ∧ w.arena.Fits :=
  h.kept Discipline.words_laws Arena.fits_default

/-- **Integers fit a machine word.**  Whatever has been run on an arena, as long as the strings and
lists that came up were short: at every point of it every integer in a binding of the arena fits a
machine word, and so does every integer in a value that came up.  Both are meant to include the
items of lists and the bodies of lambdas.  The value that the next run comes to is no exception. -/
theorem History.integers_fit {past : List Moment} {w : World} (h : History past w)
    (hbrief : ∀ m ∈ past, m.Brief) :
    (∀ m ∈ past, m.arena.Fits ∧ ∀ v, m.event = .evaluated v → v.Fits) ∧
    w.arena.Fits ∧
    ∀ s depth source env, env < w.arena.size →
      (∀ m ∈ (Journal.runWith (Journal.evaluateWith s depth) source env).moments w, m.Brief) →
      ∀ v w', runWith (evaluateWith s reclaimFrame depth) source env w = .ok v w' → v.Fits := by
  obtain ⟨hkept, hfits⟩ := h.kept_words hbrief
  refine ⟨hkept, hfits, ?_⟩
  intro s depth source env _ hnext v w' hrun
  have hends := Discipline.words_laws.ends_run s depth source env hfits hnext
  rw [hrun] at hends
  obtain ⟨_, _, hv⟩ := hends
  exact hv

/-- Both ends of the range come up, one as an argument and one in the body of a lambda. -/
theorem History.integers_fit_extremes :
    let s : Settings := {}
    let w : World := { arena := Arena.default }
    let source :=
      "(define k (lambda (x) (list x 9223372036854775807))) (length (k -9223372036854775808))"
    let past := (Journal.runWith (Journal.evaluateWith s 10) source 0).moments w
    ((past.filterMap fun m => match m.event with
      | .evaluated (.integer n) => some n
      | _ => none) = [-2 ^ 63, -2 ^ 63, 2 ^ 63 - 1, 2] ∧
      ∀ m ∈ past, m.Brief) ∧
    ((runWith (evaluateWith s reclaimFrame 10) source 0).after w).arena.Fits := by
  intro s w source past
  have h := History.run s 10 source 0 (.start (w := w) rfl) Arena.rooted_default.size_pos
  rw [List.nil_append] at h
  refine (and_iff_left_of_imp fun hpast => (h.integers_fit hpast.2).2.1).mpr ?_
  decide +kernel

end ArenaLisp
