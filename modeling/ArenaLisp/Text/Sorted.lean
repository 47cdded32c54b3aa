/-!
# Texts in order, and their ends

Wherever texts are listed in order, the order is that of their code points.  Listings are often
restricted to the texts that start or end in a given way.

## Main definitions

- `sorted`: texts in order.
- `sortedOnce`: texts in order, each once.
- `startsWith`, `endsIn`: the two ends of a text.
-/

namespace ArenaLisp.Text

/-- Texts in the order of their code points. -/
def sorted (texts : List String) : List String := texts.mergeSort fun a b => decide (a ≤ b)

/-- Sorting only moves texts. -/
theorem sorted_perm (texts : List String) : (sorted texts).Perm texts := List.mergeSort_perm texts _

/-- A text is listed in order if and only if it is listed at all. -/
theorem mem_sorted {text : String} {texts : List String} : text ∈ sorted texts ↔ text ∈ texts :=
  List.mem_mergeSort

/-- Texts in order, each once. -/
def sortedOnce (texts : List String) : List String := (sorted texts).eraseDups

/-- Whether a text starts with another one. -/
def startsWith (beginning text : String) : Bool := beginning.toList.isPrefixOf text.toList

/-- Whether a text ends in another one. -/
def endsIn (ending text : String) : Bool := ending.toList.isSuffixOf text.toList

end ArenaLisp.Text
