import ArenaLisp.Library.Operations

/-!
# The library

The bindings that a script starts with: the constants, then the builtins, all in the root scope.
Scripts that test other scripts also have two assertions.

## Main definitions

- `Library.constants`, `Library.builtins`, `Library.assertions`: the bindings in order.
- `Arena.default`: an arena whose root scope holds the library.
- `Arena.withAssertions`: the same with the assertions.
-/

namespace ArenaLisp

namespace Library

/-- The ratio of a circle's circumference to its diameter. -/
def pi : Float := Float.ofScientific 3141592653589793 true 15

/-- The constants of the library. -/
def constants : List (String × Value) := [("pi", .float pi)]

/-- The builtins of the library, family by family: arithmetic, logic, lists, strings, the outside,
    introspection. -/
def builtins : List Builtin :=
  [⟨"+", .nonEmpty (.fold .add)⟩, ⟨"-", .nonEmpty (.fold .sub)⟩,
   ⟨"*", .nonEmpty (.fold .mul)⟩, ⟨"/", .nonEmpty (.fold .div)⟩,
   ⟨"mod", .binary .mod⟩, ⟨"==", .binary .equals⟩, ⟨"<", .binary .less⟩, ⟨">", .binary .greater⟩,
   ⟨"not", .unary .not⟩, ⟨"and", .binary .and⟩, ⟨"or", .binary .or⟩,
   ⟨"list", .variadic .list⟩, ⟨"car", .unary .car⟩, ⟨"cdr", .unary .cdr⟩,
   ⟨"cons", .binary .cons⟩, ⟨"length", .unary .length⟩, ⟨"endp", .unary .endp⟩,
   ⟨"begin", .variadic .last⟩,
   ⟨"str-split", .binary .split⟩, ⟨"str-lines", .unary .lines⟩,
   ⟨"str-concat", .variadic .concat⟩, ⟨"str-join", .binary .join⟩,
   ⟨"to-string", .nonEmpty .toText⟩,
   ⟨"print", .variadic .print⟩, ⟨"read-line", .nullary .readLine⟩,
   ⟨"read-file", .unary .readFile⟩, ⟨"parse-int", .unary .parseInt⟩, ⟨"system", .unary .system⟩,
   ⟨"debug", .variadic .debug⟩, ⟨"type-of", .nonEmpty .typeOf⟩,
   ⟨"local-env", .nullary .localNames⟩, ⟨"global-env", .nullary .allNames⟩,
   ⟨"error", .unary .error⟩]

/-- The assertions of test scripts. -/
def assertions : List Builtin :=
  [⟨"assert", .variadic .assertAll⟩, ⟨"assert-eq", .binary .assertEqual⟩]

end Library

namespace Arena

/-- The arena with builtins bound under their names in the scope of a handle. -/
def register (a : Arena) (h : Handle) (builtins : List Builtin) : Arena :=
  builtins.foldl (fun a b => a.insert h b.name (.builtin b)) a

/-- An arena whose root scope holds the library. -/
def default : Arena :=
  (Library.constants.foldl (fun a (name, value) => a.define 0 name value) fresh).register 0
    Library.builtins

/-- An arena whose root scope holds the library and the assertions. -/
def withAssertions : Arena := default.register 0 Library.assertions

end Arena

end ArenaLisp
