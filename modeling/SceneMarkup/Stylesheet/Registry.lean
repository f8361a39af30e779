import Std.Data.TreeMap
import Std.Data.TreeSet
import SceneMarkup.Css.Declaration

/-!
# The registry of classes

A registry turns requests for style into class names and keeps the rule of each class.

* `Request`: a shared utility, known by a key, or a list of declarations, known by its text;
* `Rule`: a class and the lines of its rule;
* `Registry.mint`: the first free name of a base: the base itself, then with a number from two on;
* `Registry.intern`: the class of a request. A utility keeps the rule of its first request; equal
  texts share a class whatever their base;
* `Registry.sorted`: the rules by base and number.
-/

namespace SceneMarkup

open Css (Declaration)

/-- A request for style. -/
inductive Request where
  /-- A utility known by `key`, whose class is named for `name`. -/
  | utility (key name : String) (declarations : List Declaration)
  /-- A list of declarations, known by its text. -/
  | own (base : String) (declarations : List Declaration)
  deriving DecidableEq, Repr

/-- What a request declares. -/
def Request.declarations : Request → List Declaration
  | utility _ _ declarations => declarations
  | own _ declarations => declarations

/-- A class and its rule. -/
structure Rule where
  className : String
  baseName : String
  /-- Zero for the base itself, else the number behind it. -/
  suffix : Nat
  body : List String
  deriving DecidableEq, Repr, Inhabited

/-- The rules so far, and what is known about names. -/
structure Registry where
  /-- The class of each text of declarations. -/
  signatures : Std.TreeMap String String := {}
  /-- The class of each utility key. -/
  utilities : Std.TreeMap String String := {}
  /-- The last candidate that each base has tried. -/
  counters : Std.TreeMap String Nat := {}
  taken : Std.TreeSet String := {}
  /-- The latest first. -/
  rules : List Rule := []

/-- The text that a list of declarations is known by. -/
def signature (declarations : List Declaration) : String :=
  "\n".intercalate (Css.lines declarations)

/-- The `n`-th name of a base. -/
def candidate (base : String) (n : Nat) : String :=
  if n ≤ 1 then base else base ++ "-" ++ toString n

/-- The number that the `n`-th name of a base has. -/
def candidateSuffix (n : Nat) : Nat := if n ≤ 1 then 0 else n

/-- The first candidate from the `n`-th on that is free. Of more candidates than names are taken one
has to be, so the last of them needs no look. -/
def firstFree (taken : Std.TreeSet String) (base : String) : (room n : Nat) → Nat
  | 0, n => n
  | room + 1, n =>
    if taken.contains (candidate base n) then firstFree taken base room (n + 1) else n

namespace Registry

instance : Inhabited Registry := ⟨{}⟩

/-- How many rules there are. -/
def size (registry : Registry) : Nat := registry.rules.length

def isEmpty (registry : Registry) : Bool := registry.rules.isEmpty

/-- The last candidate that a base has tried. -/
def counter (registry : Registry) (base : String) : Nat := registry.counters.getD base 0

/-- Takes the first free name of a base, as the number of its candidate. -/
def mint (registry : Registry) (base : String) : Nat × Registry :=
  let n := firstFree registry.taken base registry.taken.size (registry.counter base + 1)
  (n, { registry with
    counters := registry.counters.insert base n
    taken := registry.taken.insert (candidate base n) })

/-- Takes the first free name of a base and gives it a rule. -/
def addRule (registry : Registry) (base : String) (declarations : List Declaration) :
    String × Registry :=
  let (n, registry) := registry.mint base
  let rule : Rule := ⟨candidate base n, base, candidateSuffix n, Css.lines declarations⟩
  (rule.className, { registry with rules := rule :: registry.rules })

/-- The class of a request. -/
def intern (registry : Registry) : Request → String × Registry
  | .utility key name declarations =>
    match registry.utilities[key]? with
    | some className => (className, registry)
    | none =>
      let (className, registry) := registry.addRule name declarations
      (className, { registry with utilities := registry.utilities.insert key className })
  | .own base declarations =>
    match registry.signatures[signature declarations]? with
    | some className => (className, registry)
    | none =>
      let (className, registry) := registry.addRule base declarations
      (className,
        { registry with
          signatures := registry.signatures.insert (signature declarations) className })

/-- The classes of requests, one after the other. -/
def internAll (registry : Registry) : List Request → List String × Registry
  | [] => ([], registry)
  | request :: rest =>
    let (className, registry) := registry.intern request
    let (classNames, registry) := registry.internAll rest
    (className :: classNames, registry)

/-- A free name of a base, without a rule. -/
def uniqueName (registry : Registry) (base : String) : String × Registry :=
  let (n, registry) := registry.mint base
  (candidate base n, registry)

end Registry

namespace Rule

/-- The order of rules: by base, then by number. -/
def precedes (a b : Rule) : Bool :=
  decide (a.baseName < b.baseName) || (a.baseName == b.baseName && decide (a.suffix ≤ b.suffix))

/-- The written form of a rule. -/
def text (rule : Rule) : String :=
  "." ++ rule.className ++ " \x7b\n" ++ String.join
    (rule.body.map fun line => "  " ++ line ++ "\n") ++
    "\x7d\n"

end Rule

namespace Registry

/-- The rules by base and number. -/
def sorted (registry : Registry) : List Rule := registry.rules.reverse.mergeSort Rule.precedes

/-- The rules as style text, a blank line between each two. -/
def css (registry : Registry) : String := "\n".intercalate (registry.sorted.map Rule.text)

end Registry

end SceneMarkup
