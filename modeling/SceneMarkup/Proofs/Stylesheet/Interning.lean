import Std.Data.TreeMap.Lemmas
import SceneMarkup.Proofs.Stylesheet.Minting

/-!
# What classes stand for

A registry only ever adds rules, under names that are new, so what a class stands for never changes.

* `Registry.ruleText?`: the text of the rule of a class that is defined by exactly one rule;
* `WellNamed`: no two rules share a class, and every class of a rule is taken;
* `ruleText?_eq_of_suffix`: more rules leave the text of a class alone;
* `Request.ruleText`: the text of what a request declares;
* `Request.Alike`, `recalled?`: requests that share an answer, and the class that is remembered for
  them;
* `intern_of_recalled`, `intern_of_unknown`: the two ways in which a request is answered;
* `Request.Keyed`, `Faithful`: utilities of one key declare the same, and the classes that a
  registry remembers stand for what they are remembered for;
* `exists_request_of_mem_rules`: every rule that is added is that of a request;
* `Faithful.intern`, `Faithful.internAll`: interning keeps this, and the class of a request stands
  for what the request declares.
-/

namespace SceneMarkup

open Css (Declaration)

/-- The text of the rule that a request asks for. -/
def Request.ruleText (request : Request) : String := signature request.declarations

namespace Registry

/-- The text of the rule of a class, if exactly one rule defines the class. -/
def ruleText? (registry : Registry) (className : String) : Option String :=
  match registry.rules.filter fun rule => rule.className == className with
  | [rule] => some ("\n".intercalate rule.body)
  | _ => none

/-- No two rules share a class, and every class of a rule is taken. -/
structure WellNamed (registry : Registry) : Prop where
  nodup : (registry.rules.map Rule.className).Nodup
  taken : ∀ rule ∈ registry.rules, rule.className ∈ registry.taken

/-- A class has one rule. -/
theorem WellNamed.eq_of_className {registry : Registry} (named : registry.WellNamed)
    {rule other : Rule} (mem : rule ∈ registry.rules) (memOther : other ∈ registry.rules)
    (same : rule.className = other.className) : rule = other :=
  List.inj_on_of_nodup_map named.nodup mem memOther same

/-- The only rule of its class. -/
theorem filter_className {rules : List Rule} (nodup : (rules.map Rule.className).Nodup)
    {rule : Rule} (h : rule ∈ rules) :
    (rules.filter fun other => other.className == rule.className) = [rule] := by
  induction rules with
  | nil => cases h
  | cons first rest ih =>
    obtain ⟨fresh, nodup⟩ := List.nodup_cons.1 nodup
    rcases List.mem_cons.1 h with rfl | later
    · have empty : (rest.filter fun other => other.className == rule.className) = [] := by
        refine List.filter_eq_nil_iff.2 fun other hother same => fresh ?_
        exact List.mem_map.2 ⟨other, hother, eq_of_beq same⟩
      rw [List.filter_cons, if_pos (beq_self_eq_true _), empty]
    · have differ : ¬ (first.className == rule.className) = true := fun same =>
        fresh (List.mem_map.2 ⟨rule, later, (eq_of_beq same).symm⟩)
      rw [List.filter_cons, if_neg differ, ih nodup later]

theorem WellNamed.ruleText?_eq_some_iff {registry : Registry} (named : registry.WellNamed)
    {className text : String} :
    registry.ruleText? className = some text ↔
      ∃ rule ∈ registry.rules, rule.className = className ∧ "\n".intercalate rule.body = text := by
  constructor
  · intro h
    unfold ruleText? at h
    split at h
    · next rule only =>
      have mem : rule ∈ registry.rules.filter fun rule => rule.className == className :=
        only ▸ List.mem_singleton_self rule
      obtain ⟨mem, same⟩ := List.mem_filter.1 mem
      exact ⟨rule, mem, eq_of_beq same, Option.some.inj h⟩
    · cases h
  · rintro ⟨rule, mem, rfl, rfl⟩
    rw [ruleText?, filter_className named.nodup mem]

/-- More rules, none of which shares a class with another, leave the text of a class alone. -/
theorem ruleText?_eq_of_suffix {registry later : Registry} (named : registry.WellNamed)
    (laterNamed : later.WellNamed) (grown : registry.rules <:+ later.rules)
    {className text : String} (h : registry.ruleText? className = some text) :
    later.ruleText? className = some text := by
  obtain ⟨rule, mem, hrule⟩ := named.ruleText?_eq_some_iff.1 h
  exact laterNamed.ruleText?_eq_some_iff.2 ⟨rule, grown.subset mem, hrule⟩

/-! ### Adding a rule -/

theorem wellNamed_empty : WellNamed {} := ⟨List.nodup_nil, fun _ h => by cases h⟩

/-- The rule that is added for declarations under a base. -/
def newRule (registry : Registry) (base : String) (declarations : List Declaration) : Rule :=
  ⟨candidate base (registry.mint base).1, base, candidateSuffix (registry.mint base).1,
    Css.lines declarations⟩

theorem rules_addRule (registry : Registry) (base : String) (declarations : List Declaration) :
    (registry.addRule base declarations).2.rules =
      registry.newRule base declarations :: registry.rules :=
  rfl

theorem mem_taken_addRule {registry : Registry} {base : String} {declarations : List Declaration}
    {name : String} :
    name ∈ (registry.addRule base declarations).2.taken ↔
      (registry.newRule base declarations).className = name ∨ name ∈ registry.taken := by
  show name ∈ registry.taken.insert (registry.newRule base declarations).className ↔ _
  rw [Std.TreeSet.mem_insert, Std.LawfulEqCmp.compare_eq_iff_eq]

theorem WellNamed.addRule {registry : Registry} (named : registry.WellNamed) (base : String)
    (declarations : List Declaration) : (registry.addRule base declarations).2.WellNamed where
  nodup := by
    rw [rules_addRule, List.map_cons, List.nodup_cons]
    -- A rule that has the new class already would make the minted name a taken one.
    refine ⟨fun old => ?_, named.nodup⟩
    obtain ⟨rule, mem, same⟩ := List.mem_map.1 old
    exact registry.candidate_mint_not_mem base (show (registry.newRule base declarations).className
      ∈ registry.taken from same ▸ named.taken rule mem)
  taken := by
    intro rule mem
    rw [rules_addRule] at mem
    rcases List.mem_cons.1 mem with rfl | old
    · exact mem_taken_addRule.2 (.inl rfl)
    · exact mem_taken_addRule.2 (.inr (named.taken rule old))

/-- The new class stands for the declarations that it was added for. -/
theorem WellNamed.ruleText?_addRule {registry : Registry} (named : registry.WellNamed)
    (base : String) (declarations : List Declaration) :
    (registry.addRule base declarations).2.ruleText? (registry.addRule base declarations).1 =
      some (signature declarations) := by
  refine (named.addRule base declarations).ruleText?_eq_some_iff.2
    ⟨registry.newRule base declarations, ?_, rfl, rfl⟩
  rw [rules_addRule]
  exact List.mem_cons_self

/-- The classes that had a text keep it. -/
theorem WellNamed.ruleText?_addRule_of_some {registry : Registry} (named : registry.WellNamed)
    {base : String} {declarations : List Declaration} {className text : String}
    (h : registry.ruleText? className = some text) :
    (registry.addRule base declarations).2.ruleText? className = some text :=
  ruleText?_eq_of_suffix named (named.addRule base declarations) ⟨[_], rfl⟩ h

end Registry

/-! ### Answers that are remembered -/

/-- What the class of a request is named for. -/
def Request.base : Request → String
  | .utility _ name _ => name
  | .own base _ => base

/-- Two requests that share an answer: utilities of one key, or declarations of one text. -/
def Request.Alike : Request → Request → Prop
  | .utility key _ _, .utility otherKey _ _ => key = otherKey
  | .own _ declarations, .own _ otherDeclarations =>
    signature declarations = signature otherDeclarations
  | .utility .., .own .. => False
  | .own .., .utility .. => False

theorem Request.Alike.refl (request : Request) : request.Alike request := by
  cases request <;> rfl

namespace Registry

/-- The class that is remembered for a request. -/
def recalled? (registry : Registry) : Request → Option String
  | .utility key _ _ => registry.utilities[key]?
  | .own _ declarations => registry.signatures[signature declarations]?

/-- Remembers a class for a request. -/
def remember (registry : Registry) (className : String) : Request → Registry
  | .utility key _ _ => { registry with utilities := registry.utilities.insert key className }
  | .own _ declarations =>
    { registry with signatures := registry.signatures.insert (signature declarations) className }

theorem rules_remember (registry : Registry) (className : String) (request : Request) :
    (registry.remember className request).rules = registry.rules := by
  cases request <;> rfl

theorem recalled?_congr (registry : Registry) {request other : Request}
    (alike : request.Alike other) :
    registry.recalled? request = registry.recalled? other := by
  cases request <;> cases other
  · exact congrArg (fun key : String => registry.utilities[key]?) alike
  · cases alike
  · cases alike
  · exact congrArg (fun text : String => registry.signatures[text]?) alike

theorem recalled?_remember_of_alike (registry : Registry) (className : String)
    {request other : Request} (alike : request.Alike other) :
    (registry.remember className request).recalled? other = some className := by
  rw [← recalled?_congr _ alike]
  cases request <;> exact Std.TreeMap.getElem?_insert_self

theorem recalled?_remember_of_not_alike (registry : Registry) (className : String)
    {request other : Request} (differ : ¬ request.Alike other) :
    (registry.remember className request).recalled? other = registry.recalled? other := by
  cases request <;> cases other
  · rw [recalled?, remember, Std.TreeMap.getElem?_insert, if_neg]
    · rfl
    · exact fun same => differ (Std.LawfulEqCmp.eq_of_compare same)
  · rfl
  · rfl
  · rw [recalled?, remember, Std.TreeMap.getElem?_insert, if_neg]
    · rfl
    · exact fun same => differ (Std.LawfulEqCmp.eq_of_compare same)

/-- A request for which a class is remembered changes nothing. -/
theorem intern_of_recalled {registry : Registry} {request : Request} {className : String}
    (known : registry.recalled? request = some className) :
    registry.intern request = (className, registry) := by
  cases request <;> simp only [recalled?] at known <;> simp only [intern, known]

/-- Any other request adds a rule, and its class is remembered. -/
theorem intern_of_unknown {registry : Registry} {request : Request}
    (unknown : registry.recalled? request = none) :
    registry.intern request =
      ((registry.addRule request.base request.declarations).1,
        (registry.addRule request.base request.declarations).2.remember
          (registry.addRule request.base request.declarations).1 request) := by
  cases request <;> simp only [recalled?] at unknown <;> simp only [intern, unknown] <;> rfl

/-- The answer to a request is remembered for all requests that are like it. -/
theorem recalled?_intern_of_alike (registry : Registry) {request other : Request}
    (alike : request.Alike other) :
    (registry.intern request).2.recalled? other = some (registry.intern request).1 := by
  cases known : registry.recalled? request with
  | some className =>
    rw [intern_of_recalled known, ← recalled?_congr _ alike]
    exact known
  | none =>
    rw [intern_of_unknown known]
    exact recalled?_remember_of_alike _ _ alike

/-- Nothing changes for other requests. -/
theorem recalled?_intern_of_not_alike (registry : Registry) {request other : Request}
    (differ : ¬ request.Alike other) :
    (registry.intern request).2.recalled? other = registry.recalled? other := by
  cases known : registry.recalled? request with
  | some className => rw [intern_of_recalled known]
  | none =>
    rw [intern_of_unknown known]
    refine (recalled?_remember_of_not_alike _ _ differ).trans ?_
    cases other <;> rfl

/-- A request leaves the rules as they are, or adds the rule of the class that it is answered
with. -/
theorem rules_intern (registry : Registry) (request : Request) :
    (registry.intern request).2.rules = registry.rules ∨
      (registry.intern request).1 = (registry.newRule request.base request.declarations).className ∧
        (registry.intern request).2.rules =
          registry.newRule request.base request.declarations :: registry.rules := by
  cases known : registry.recalled? request with
  | some className =>
    left
    rw [intern_of_recalled known]
  | none =>
    right
    rw [intern_of_unknown known, rules_remember]
    exact ⟨rfl, rfl⟩

theorem rules_suffix_intern (registry : Registry) (request : Request) :
    registry.rules <:+ (registry.intern request).2.rules := by
  rcases registry.rules_intern request with same | ⟨-, added⟩
  · exact ⟨[], same.symm⟩
  · rw [added]
    exact List.suffix_cons _ _

end Registry

/-! ### Interning -/

/-- A utility declares what its key means; a request for declarations has no key. -/
def Request.Keyed (meaning : String → List Declaration) : Request → Prop
  | .utility key _ declarations => declarations = meaning key
  | .own _ _ => True

instance Request.decidableKeyed (meaning : String → List Declaration) :
    DecidablePred (Request.Keyed meaning)
  | .utility key _ declarations => inferInstanceAs (Decidable (declarations = meaning key))
  | .own _ _ => isTrue trivial

namespace Registry

/-- The classes that a registry remembers stand for what they are remembered for: the class of a
text for that text, and the class of a key for what the key means. -/
structure Faithful (meaning : String → List Declaration) (registry : Registry) : Prop
    extends registry.WellNamed where
  signatures : ∀ text className, registry.signatures[text]? = some className →
    registry.ruleText? className = some text
  utilities : ∀ key className, registry.utilities[key]? = some className →
    registry.ruleText? className = some (signature (meaning key))

variable {meaning : String → List Declaration}

theorem faithful_empty : Faithful meaning {} where
  toWellNamed := wellNamed_empty
  signatures := fun text className h => by
    rw [show ({} : Registry).signatures = {} from rfl, Std.TreeMap.getElem?_emptyc] at h
    cases h
  utilities := fun key className h => by
    rw [show ({} : Registry).utilities = {} from rfl, Std.TreeMap.getElem?_emptyc] at h
    cases h

/-- A rule more, whatever it is for. -/
theorem Faithful.addRule {registry : Registry} (faithful : registry.Faithful meaning)
    (base : String) (declarations : List Declaration) :
    (registry.addRule base declarations).2.Faithful meaning where
  toWellNamed := faithful.toWellNamed.addRule base declarations
  signatures := fun text className h =>
    faithful.toWellNamed.ruleText?_addRule_of_some (faithful.signatures text className h)
  utilities := fun key className h =>
    faithful.toWellNamed.ruleText?_addRule_of_some (faithful.utilities key className h)

/-- Remembering a class for the text that it stands for. -/
theorem Faithful.insertSignature {registry : Registry} (faithful : registry.Faithful meaning)
    {text className : String} (h : registry.ruleText? className = some text) :
    Faithful meaning { registry with signatures := registry.signatures.insert text className } where
  toWellNamed := ⟨faithful.nodup, faithful.taken⟩
  signatures := by
    intro other otherClass hother
    rw [Std.TreeMap.getElem?_insert] at hother
    split at hother
    · next same =>
      cases hother
      rw [← Std.LawfulEqCmp.eq_of_compare same]
      exact h
    · exact faithful.signatures other otherClass hother
  utilities := faithful.utilities

/-- Remembering a class for a key whose meaning it stands for. -/
theorem Faithful.insertUtility {registry : Registry} (faithful : registry.Faithful meaning)
    {key className : String} (h : registry.ruleText? className = some (signature (meaning key))) :
    Faithful meaning { registry with utilities := registry.utilities.insert key className } where
  toWellNamed := ⟨faithful.nodup, faithful.taken⟩
  signatures := faithful.signatures
  utilities := by
    intro other otherClass hother
    rw [Std.TreeMap.getElem?_insert] at hother
    split at hother
    · next same =>
      cases hother
      rw [← Std.LawfulEqCmp.eq_of_compare same]
      exact h
    · exact faithful.utilities other otherClass hother

/-- A class that is remembered for a request stands for what it asks for. -/
theorem Faithful.ruleText?_of_recalled {registry : Registry} (faithful : registry.Faithful meaning)
    {request : Request} (keyed : request.Keyed meaning) {className : String}
    (known : registry.recalled? request = some className) :
    registry.ruleText? className = some request.ruleText := by
  cases request with
  | utility key name declarations =>
    -- The class is remembered for what the key means, and that is what the request declares.
    have stands := faithful.utilities key className known
    rwa [← show declarations = meaning key from keyed] at stands
  | own base declarations => exact faithful.signatures _ className known

theorem Faithful.remember {registry : Registry} (faithful : registry.Faithful meaning)
    {request : Request} (keyed : request.Keyed meaning) {className : String}
    (stands : registry.ruleText? className = some request.ruleText) :
    (registry.remember className request).Faithful meaning := by
  cases request with
  | utility key name declarations =>
    have means : signature declarations = signature (meaning key) := congrArg signature keyed
    exact faithful.insertUtility (means ▸ stands)
  | own base declarations => exact faithful.insertSignature stands

/-- Interning keeps a registry faithful, and the class that it gives stands for what is asked
for. -/
theorem Faithful.intern {registry : Registry} (faithful : registry.Faithful meaning)
    {request : Request} (keyed : request.Keyed meaning) :
    (registry.intern request).2.Faithful meaning ∧
      (registry.intern request).2.ruleText? (registry.intern request).1 =
        some request.ruleText := by
  have next : (registry.intern request).2.Faithful meaning := by
    cases known : registry.recalled? request with
    | some className =>
      rw [intern_of_recalled known]
      exact faithful
    | none =>
      rw [intern_of_unknown known]
      exact (faithful.addRule request.base request.declarations).remember keyed
        (faithful.toWellNamed.ruleText?_addRule request.base request.declarations)
  exact ⟨next, next.ruleText?_of_recalled keyed
    (registry.recalled?_intern_of_alike (Request.Alike.refl request))⟩

/-! ### Runs of requests -/

theorem internAll_cons (registry : Registry) (request : Request) (rest : List Request) :
    registry.internAll (request :: rest) =
      ((registry.intern request).1 :: ((registry.intern request).2.internAll rest).1,
        ((registry.intern request).2.internAll rest).2) :=
  rfl

theorem internAll_append (registry : Registry) (first second : List Request) :
    registry.internAll (first ++ second) =
      ((registry.internAll first).1 ++ ((registry.internAll first).2.internAll second).1,
        ((registry.internAll first).2.internAll second).2) := by
  induction first generalizing registry with
  | nil => rfl
  | cons request rest ih => rw [List.cons_append, internAll_cons, internAll_cons, ih]; rfl

theorem rules_suffix_internAll (registry : Registry) (requests : List Request) :
    registry.rules <:+ (registry.internAll requests).2.rules := by
  induction requests generalizing registry with
  | nil => exact List.suffix_rfl
  | cons request rest ih => exact (registry.rules_suffix_intern request).trans (ih _)

/-- Every rule that requests add is the rule of one of them: under a name of its base, with the
lines that it declares. -/
theorem exists_request_of_mem_rules {registry : Registry} {requests : List Request} {rule : Rule}
    (mem : rule ∈ (registry.internAll requests).2.rules) :
    rule ∈ registry.rules ∨ ∃ request ∈ requests, (∃ n, rule.className = candidate request.base n) ∧
      rule.body = Css.lines request.declarations := by
  induction requests generalizing registry with
  | nil => exact .inl mem
  | cons request rest ih =>
    rw [internAll_cons] at mem
    rcases ih mem with earlier | ⟨asked, later, answered⟩
    · rcases registry.rules_intern request with same | ⟨-, added⟩
      · exact .inl (same ▸ earlier)
      · rw [added] at earlier
        rcases List.mem_cons.1 earlier with rfl | old
        · exact .inr ⟨request, List.mem_cons_self, ⟨_, rfl⟩, rfl⟩
        · exact .inl old
    · exact .inr ⟨asked, List.mem_cons_of_mem _ later, answered⟩

theorem Faithful.internAll {registry : Registry} (faithful : registry.Faithful meaning)
    {requests : List Request} (keyed : ∀ request ∈ requests, request.Keyed meaning) :
    (registry.internAll requests).2.Faithful meaning := by
  induction requests generalizing registry with
  | nil => exact faithful
  | cons request rest ih =>
    obtain ⟨first, others⟩ := List.forall_mem_cons.1 keyed
    exact ih (faithful.intern first).1 others

/-- A registry that came from another one by requests that were all keyed. -/
theorem Faithful.ruleText?_internAll {registry : Registry} (faithful : registry.Faithful meaning)
    {requests : List Request} (keyed : ∀ request ∈ requests, request.Keyed meaning)
    {className text : String} (h : registry.ruleText? className = some text) :
    (registry.internAll requests).2.ruleText? className = some text :=
  ruleText?_eq_of_suffix faithful.toWellNamed (faithful.internAll keyed).toWellNamed
    (registry.rules_suffix_internAll requests) h

/-- The classes of requests stand for what each of them asks for. -/
theorem Faithful.mapM_ruleText? {registry : Registry} (faithful : registry.Faithful meaning)
    {requests : List Request} (keyed : ∀ request ∈ requests, request.Keyed meaning) :
    (registry.internAll requests).1.mapM (registry.internAll requests).2.ruleText? =
      some (requests.map Request.ruleText) := by
  induction requests generalizing registry with
  | nil => rfl
  | cons request rest ih =>
    obtain ⟨first, others⟩ := List.forall_mem_cons.1 keyed
    obtain ⟨next, stands⟩ := faithful.intern first
    -- The first class stands for its text at once, and still does when the others are interned.
    rw [internAll_cons, List.mapM_cons, next.ruleText?_internAll others stands, ih next others]
    rfl

end Registry

end SceneMarkup
