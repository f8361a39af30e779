import SceneMarkup.Proofs.Stylesheet.Interning
import SceneMarkup.Proofs.Stylesheet.Order

/-!
# What a registry answers

Whatever a registry is asked for, and in whatever order, no name is given out for two things, and
what was asked for once gets the same answer ever after.

* `Call`, `Registry.answer`, `Registry.run`: what a registry may be asked for, its answer, and the
  answers to calls one after the other;
* `Registry.Kept`: what holds of a registry and of the names that it has given out without a rule;
* `Kept.answer`, `Kept.run`: every call keeps it, and so does every run of calls;
* `recalled?_run`, `recalled?_of_mem_run`: what is remembered stays, so a request is answered as it
  was at first;
* `registry_accounts`: what all that says about the answers in a run, and about the rules after it.
-/

namespace SceneMarkup

open Css (Declaration)

/-- What a registry may be asked for. -/
inductive Call where
  /-- The class of a request. -/
  | intern (request : Request)
  /-- A free name of a base, without a rule. -/
  | name (base : String)

/-- The names in a history that were given out without a rule. -/
def looseNames (history : List (Call × String)) : List String :=
  history.filterMap fun (call, given) =>
    match call with
    | .name _ => some given
    | .intern _ => none

namespace Registry

/-- The answer to a call. -/
def answer (registry : Registry) : Call → String × Registry
  | .intern request => registry.intern request
  | .name base => registry.uniqueName base

/-- Calls one after the other, each with its answer, and the registry after them. -/
def run (registry : Registry) : List Call → List (Call × String) × Registry
  | [] => ([], registry)
  | call :: rest =>
    let (given, registry) := registry.answer call
    let (history, registry) := registry.run rest
    ((call, given) :: history, registry)

theorem run_cons (registry : Registry) (call : Call) (rest : List Call) :
    registry.run (call :: rest) =
      ((call, (registry.answer call).1) :: ((registry.answer call).2.run rest).1,
        ((registry.answer call).2.run rest).2) :=
  rfl

theorem run_append (registry : Registry) (first second : List Call) :
    registry.run (first ++ second) =
      ((registry.run first).1 ++ ((registry.run first).2.run second).1,
        ((registry.run first).2.run second).2) := by
  induction first generalizing registry with
  | nil => rfl
  | cons call rest ih => rw [List.cons_append, run_cons, run_cons, ih]; rfl

theorem map_fst_run (registry : Registry) (calls : List Call) :
    (registry.run calls).1.map Prod.fst = calls := by
  induction calls generalizing registry with
  | nil => rfl
  | cons call rest ih => rw [run_cons, List.map_cons, ih]

/-! ### What every call keeps -/

/-- What holds of a registry and of the names that it has given out without a rule. -/
structure Kept (registry : Registry) (loose : List String) : Prop where
  /-- No name is given out for two things. -/
  nodup : (registry.rules.map Rule.className ++ loose).Nodup
  /-- What is taken is what was given out. -/
  taken : ∀ name, name ∈ registry.taken ↔ name ∈ registry.rules.map Rule.className ++ loose
  tried : registry.Tried
  spelled : ∀ rule ∈ registry.rules, rule.Spelled
  /-- A base has tried all numbers of its rules. -/
  numbered : ∀ rule ∈ registry.rules, rule.suffix ≤ registry.counter rule.baseName
  /-- The class of a text stands for the text. -/
  signatures : ∀ text className : String, registry.signatures[text]? = some className →
    registry.ruleText? className = some text
  /-- The class of a key has a rule. -/
  utilities : ∀ key className : String, registry.utilities[key]? = some className →
    className ∈ registry.rules.map Rule.className
  /-- The class of a text is the class of no key. -/
  apart : ∀ text key className : String, registry.signatures[text]? = some className →
    registry.utilities[key]? ≠ some className

theorem kept_empty : Kept {} [] where
  nodup := List.nodup_nil
  taken := by simp
  tried := tried_empty
  spelled := fun _ mem => by cases mem
  numbered := fun _ mem => by cases mem
  signatures := (@faithful_empty fun _ => []).signatures
  utilities := fun key className h => by
    rw [show ({} : Registry).utilities = {} from rfl, Std.TreeMap.getElem?_emptyc] at h
    cases h
  apart := fun text key className h => by
    rw [show ({} : Registry).signatures = {} from rfl, Std.TreeMap.getElem?_emptyc] at h
    cases h

theorem spelled_newRule (registry : Registry) (base : String) (declarations : List Declaration) :
    (registry.newRule base declarations).Spelled := by
  unfold Rule.Spelled newRule candidate candidateSuffix
  by_cases bare : (registry.mint base).1 ≤ 1
  · simp only [if_pos bare, if_true]
  · have numbered : (registry.mint base).1 ≠ 0 := by omega
    simp only [if_neg bare, if_neg numbered]

namespace Kept

variable {registry : Registry} {loose : List String}

theorem wellNamed (kept : registry.Kept loose) : registry.WellNamed where
  nodup := (List.nodup_append.1 kept.nodup).1
  taken := fun _ mem => (kept.taken _).2 (List.mem_append_left _ (List.mem_map_of_mem mem))

/-- No more names are taken than were given out. -/
theorem size_taken_le (kept : registry.Kept loose) :
    registry.taken.size ≤ registry.rules.length + loose.length := by
  have counted := size_le_length_of_subset fun name mem => (kept.taken name).1 mem
  rwa [List.length_append, List.length_map] at counted

/-- A name that is minted was not given out. -/
theorem minted_not_mem (kept : registry.Kept loose) (base : String) :
    candidate base (registry.mint base).1 ∉ registry.rules.map Rule.className ++ loose :=
  fun old => registry.candidate_mint_not_mem base ((kept.taken _).2 old)

/-- The class of a text has a rule. -/
theorem mem_of_signature (kept : registry.Kept loose) {text className : String}
    (h : registry.signatures[text]? = some className) :
    className ∈ registry.rules.map Rule.className := by
  obtain ⟨rule, mem, rfl, -⟩ :=
    kept.wellNamed.ruleText?_eq_some_iff.1 (kept.signatures text className h)
  exact List.mem_map_of_mem mem

theorem uniqueName (kept : registry.Kept loose) (base : String) :
    (registry.uniqueName base).2.Kept (loose ++ [(registry.uniqueName base).1]) where
  nodup := by
    rw [← List.append_assoc, List.nodup_append_comm, List.singleton_append, List.nodup_cons]
    exact ⟨kept.minted_not_mem base, kept.nodup⟩
  taken := by
    intro name
    rw [← List.append_assoc, List.mem_append, List.mem_singleton, or_comm, eq_comm]
    exact mem_taken_mint.trans (or_congr_right (kept.taken name))
  tried := kept.tried.mint base
  spelled := kept.spelled
  numbered := fun rule mem =>
    Nat.le_trans (kept.numbered rule mem) (registry.counter_le_counter_mint base rule.baseName)
  signatures := kept.signatures
  utilities := kept.utilities
  apart := kept.apart

theorem addRule (kept : registry.Kept loose) (base : String) (declarations : List Declaration) :
    (registry.addRule base declarations).2.Kept loose where
  nodup := by
    rw [rules_addRule, List.map_cons, List.cons_append, List.nodup_cons]
    exact ⟨kept.minted_not_mem base, kept.nodup⟩
  taken := by
    intro name
    rw [rules_addRule, List.map_cons, List.cons_append, List.mem_cons, eq_comm]
    exact mem_taken_addRule.trans (or_congr_right (kept.taken name))
  tried := kept.tried.mint base
  spelled := by
    rw [rules_addRule]
    exact List.forall_mem_cons.2 ⟨spelled_newRule registry base declarations, kept.spelled⟩
  numbered := by
    rw [rules_addRule]
    refine List.forall_mem_cons.2 ⟨?_, fun rule mem => Nat.le_trans (kept.numbered rule mem)
      (registry.counter_le_counter_mint base rule.baseName)⟩
    show candidateSuffix (registry.mint base).1 ≤ (registry.mint base).2.counter base
    rw [counter_mint, if_pos rfl, candidateSuffix]
    split
    · exact Nat.zero_le _
    · exact Nat.le_refl _
  signatures := fun text className h =>
    kept.wellNamed.ruleText?_addRule_of_some (kept.signatures text className h)
  utilities := fun key className h => List.mem_cons_of_mem _ (kept.utilities key className h)
  apart := kept.apart

/-- Remembering a class for the text that it stands for. -/
theorem insertSignature (kept : registry.Kept loose) {text className : String}
    (stands : registry.ruleText? className = some text)
    (apart : ∀ key : String, registry.utilities[key]? ≠ some className) :
    Kept { registry with signatures := registry.signatures.insert text className } loose where
  nodup := kept.nodup
  taken := kept.taken
  tried := kept.tried
  spelled := kept.spelled
  numbered := kept.numbered
  signatures := by
    intro other otherClass known
    rw [Std.TreeMap.getElem?_insert] at known
    split at known
    · next same =>
      cases known
      rw [← Std.LawfulEqCmp.eq_of_compare same]
      exact stands
    · exact kept.signatures other otherClass known
  utilities := kept.utilities
  apart := by
    intro other key otherClass known
    rw [Std.TreeMap.getElem?_insert] at known
    split at known
    · cases known
      exact apart key
    · exact kept.apart other key otherClass known

/-- Remembering a class that has a rule for a key. -/
theorem insertUtility (kept : registry.Kept loose) {key className : String}
    (ruled : className ∈ registry.rules.map Rule.className)
    (apart : ∀ text : String, registry.signatures[text]? ≠ some className) :
    Kept { registry with utilities := registry.utilities.insert key className } loose where
  nodup := kept.nodup
  taken := kept.taken
  tried := kept.tried
  spelled := kept.spelled
  numbered := kept.numbered
  signatures := kept.signatures
  utilities := by
    intro other otherClass known
    rw [Std.TreeMap.getElem?_insert] at known
    split at known
    · cases known
      exact ruled
    · exact kept.utilities other otherClass known
  apart := by
    intro text other otherClass known knownKey
    rw [Std.TreeMap.getElem?_insert] at knownKey
    split at knownKey
    · cases knownKey
      exact apart text known
    · exact kept.apart text other otherClass known knownKey

theorem intern (kept : registry.Kept loose) (request : Request) :
    (registry.intern request).2.Kept loose := by
  cases known : registry.recalled? request with
  | some className =>
    rw [intern_of_recalled known]
    exact kept
  | none =>
    rw [intern_of_unknown known]
    have more := kept.addRule request.base request.declarations
    -- A class that is remembered already has a rule, so it is not the new one.
    have fresh : (registry.newRule request.base request.declarations).className ∉
        registry.rules.map Rule.className :=
      fun old => kept.minted_not_mem request.base (List.mem_append_left _ old)
    cases request with
    | utility key name declarations =>
      exact more.insertUtility List.mem_cons_self fun text taken =>
        fresh (kept.mem_of_signature taken)
    | own base declarations =>
      exact more.insertSignature (kept.wellNamed.ruleText?_addRule base declarations)
        fun key taken => fresh (kept.utilities key _ taken)

/-- Every call keeps it. -/
theorem answer (kept : registry.Kept loose) (call : Call) :
    (registry.answer call).2.Kept (loose ++ looseNames [(call, (registry.answer call).1)]) := by
  cases call with
  | intern request =>
    show (registry.intern request).2.Kept (loose ++ [])
    rw [List.append_nil]
    exact kept.intern request
  | name base => exact kept.uniqueName base

/-- Every run of calls keeps it. -/
theorem run (kept : registry.Kept loose) (calls : List Call) :
    (registry.run calls).2.Kept (loose ++ looseNames (registry.run calls).1) := by
  induction calls generalizing registry loose with
  | nil =>
    show registry.Kept (loose ++ [])
    rwa [List.append_nil]
  | cons call rest ih =>
    have next := ih (kept.answer call)
    rw [List.append_assoc, looseNames, looseNames, ← List.filterMap_append] at next
    exact next

end Kept

/-! ### The same answer again -/

theorem recalled?_uniqueName (registry : Registry) (base : String) (request : Request) :
    (registry.uniqueName base).2.recalled? request = registry.recalled? request := by
  cases request <;> rfl

/-- What is remembered stays. -/
theorem recalled?_run {registry : Registry} {request : Request} {className : String}
    (known : registry.recalled? request = some className) (calls : List Call) :
    (registry.run calls).2.recalled? request = some className := by
  induction calls generalizing registry with
  | nil => exact known
  | cons call rest ih =>
    rw [run_cons]
    refine ih ?_
    cases call with
    | intern other =>
      by_cases alike : other.Alike request
      · rw [← recalled?_congr _ alike] at known
        rw [answer, intern_of_recalled known, ← recalled?_congr _ alike]
        exact known
      · exact (registry.recalled?_intern_of_not_alike alike).trans known
    | name base => exact (registry.recalled?_uniqueName base request).trans known

/-- After a run every request of it is remembered with the answer that it was given. -/
theorem recalled?_of_mem_run {registry : Registry} {calls : List Call} {request : Request}
    {className : String} (mem : (Call.intern request, className) ∈ (registry.run calls).1) :
    (registry.run calls).2.recalled? request = some className := by
  induction calls generalizing registry with
  | nil => cases mem
  | cons call rest ih =>
    rw [run_cons] at mem ⊢
    rcases List.mem_cons.1 mem with first | later
    · cases first
      exact recalled?_run (registry.recalled?_intern_of_alike (Request.Alike.refl request)) rest
    · exact ih later

/-- What a run does not ask for stays as it is. -/
theorem recalled?_run_of_not_alike (registry : Registry) {request : Request} {calls : List Call}
    (differ : ∀ other, .intern other ∈ calls → ¬ other.Alike request) :
    (registry.run calls).2.recalled? request = registry.recalled? request := by
  induction calls generalizing registry with
  | nil => rfl
  | cons call rest ih =>
    have later := ih (registry.answer call).2 fun other mem =>
      differ other (List.mem_cons_of_mem _ mem)
    refine later.trans ?_
    cases call with
    | intern other => exact registry.recalled?_intern_of_not_alike (differ other List.mem_cons_self)
    | name base => exact registry.recalled?_uniqueName base request

theorem rules_suffix_run (registry : Registry) (calls : List Call) :
    registry.rules <:+ (registry.run calls).2.rules := by
  induction calls generalizing registry with
  | nil => exact List.suffix_rfl
  | cons call rest ih =>
    refine List.IsSuffix.trans ?_ (ih (registry.answer call).2)
    cases call with
    | intern request => exact registry.rules_suffix_intern request
    | name base => exact List.suffix_rfl

/-! ### A run on a new registry -/

/-- The first call for a request makes a rule, and the request is remembered with the class of
it. -/
theorem exists_rule_of_first_call {before : List Call} {request : Request}
    (first : ∀ other, .intern other ∈ before → ¬ other.Alike request) (after : List Call) :
    ∃ rule ∈ (run {} (before ++ .intern request :: after)).2.rules,
      rule.baseName = request.base ∧ rule.body = Css.lines request.declarations ∧
        (run {} (before ++ .intern request :: after)).2.recalled? request =
          some rule.className := by
  have unknown : (run {} before).2.recalled? request = none := by
    rw [recalled?_run_of_not_alike _ first]
    cases request <;> exact Std.TreeMap.getElem?_emptyc
  have answered := intern_of_unknown unknown
  rw [run_append, run_cons, answer, answered]
  refine ⟨(run {} before).2.newRule request.base request.declarations,
    (rules_suffix_run _ after).subset ?_, rfl, rfl, ?_⟩
  · rw [rules_remember]
    exact List.mem_cons_self
  · exact recalled?_run (recalled?_remember_of_alike _ _ (Request.Alike.refl request)) after

/-- Lists of declarations that are remembered share a class if and only if they share their text. -/
theorem Kept.eq_iff_signature_eq {registry : Registry} {loose : List String}
    (kept : registry.Kept loose) {base base' : String}
    {declarations declarations' : List Declaration} {className className' : String}
    (known : registry.recalled? (.own base declarations) = some className)
    (known' : registry.recalled? (.own base' declarations') = some className') :
    className = className' ↔ signature declarations = signature declarations' := by
  constructor
  · rintro rfl
    -- The class stands for both texts.
    exact Option.some.inj ((kept.signatures _ _ known).symm.trans (kept.signatures _ _ known'))
  · intro text
    rw [recalled?, ← text] at known'
    exact Option.some.inj (known.symm.trans known')

/-- What is promised of the answers in a run, and of the rules after it. -/
structure Accounts (calls : List Call) (history : List (Call × String)) (registry : Registry) :
    Prop where
  /-- Every call is answered, in turn. -/
  answered : history.map Prod.fst = calls
  /-- The classes of the rules, and the names that were given out without a rule, all differ. -/
  distinct : (registry.rules.map Rule.className ++ looseNames history).Nodup
  /-- Two lists of declarations share a class if and only if they share their text. -/
  own_eq_iff : ∀ {base base' : String} {declarations declarations' : List Declaration}
    {className className' : String},
    (.intern (.own base declarations), className) ∈ history →
    (.intern (.own base' declarations'), className') ∈ history →
    (className = className' ↔ signature declarations = signature declarations')
  /-- The lines of the class of a list of declarations are its text. -/
  own_body : ∀ {base : String} {declarations : List Declaration} {className : String},
    (.intern (.own base declarations), className) ∈ history →
    ∃ rule ∈ registry.rules, rule.className = className ∧
      "\n".intercalate rule.body = signature declarations
  /-- No list of declarations has the class of a utility. -/
  own_ne_utility : ∀ {base key name : String} {declarations declarations' : List Declaration}
    {className className' : String},
    (.intern (.own base declarations), className) ∈ history →
    (.intern (.utility key name declarations'), className') ∈ history → className ≠ className'
  /-- The first call for a key makes the rule that every call for the key is answered with. -/
  utility_first : ∀ {before after : List Call} {key name : String}
    {declarations : List Declaration},
    calls = before ++ .intern (.utility key name declarations) :: after →
    (∀ name' declarations', .intern (.utility key name' declarations') ∉ before) →
    ∃ rule ∈ registry.rules, rule.baseName = name ∧ rule.body = Css.lines declarations ∧
      ∀ name' declarations' className,
        (.intern (.utility key name' declarations'), className) ∈ history →
        className = rule.className
  /-- A class is its base, with its number behind it, if it has one. -/
  spelled : ∀ rule ∈ registry.rules, rule.Spelled
  /-- The sorted rules are the rules, and strictly increase. -/
  sorted : registry.sorted.Perm registry.rules ∧ registry.sorted.Pairwise Rule.StrictlyPrecedes
  /-- The style text is the same for every order of the rules. -/
  css_eq : ∀ other : Registry, other.rules.Perm registry.rules → other.css = registry.css
  /-- No base has tried more candidates than names were given out. -/
  counted : ∀ base, registry.counter base ≤ registry.rules.length + (looseNames history).length
  /-- The numbers of rules are candidates that were tried. -/
  numbered : ∀ rule ∈ registry.rules, rule.suffix ≤ registry.counter rule.baseName

/-- **A registry keeps its accounts**, whatever it is asked for, and in whatever order. -/
theorem registry_accounts (calls : List Call) :
    Accounts calls (run {} calls).1 (run {} calls).2 := by
  have kept : (run {} calls).2.Kept (looseNames (run {} calls).1) := kept_empty.run calls
  refine
    { answered := map_fst_run _ calls
      distinct := kept.nodup
      own_eq_iff := fun mem mem' =>
        kept.eq_iff_signature_eq (recalled?_of_mem_run mem) (recalled?_of_mem_run mem')
      own_body := fun mem =>
        kept.wellNamed.ruleText?_eq_some_iff.1 (kept.signatures _ _ (recalled?_of_mem_run mem))
      own_ne_utility := ?_
      utility_first := ?_
      spelled := kept.spelled
      sorted := ⟨sorted_perm _, pairwise_sorted kept.spelled kept.wellNamed.nodup⟩
      css_eq := fun other same => css_eq_of_perm kept.spelled kept.wellNamed.nodup same
      counted := fun base => Nat.le_trans (kept.tried.counter_le base) kept.size_taken_le
      numbered := kept.numbered }
  · rintro base key name declarations declarations' className className' mem mem' rfl
    exact kept.apart _ _ _ (recalled?_of_mem_run mem) (recalled?_of_mem_run mem')
  · rintro before after key name declarations rfl absent
    have first : ∀ other, .intern other ∈ before →
        ¬ other.Alike (.utility key name declarations) := by
      rintro (_ | _) mem alike
      · cases alike
        exact absent _ _ mem
      · cases alike
    obtain ⟨rule, mem, base, body, known⟩ := exists_rule_of_first_call first after
    refine ⟨rule, mem, base, body, fun name' declarations' className answered => ?_⟩
    exact Option.some.inj ((recalled?_of_mem_run answered).symm.trans known)

end Registry

end SceneMarkup
