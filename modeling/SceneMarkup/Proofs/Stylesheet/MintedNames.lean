import Mathlib.Data.Nat.Init
import SceneMarkup.Proofs.Stylesheet.Accounts

/-!
# Names that calls take

A call that is not answered from memory takes a name: of its base, the first one behind those that
the base has tried already which is no answer to an earlier call.

* `Search`: the search for a free name without a bound on its steps; `search_mint` says that it ends
  where the bounded one does, and nowhere else;
* `Registry.mints?`, `Registry.minted`: the base that a call takes a name of, and the bases and
  numbers of the names that calls take one after the other;
* `mem_taken_run`, `counter_run`: what is taken after a run of calls, and how far a base has come;
* `pairwise_minted`: the numbers of a base increase;
* `mem_answers_iff`: on a new registry, what is taken is what was answered;
* `map_snd_run_replicate`: the names of a base that nobody has taken one of;
* `minting_takes_first_free`: what all that says about the next name of a base.
-/

namespace SceneMarkup

/-! ### The search without a bound -/

/-- A search for a free candidate: it ends on one that is free, and goes on behind one that is
taken. -/
inductive Search (taken : Std.TreeSet String) (base : String) : Nat → Nat → Prop where
  | free {n : Nat} (isFree : candidate base n ∉ taken) : Search taken base n n
  | next {n last : Nat} (isTaken : candidate base n ∈ taken)
    (rest : Search taken base (n + 1) last) :
    Search taken base n last

/-- A search ends on the first free candidate. -/
theorem search_iff {taken : Std.TreeSet String} {base : String} {n last : Nat} :
    Search taken base n last ↔
      n ≤ last ∧ candidate base last ∉ taken ∧ ∀ m, n ≤ m → m < last →
        candidate base m ∈ taken := by
  constructor
  · intro search
    induction search with
    | free isFree =>
      exact ⟨Nat.le_refl _, isFree, fun m above below => absurd below (Nat.not_lt.2 above)⟩
    | next isTaken _ ih =>
      obtain ⟨le, isFree, passed⟩ := ih
      refine ⟨Nat.le_of_succ_le le, isFree, fun m above below => ?_⟩
      rcases Nat.eq_or_lt_of_le above with rfl | later
      · exact isTaken
      · exact passed m later below
  · rintro ⟨le, isFree, passed⟩
    -- The induction is on how far the end is.
    induction le using Nat.decreasingInduction with
    | self => exact .free isFree
    | of_succ k below ih =>
      exact .next (passed k (Nat.le_refl k) below)
        (ih fun m above => passed m (Nat.le_of_succ_le above))

namespace Registry

/-- The search from behind the counter of a base ends on the number that is minted, and on no
other. -/
theorem search_mint (registry : Registry) (base : String) {last : Nat} :
    Search registry.taken base (registry.counter base + 1) last ↔
      last = (registry.mint base).1 := by
  have minted : Search registry.taken base (registry.counter base + 1) (registry.mint base).1 :=
    search_iff.2 ⟨registry.counter_lt_mint base, registry.candidate_mint_not_mem base,
      fun _ above below => mem_taken_of_lt_firstFree above below⟩
  refine ⟨fun search => ?_, fun same => same ▸ minted⟩
  obtain ⟨after, isFree, passed⟩ := search_iff.1 search
  obtain ⟨after', isFree', passed'⟩ := search_iff.1 minted
  rcases Nat.lt_trichotomy last (registry.mint base).1 with before | same | behind
  · exact absurd (passed' last after before) isFree
  · exact same
  · exact absurd (passed _ after' behind) isFree'

/-- The number that is minted is at most one more than there are names taken. -/
theorem Tried.mint_le {registry : Registry} (tried : registry.Tried) (base : String) :
    (registry.mint base).1 ≤ registry.taken.size + 1 := by
  have counted := (tried.mint base).counter_le base
  rw [counter_mint, if_pos rfl] at counted
  exact Nat.le_trans counted Std.TreeSet.size_insert_le

/-! ### What one call takes -/

/-- The base that a call takes a name of, unless its answer is remembered. -/
def mints? (registry : Registry) : Call → Option String
  | .name base => some base
  | .intern request =>
    match registry.recalled? request with
    | some _ => none
    | none => some request.base

variable {registry : Registry} {call : Call} {base : String}

/-- A call that takes no name changes nothing. -/
theorem answer_of_mints?_eq_none (absent : registry.mints? call = none) :
    (registry.answer call).2 = registry := by
  cases call with
  | name base => cases absent
  | intern request =>
    rw [mints?] at absent
    split at absent
    · next className known => rw [answer, intern_of_recalled known]
    · cases absent

/-- A call that takes a name is answered with the one that is minted, and has the names and counters
changed as minting does. -/
theorem answer_of_mints?_eq_some (present : registry.mints? call = some base) :
    (registry.answer call).1 = candidate base (registry.mint base).1 ∧
      (registry.answer call).2.taken = (registry.mint base).2.taken ∧
      ∀ other, (registry.answer call).2.counter other = (registry.mint base).2.counter other := by
  cases call with
  | name name =>
    cases present
    exact ⟨rfl, rfl, fun _ => rfl⟩
  | intern request =>
    rw [mints?] at present
    split at present
    · cases present
    · next unknown =>
      cases present
      rw [answer, intern_of_unknown unknown]
      refine ⟨rfl, ?_, fun other => ?_⟩ <;> cases request <;> rfl

/-! ### What a run takes -/

/-- The bases and numbers of the names that calls take. -/
def minted (registry : Registry) : List Call → List (String × Nat)
  | [] => []
  | call :: rest =>
    match registry.mints? call with
    | some base => (base, (registry.mint base).1) :: minted (registry.answer call).2 rest
    | none => minted (registry.answer call).2 rest

/-- What is taken after a run was taken before, or in the run. -/
theorem mem_taken_run {name : String} {calls : List Call} :
    name ∈ (registry.run calls).2.taken ↔
      name ∈ registry.taken ∨ ∃ place ∈ registry.minted calls,
        candidate place.1 place.2 = name := by
  induction calls generalizing registry with
  | nil => simp [run, minted]
  | cons call rest ih =>
    rw [run_cons, ih, minted]
    cases mints : registry.mints? call with
    | none => rw [answer_of_mints?_eq_none mints]
    | some base =>
      rw [(answer_of_mints?_eq_some mints).2.1, mem_taken_mint, List.exists_mem_cons_iff, or_assoc,
        or_left_comm]

/-- The counter of a base after a run is the number of the last name that the run has taken of
it. -/
theorem counter_run {calls : List Call} :
    (registry.run calls).2.counter base =
      (((registry.minted calls).filter (·.1 == base)).getLast?.map Prod.snd).getD
        (registry.counter base) := by
  induction calls generalizing registry with
  | nil => rfl
  | cons call rest ih =>
    rw [run_cons, ih, minted]
    cases mints : registry.mints? call with
    | none => rw [answer_of_mints?_eq_none mints]
    | some other =>
      rw [(answer_of_mints?_eq_some mints).2.2, counter_mint, List.filter_cons]
      by_cases same : other = base
      · rw [if_pos same, if_pos (beq_iff_eq.2 same), List.getLast?_cons, Option.map_some,
          Option.getD_some]
        exact Option.getD_map Prod.snd (other, (registry.mint other).1) _
      · rw [if_neg same, if_neg (mt beq_iff_eq.1 same)]

/-- A run takes names behind the counters only. -/
theorem counter_lt_of_mem_minted {calls : List Call} {place : String × Nat}
    (mem : place ∈ registry.minted calls) : registry.counter place.1 < place.2 := by
  induction calls generalizing registry with
  | nil => cases mem
  | cons call rest ih =>
    rw [minted] at mem
    split at mem
    · next base mints =>
      rcases List.mem_cons.1 mem with rfl | later
      · exact registry.counter_lt_mint base
      · refine Nat.lt_of_le_of_lt ?_ (ih later)
        rw [(answer_of_mints?_eq_some mints).2.2]
        exact registry.counter_le_counter_mint base place.1
    · next mints =>
      have later := ih mem
      rwa [answer_of_mints?_eq_none mints] at later

/-- The numbers of the names of one base increase. -/
theorem pairwise_minted (registry : Registry) (calls : List Call) :
    (registry.minted calls).Pairwise fun a b => a.1 = b.1 → a.2 < b.2 := by
  induction calls generalizing registry with
  | nil => exact .nil
  | cons call rest ih =>
    rw [minted]
    split
    · next base mints =>
      refine .cons (fun place mem same => ?_) (ih _)
      have behind := counter_lt_of_mem_minted mem
      rwa [(answer_of_mints?_eq_some mints).2.2, counter_mint, if_pos same] at behind
    · exact ih _

/-- A further candidate has a larger number behind it, the base itself counting as zero. -/
theorem candidateSuffix_lt {m n : Nat} (pos : 0 < m) (less : m < n) :
    candidateSuffix m < candidateSuffix n := by
  unfold candidateSuffix
  split <;> split <;> omega

/-! ### Answers -/

/-- What is remembered is taken. -/
theorem Kept.mem_taken_of_recalled {loose : List String} (kept : registry.Kept loose)
    {request : Request} {className : String} (known : registry.recalled? request = some className) :
    className ∈ registry.taken := by
  refine (kept.taken className).2 (List.mem_append_left _ ?_)
  cases request with
  | utility key name declarations => exact kept.utilities key className known
  | own base declarations => exact kept.mem_of_signature known

/-- A call adds its answer to the names that are taken, if it is not taken already. -/
theorem mem_taken_answer {loose : List String} (kept : registry.Kept loose) {name : String} :
    name ∈ (registry.answer call).2.taken ↔
      name ∈ registry.taken ∨ (registry.answer call).1 = name := by
  cases mints : registry.mints? call with
  | some base =>
    obtain ⟨answered, taken, -⟩ := answer_of_mints?_eq_some mints
    rw [answered, taken, mem_taken_mint, or_comm]
  | none =>
    rw [answer_of_mints?_eq_none mints]
    refine ⟨.inl, fun either => either.elim id ?_⟩
    rintro rfl
    cases call with
    | name base => cases mints
    | intern request =>
      rw [mints?] at mints
      split at mints
      · next className known =>
        rw [answer, intern_of_recalled known]
        exact kept.mem_taken_of_recalled known
      · cases mints

/-- What is taken after a run was taken before, or is an answer. -/
theorem mem_taken_run_iff_answered {loose : List String} (kept : registry.Kept loose)
    {name : String} {calls : List Call} :
    name ∈ (registry.run calls).2.taken ↔
      name ∈ registry.taken ∨ name ∈ (registry.run calls).1.map Prod.snd := by
  induction calls generalizing registry loose with
  | nil => simp [run]
  | cons call rest ih =>
    rw [run_cons, ih (kept.answer call), mem_taken_answer kept, or_assoc, List.map_cons,
      List.mem_cons, @eq_comm _ name]

/-- On a new registry, what is taken is what was answered. -/
theorem mem_answers_iff {name : String} {calls : List Call} :
    name ∈ (run {} calls).1.map Prod.snd ↔ name ∈ (run {} calls).2.taken := by
  have new : name ∉ ({} : Registry).taken := Std.TreeSet.not_mem_emptyc
  rw [mem_taken_run_iff_answered kept_empty, or_iff_right new]

/-! ### A base that nobody has taken a name of -/

/-- While the candidates behind the counter are free, they are taken one after the other. -/
theorem map_snd_run_replicate
    (free : ∀ m, registry.counter base < m → candidate base m ∉ registry.taken) (count : Nat) :
    (registry.run (List.replicate count (.name base))).1.map Prod.snd =
      (List.range' (registry.counter base + 1) count).map (candidate base) := by
  induction count generalizing registry with
  | zero => rfl
  | succ count ih =>
    have number : (registry.mint base).1 = registry.counter base + 1 :=
      firstFree_of_not_mem (free _ (Nat.lt_succ_self _)) _
    have next : ((registry.answer (.name base)).2).counter base = registry.counter base + 1 := by
      rw [(answer_of_mints?_eq_some rfl).2.2, counter_mint, if_pos rfl, number]
    rw [List.replicate_succ, run_cons, List.map_cons, ih, next, List.range'_succ, List.map_cons,
      (answer_of_mints?_eq_some rfl).1, number]
    intro m behind
    rw [next] at behind
    rw [(answer_of_mints?_eq_some rfl).2.1, mem_taken_mint, number]
    rintro (same | isTaken)
    · exact absurd (candidate_injective (by omega) (by omega) same) (Nat.ne_of_lt behind)
    · exact free m (by omega) isTaken

/-! ### The next name of a base -/

/-- What is promised of the next name of a base, given the answers so far and the bases and numbers
of the names that were taken. -/
structure MintsFirstFree (answers : List String) (places : List (String × Nat))
    (registry : Registry) (base : String) : Prop where
  /-- Names that were answered are names that were taken. -/
  given : ∀ name, name ∈ answers ↔ ∃ place ∈ places, candidate place.1 place.2 = name
  /-- The counter of the base is the number of its last name, and zero if there is none. -/
  counter : registry.counter base = ((places.filter (·.1 == base)).getLast?.map Prod.snd).getD 0
  /-- The search from behind the counter ends, on the number that is minted and on no other. -/
  ends : ∀ n, Search registry.taken base (registry.counter base + 1) n ↔ n = (registry.mint base).1
  /-- It is the first number behind the counter whose name was no answer. -/
  first : registry.counter base < (registry.mint base).1 ∧
    candidate base (registry.mint base).1 ∉ answers ∧
    ∀ n, registry.counter base < n → n < (registry.mint base).1 → candidate base n ∈ answers
  /-- It is at most one more than there are names, so it has 32 bits while these are fewer than
  `2 ^ 32 - 1`. -/
  bounded : (registry.mint base).1 ≤ places.length + 1
  /-- A call that takes a name of the base is answered with that one, and moves the counter of the
  base only. -/
  answered : ∀ call, registry.mints? call = some base →
    (registry.answer call).1 = candidate base (registry.mint base).1 ∧
      ∀ other, (registry.answer call).2.counter other =
        if base = other then (registry.mint base).1 else registry.counter other
  /-- The names of one base have larger and larger suffixes. -/
  increasing : places.Pairwise fun a b => a.1 = b.1 → candidateSuffix a.2 < candidateSuffix b.2
  /-- If none of its names was an answer, the base gives them out from the first one on. -/
  untouched : (∀ n, 0 < n → candidate base n ∉ answers) → ∀ count,
    (registry.run (List.replicate count (.name base))).1.map Prod.snd =
      (List.range' 1 count).map (candidate base)

/-- **Minting ends, and takes the first free name**, whatever a registry was asked for before. -/
theorem minting_takes_first_free (calls : List Call) (base : String) :
    MintsFirstFree ((run {} calls).1.map Prod.snd) (minted {} calls) (run {} calls).2 base := by
  have kept := kept_empty.run calls
  have new : ∀ name, name ∉ ({} : Registry).taken := fun name => Std.TreeSet.not_mem_emptyc
  have given : ∀ name, name ∈ (run {} calls).2.taken ↔
      ∃ place ∈ minted {} calls, candidate place.1 place.2 = name :=
    fun name => mem_taken_run.trans (or_iff_right (new name))
  refine
    { given := fun name => mem_answers_iff.trans (given name)
      counter := counter_run
      ends := fun n => search_mint _ base
      first :=
        ⟨counter_lt_mint _ base, fun mem => candidate_mint_not_mem _ base (mem_answers_iff.1 mem),
        fun n above below => mem_answers_iff.2 (mem_taken_of_lt_firstFree above below)⟩
      bounded := ?_
      answered := ?_
      increasing := ?_
      untouched := ?_ }
  · have counted : (run {} calls).2.taken.size ≤
        ((minted {} calls).map fun place => candidate place.1 place.2).length :=
      size_le_length_of_subset fun name mem => List.mem_map.2 ((given name).1 mem)
    rw [List.length_map] at counted
    exact Nat.le_trans (kept.tried.mint_le base) (Nat.succ_le_succ counted)
  · intro call mints
    obtain ⟨answered, -, counters⟩ := answer_of_mints?_eq_some mints
    exact ⟨answered, fun other => (counters other).trans (counter_mint _ base other)⟩
  · refine (pairwise_minted {} calls).imp_of_mem fun {a b} mem _ less same => ?_
    exact candidateSuffix_lt (Nat.zero_lt_of_lt (counter_lt_of_mem_minted mem)) (less same)
  · intro free count
    -- A base that has tried a candidate has tried the first one, which is taken then.
    have untried : (run {} calls).2.counter base = 0 := Nat.eq_zero_of_not_pos fun tried =>
      free 1 Nat.one_pos (mem_answers_iff.2 (kept.tried base 1 Nat.one_pos tried))
    have row := map_snd_run_replicate (fun n above isTaken =>
      free n (Nat.zero_lt_of_lt above) (mem_answers_iff.2 isTaken)) count
    rwa [untried] at row

/-- A section that nobody has named after `hero` does not mind how often `card` was taken. -/
theorem names_of_hero_after_cards :
    ((run (run {} [.name "card", .intern (.own "card-2" []), .name "card"]).2
      [.name "hero", .name "hero", .name "hero"]).1.map Prod.snd) =
        ["hero", "hero-2", "hero-3"] := by
  have answers : (run {} [.name "card", .intern (.own "card-2" []), .name "card"]).1.map Prod.snd =
      ["card", "card-2", "card-3"] := by decide +kernel
  refine ((minting_takes_first_free _ "hero").untouched (fun n _ mem => ?_) 3).trans (by decide)
  rw [answers] at mem
  have initial : (candidate "hero" n).toList.head? = some 'h' := by
    unfold candidate
    split <;> simp
  have others : ∀ name ∈ ["card", "card-2", "card-3"], name.toList.head? ≠ some 'h' := by decide
  exact others _ mem initial

end Registry

end SceneMarkup
