import Mathlib.Data.List.Infix
import Mathlib.Data.List.Basic

/-!
# Texts that read back

What is written of an item reads back if a text that begins with it begins with nothing else that
might be written: then both the item and the rest of the text are known.

* `ReadsBack`: an item reads back, among items of a kind and in front of what may follow;
* `readsBack_of_prefixFree`: a written form that is no beginning of another reads back in front of
  anything;
* `readsBack_flatMap`: items one after the other read back if each does, and if what follows the
  last does not look like another;
* `readsBack_until`: characters read back up to one that is none of them;
* `readsBack_intercalate`: items with a separator between them;
* `Escaping`, `Escaping.readsBack_flatMap`: characters of which some are written as escapes.
-/

namespace SceneMarkup.Text

variable {α : Type} {kind : α → Prop} {follows : List Char → Prop} {write : α → List Char}

/-- An item of a kind reads back from a text that begins with it, if what is behind it may follow
it. -/
def ReadsBack (kind : α → Prop) (follows : List Char → Prop) (write : α → List Char)
    (a : α) : Prop :=
  ∀ ⦃b s t⦄, kind b → follows s → follows t → write a ++ s = write b ++ t → a = b ∧ s = t

/-- Anything may follow. -/
abbrev Anything : List Char → Prop := fun _ => True

theorem ReadsBack.mono {a : α} {kind' : α → Prop} {follows' : List Char → Prop}
    (h : ReadsBack kind follows write a) (ofKind : ∀ b, kind' b → kind b)
    (more : ∀ s, follows' s → follows s) : ReadsBack kind' follows' write a :=
  fun b s t isKind first second same => h (ofKind b isKind) (more s first) (more t second) same

/-- A written form that is no beginning of another reads back in front of anything. -/
theorem readsBack_of_prefixFree {a : α}
    (free : ∀ b, kind b → write a <+: write b ∨ write b <+: write a → a = b) :
    ReadsBack kind Anything write a := by
  intro b s t isKind _ _ same
  have first : write a <+: write b ++ t := ⟨s, same⟩
  obtain rfl := free b isKind (List.prefix_or_prefix_of_prefix first (List.prefix_append _ t))
  exact ⟨rfl, List.append_cancel_left same⟩

/-- What is written behind a fixed text reads back, if it does by itself. -/
theorem ReadsBack.append_left {a : α} (h : ReadsBack kind follows write a) (front : List Char) :
    ReadsBack kind follows (fun b => front ++ write b) a := by
  intro b s t isKind first second same
  rw [List.append_assoc, List.append_assoc] at same
  exact h isKind first second (List.append_cancel_left same)

/-! ### Items one after the other -/

/-- Items one after the other read back if each does in front of another and in front of the end,
and if the end does not look like another item. -/
theorem readsBack_flatMap {last : List Char → Prop} (more : ∀ b u, kind b → follows (write b ++ u))
    (ends : ∀ s, last s → follows s) (stops : ∀ s, last s → ∀ b u, kind b → s ≠ write b ++ u)
    {as : List α} (isKind : ∀ a ∈ as, kind a) (each : ∀ a ∈ as, ReadsBack kind follows write a) :
    ReadsBack (fun bs : List α => ∀ b ∈ bs, kind b) last (fun bs => bs.flatMap write) as := by
  -- Where the next item begins, either another one does or the end.
  have continues : ∀ (bs : List α) (s : List Char), (∀ b ∈ bs, kind b) → last s →
      follows (bs.flatMap write ++ s) := by
    intro bs s isKind isLast
    cases bs with
    | nil => exact ends s isLast
    | cons b rest =>
      rw [List.flatMap_cons, List.append_assoc]
      exact more b _ (isKind b List.mem_cons_self)
  induction as with
  | nil =>
    intro bs s t isKind' isLast isLast' same
    cases bs with
    | nil => exact ⟨rfl, same⟩
    | cons b rest =>
      simp only [List.flatMap_nil, List.nil_append, List.flatMap_cons, List.append_assoc] at same
      exact absurd same (stops s isLast b _ (isKind' b List.mem_cons_self))
  | cons a as ih =>
    intro bs s t isKind' isLast isLast' same
    cases bs with
    | nil =>
      simp only [List.flatMap_nil, List.nil_append, List.flatMap_cons, List.append_assoc] at same
      exact absurd same.symm (stops t isLast' a _ (isKind a List.mem_cons_self))
    | cons b rest =>
      simp only [List.flatMap_cons, List.append_assoc] at same
      obtain ⟨first, others⟩ := List.forall_mem_cons.1 isKind'
      obtain ⟨isKindFirst, isKindRest⟩ := List.forall_mem_cons.1 isKind
      obtain ⟨eachFirst, eachRest⟩ := List.forall_mem_cons.1 each
      obtain ⟨rfl, behind⟩ := eachFirst first (continues as s isKindRest isLast)
        (continues rest t others isLast') same
      obtain ⟨rfl, rest⟩ := ih isKindRest eachRest others isLast isLast' behind
      exact ⟨rfl, rest⟩

/-- A text is at its end, or goes on with a character that is none of some. -/
def StopsAt (p : Char → Prop) (s : List Char) : Prop := ∀ c ∈ s.head?, ¬ p c

@[simp] theorem stopsAt_nil (p : Char → Prop) : StopsAt p [] := by
  simp [StopsAt]

@[simp] theorem stopsAt_cons {p : Char → Prop} {c : Char} {s : List Char} :
    StopsAt p (c :: s) ↔ ¬ p c := by
  simp [StopsAt]

/-- Characters read back up to one that is none of them. -/
theorem readsBack_until {p : Char → Prop} {text : List Char} (inside : ∀ c ∈ text, p c) :
    ReadsBack (fun text => ∀ c ∈ text, p c) (StopsAt p) (fun text => text) text := by
  have chars : ReadsBack (fun text => ∀ c ∈ text, p c) (StopsAt p)
      (fun text => text.flatMap fun c => [c]) text := by
    have each : ∀ c ∈ text, ReadsBack p Anything (fun c => [c]) c := fun c _ =>
      readsBack_of_prefixFree fun d _ either => by simpa [eq_comm] using either
    refine readsBack_flatMap (fun _ _ _ => trivial) (fun _ _ => trivial) ?_ inside each
    rintro _ stops c u isKind rfl
    exact stopsAt_cons.1 stops isKind
  simpa using chars

/-! ### Items with a separator between them -/

/-- With a separator in front, every item has one in front. -/
theorem append_intercalate_map (separator : List Char) {items : List α} (nonempty : items ≠ []) :
    separator ++ separator.intercalate (items.map write) =
      items.flatMap fun item => separator ++ write item := by
  induction items with
  | nil => exact absurd rfl nonempty
  | cons first rest ih =>
    cases rest with
    | nil => simp
    | cons second rest =>
      rw [List.flatMap_cons, ← ih (List.cons_ne_nil _ _)]
      simp

/-- Items with a separator between them read back if each does in front of the separator and in
front of the end, and if the end does not look like the separator. -/
theorem readsBack_intercalate (separator : List Char) (last : List Char → Prop)
    (more : ∀ u, follows (separator ++ u)) (ends : ∀ s, last s → follows s)
    (stops : ∀ s, last s → ∀ u, s ≠ separator ++ u) {as : List α} (nonempty : as ≠ [])
    (isKind : ∀ a ∈ as, kind a) (each : ∀ a ∈ as, ReadsBack kind follows write a) :
    ReadsBack (fun bs : List α => bs ≠ [] ∧ ∀ b ∈ bs, kind b) last
      (fun bs => separator.intercalate (bs.map write)) as := by
  rintro bs s t ⟨nonempty', isKind'⟩ isLast isLast' same
  replace same := congrArg (separator ++ ·) same
  simp only [← List.append_assoc, append_intercalate_map separator nonempty,
    append_intercalate_map separator nonempty'] at same
  have items : ReadsBack (fun bs : List α => ∀ b ∈ bs, kind b) last
      (fun bs => bs.flatMap fun item => separator ++ write item) as := by
    refine readsBack_flatMap (fun b u _ => ?_) ends (fun s isLast b u _ => ?_) isKind
      fun a mem => (each a mem).append_left separator
    · rw [List.append_assoc]
      exact more _
    · rw [List.append_assoc]
      exact stops s isLast _
  exact items isKind' isLast isLast' same

/-! ### Escapes -/

/-- Special characters are written as escapes that begin with a mark, the others as themselves. The
mark is special, and no escape begins with another one. -/
structure Escaping (mark : Char) (special : Char → Prop) (write : Char → List Char) : Prop where
  written : ∀ c, special c ∧ (write c).head? = some mark ∨ ¬ special c ∧ write c = [c]
  mark : special mark
  prefixFree : ∀ c d, special c → special d → write c <+: write d → c = d

namespace Escaping

variable {mark : Char} {special : Char → Prop} {write : Char → List Char}

/-- What is written of a character begins with the mark, or with the character if that is not
special. -/
theorem cons_eq (escaping : Escaping mark special write) {c q : Char} {s u : List Char}
    (h : q :: s = write c ++ u) : q = mark ∨ q = c ∧ ¬ special q := by
  rcases escaping.written c with ⟨-, first⟩ | ⟨plain, written⟩
  · obtain ⟨rest, shape⟩ := List.head?_eq_some_iff.1 first
    rw [shape, List.cons_append, List.cons.injEq] at h
    exact .inl h.1
  · rw [written, List.singleton_append, List.cons.injEq] at h
    obtain ⟨rfl, -⟩ := h
    exact .inr ⟨rfl, plain⟩

theorem eq_of_prefix (escaping : Escaping mark special write) {c d : Char}
    (h : write c <+: write d) : c = d := by
  rcases escaping.written c with ⟨isSpecial, first⟩ | ⟨plain, written⟩
  · rcases escaping.written d with ⟨isSpecial', -⟩ | ⟨plain', written'⟩
    · exact escaping.prefixFree c d isSpecial isSpecial' h
    · obtain ⟨rest, shape⟩ := List.head?_eq_some_iff.1 first
      rw [shape, written', List.cons_prefix_cons] at h
      obtain ⟨rfl, -⟩ := h
      exact absurd escaping.mark plain'
  · obtain ⟨u, same⟩ := h
    have front : c :: u = write d ++ [] := by simpa [written] using same
    rcases escaping.cons_eq front with rfl | ⟨rfl, -⟩
    · exact absurd escaping.mark plain
    · rfl

theorem readsBack (escaping : Escaping mark special write) (kind : Char → Prop) (c : Char) :
    ReadsBack kind Anything write c :=
  readsBack_of_prefixFree fun _ _ either =>
    either.elim escaping.eq_of_prefix fun h => (escaping.eq_of_prefix h).symm

/-- Characters of a kind read back up to one that is special, or none of them, and not the mark. -/
theorem readsBack_flatMap (escaping : Escaping mark special write) {kind : Char → Prop}
    {last : List Char → Prop}
    (ends : ∀ s, last s → ∃ q rest, s = q :: rest ∧ q ≠ mark ∧ (kind q → special q))
    {text : List Char} (inside : ∀ c ∈ text, kind c) :
    ReadsBack (fun text => ∀ c ∈ text, kind c) last (fun text => text.flatMap write) text := by
  refine Text.readsBack_flatMap (fun _ _ _ => trivial) (fun _ _ => trivial) ?_ inside
    fun c _ => escaping.readsBack kind c
  intro s isLast c u isKind same
  obtain ⟨q, rest, rfl, other, isSpecial⟩ := ends s isLast
  rcases escaping.cons_eq same with marked | ⟨rfl, plain⟩
  · exact other marked
  · exact plain (isSpecial isKind)

end Escaping

end SceneMarkup.Text
