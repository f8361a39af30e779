import Mathlib.Tactic.SplitIfs
import SceneMarkup.Json.Quoted
import SceneMarkup.Markup.Escape
import SceneMarkup.Proofs.Text.Reading

/-!
# Escaped and quoted texts read back

* `escaping_escapeChar`, `escaping_encodeChar`: a character is written as itself or as an escape;
* `readsBack_quote`: a quoted text reads back, whatever follows.
-/

namespace SceneMarkup

open Text (Anything Escaping ReadsBack)

namespace Escape

/-- The characters that a dialect may reserve, each with its entity. -/
def entities : List (Char × String) :=
  [('&', "&amp;"), ('<', "&lt;"), ('>', "&gt;"), ('"', "&quot;"), ('\x27', "&#39;"),
    ('\x7b', "&#123;"), ('\x7d', "&#125;")]

theorem mem_entities {dialect : Dialect} {c : Char} {entity : String}
    (h : entity? dialect c = some entity) : (c, entity) ∈ entities := by
  unfold entity? at h
  split_ifs at h <;> simp_all [entities]

/-- No entity begins with another one. -/
theorem entities_prefixFree : ∀ p ∈ entities, ∀ q ∈ entities,
    p.2.toList <+: q.2.toList → p.1 = q.1 := by
  decide

theorem head?_entity : ∀ p ∈ entities, p.2.toList.head? = some '&' := by decide

theorem escapeChar_of_some {dialect : Dialect} {c : Char} {entity : String}
    (h : entity? dialect c = some entity) : escapeChar dialect c = entity.toList := by
  rw [escapeChar, h]

/-- The characters with an entity are written as that. -/
theorem escaping_escapeChar (dialect : Dialect) :
    Escaping '&' (fun c => entity? dialect c ≠ none) (escapeChar dialect) where
  written := by
    intro c
    cases h : entity? dialect c with
    | some entity =>
      rw [escapeChar_of_some h]
      exact .inl ⟨Option.some_ne_none _, head?_entity _ (mem_entities h)⟩
    | none =>
      refine .inr ⟨not_not_intro rfl, ?_⟩
      rw [escapeChar, h]
  mark := Option.some_ne_none _
  prefixFree := by
    intro c d isSpecial isSpecial' h
    obtain ⟨entity, present⟩ := Option.ne_none_iff_exists'.1 isSpecial
    obtain ⟨entity', present'⟩ := Option.ne_none_iff_exists'.1 isSpecial'
    rw [escapeChar_of_some present, escapeChar_of_some present'] at h
    exact entities_prefixFree _ (mem_entities present) _ (mem_entities present') h

end Escape

namespace Quoted

/-- The characters that are escaped in quotes. -/
def escaped : List Char := '"' :: '\\' :: (List.range 32).map Char.ofNat

theorem mem_escaped_of_lt {c : Char} (control : c < ' ') : c ∈ escaped := by
  refine List.mem_cons_of_mem _ (List.mem_cons_of_mem _ (List.mem_map.2 ⟨c.toNat, ?_, ?_⟩))
  · exact List.mem_range.2 control
  · exact Char.ofNat_toNat c

theorem encodeChar_of_not_mem {c : Char} (plain : c ∉ escaped) : encodeChar c = [c] := by
  have short : shortEscapes.find? (fun escape => escape.2 == c) = none := by
    rw [List.find?_eq_none]
    intro escape listed same
    have inside : ∀ escape ∈ shortEscapes, escape.2 ∈ escaped := by decide +kernel
    exact plain (eq_of_beq same ▸ inside escape listed)
  unfold encodeChar
  rw [short]
  exact if_neg fun control => plain (mem_escaped_of_lt control)

/-- Quotes, backslashes and control characters are written as escapes. -/
theorem escaping_encodeChar : Escaping '\\' (fun c => c ∈ escaped) encodeChar where
  written := by
    intro c
    by_cases mem : c ∈ escaped
    · have escapes : escaped.Forall fun d => (encodeChar d).head? = some '\\' := by decide +kernel
      exact .inl ⟨mem, List.forall_iff_forall_mem.1 escapes c mem⟩
    · exact .inr ⟨mem, encodeChar_of_not_mem mem⟩
  mark := by decide
  prefixFree := by
    have free : escaped.Forall fun c => escaped.Forall fun d =>
        encodeChar c <+: encodeChar d → c = d := by
      decide +kernel
    simp only [List.forall_iff_forall_mem] at free
    exact fun c d mem mem' => free c mem d mem'

end Quoted

/-- A quoted text reads back, whatever follows. -/
theorem readsBack_quote (text : String) :
    ReadsBack (fun _ => True) Anything (fun text => (quote text).toList) text := by
  intro other s t _ _ _ same
  simp only [quote, Quoted.encode, String.toList_ofList, List.cons_append, List.append_assoc,
    List.cons.injEq, true_and] at same
  have chars : ReadsBack (fun text => ∀ c ∈ text, True) (fun s => ∃ rest, s = '"' :: rest)
      (fun text => text.flatMap Quoted.encodeChar) text.toList :=
    Quoted.escaping_encodeChar.readsBack_flatMap
      (fun s ⟨rest, isLast⟩ => ⟨'"', rest, isLast, by decide, fun _ => by decide⟩)
      fun _ _ => trivial
  obtain ⟨texts, rest⟩ := chars (fun _ _ => trivial) ⟨s, rfl⟩ ⟨t, rfl⟩ same
  exact ⟨String.toList_injective texts, (List.cons.inj rest).2⟩

end SceneMarkup
