import Mathlib.Algebra.GroupWithZero.Nat
import Mathlib.Data.List.DropRight
import Std.Data.String.ToNat
import SceneMarkup.Document.Stylesheet
import SceneMarkup.Proofs.Matching
import SceneMarkup.Proofs.Text.Kinds
import SceneMarkup.Proofs.Typography.FontSet

/-!
# Reading the address of fonts

The address of a request for fonts spells the names of families as they are, but for blanks. What
separates the parts of an address is a letter of a name like any other, so an address reads back
only where no name has one.

* `queryOf?`: a query as families with their weights, and its parts `familyOf?`, `weightsOf?` and
  `nameOf`;
* `familyOf?_familyQuery`: what is written of a family reads back, with blanks for its plus signs;
* `length_splitOn_parameters`: a query has a parameter for each family, and one more for each
  ampersand in a name;
* `queryOf?_eq_some_iff`: a query reads back exactly if no family has an ampersand or a plus sign in
  it;
* `importedAddress`: what a stylesheet imports, up to the next quote;
* `Offer`, `offeredTo`: a font that is offered to a set, and the set after a list of them;
* `Accepts`: a family and a weight of it are among the fonts that are taken;
* `font_address_reads_back_iff`: **the families for which an address can be read back**.
-/

namespace SceneMarkup.Typography

open Text (IsOf)

/-! ### A reader of queries -/

/-- A name in an address: a plus sign stands for a blank. -/
def nameOf (text : List Char) : String :=
  String.ofList (text.map fun c => if c = '+' then ' ' else c)

/-- Numbers with semicolons between them. -/
def weightsOf? (text : List Char) : Option (List Nat) :=
  (text.splitOn ';').mapM fun digits => (String.ofList digits).toNat?

/-- A family and its weights, which stand behind the last colon. -/
def familyOf? (parameter : List Char) : Option (String × List Nat) := do
  let name ← (parameter.rdropWhile (· != ':')).dropLast.dropPrefix? "family=".toList
  let weights ← (parameter.rtakeWhile (· != ':')).dropPrefix? "wght@".toList
  return (nameOf name, ← weightsOf? weights)

/-- The families of a query and their weights. Its last parameter says that letters are shown
meanwhile. -/
def queryOf? (query : List Char) : Option (List (String × List Nat)) :=
  let parameters := query.splitOn '&'
  if parameters.getLast? = some "display=swap".toList then
    parameters.dropLast.mapM familyOf?
  else none

/-! ### One family -/

/-- The letters of a name as they stand in an address. -/
def spelled (name : List Char) : List Char := name.map fun c => if c = ' ' then '+' else c

/-- A name reads back exactly if it has no plus sign in it. -/
theorem nameOf_spelled_eq_iff {family : String} :
    nameOf (spelled family.toList) = family ↔ '+' ∉ family.toList := by
  have letter : ∀ c : Char,
      (if (if c = ' ' then '+' else c) = '+' then ' ' else if c = ' ' then '+' else c) = c ↔
      c ≠ '+' := by
    intro c
    by_cases blank : c = ' '
    · simp [blank]
    · by_cases plus : c = '+' <;> simp [blank, plus]
  have whole := List.map_inj_left (l := family.toList)
    (f := fun c =>
      if (if c = ' ' then '+' else c) = '+' then ' ' else if c = ' ' then '+' else c) (g := id)
  rw [List.map_id] at whole
  rw [nameOf, spelled, List.map_map, ← String.toList_inj, String.toList_ofList]
  refine whole.trans ⟨fun same plus => (letter _).1 (same _ plus) rfl,
    fun noPlus c mem => (letter c).2 ?_⟩
  rintro rfl
  exact noPlus mem

/-- Weights as they stand in an address. -/
def weightText (weights : List Nat) : String := ";".intercalate (weights.map toString)

theorem isOf_weightText (weights : List Nat) :
    IsOf (fun c => c.isDigit || c == ';') (weightText weights) := by
  refine Text.isOf_intercalate (by decide) fun text mem => ?_
  obtain ⟨weight, -, rfl⟩ := List.mem_map.1 mem
  exact Text.isOf_nat (fun c digit => by rw [digit]; rfl) weight

/-- Weights read back. -/
theorem weightsOf?_weightText {weights : List Nat} (nonempty : weights ≠ []) :
    weightsOf? (weightText weights).toList = some weights := by
  have pieces : (weightText weights).toList.splitOn ';' = weights.map fun weight =>
      (toString weight).toList := by
    rw [weightText, String.toList_intercalate, List.map_map]
    refine List.splitOn_intercalate ';' (fun digits mem => ?_) (by simpa using nonempty)
    obtain ⟨weight, -, rfl⟩ := List.mem_map.1 mem
    have digits : IsOf Char.isDigit (toString weight) := Text.isOf_nat (fun _ digit => digit) weight
    exact fun inside => absurd (digits ';' inside) (by decide)
  rw [weightsOf?, pieces]
  refine mapM_of_forall₂ (List.forall₂_map_left_iff.2 (List.forall₂_same.2 fun weight _ => ?_))
  rw [String.ofList_toList]
  exact Nat.toNat?_repr weight

/-- The letters of the parameter of a family, around the last colon in it. -/
theorem toList_familyQuery (entry : String × List Nat) :
    (FontSet.familyQuery entry).toList =
      ("family=".toList ++ spelled entry.1.toList) ++
        ':' :: ("wght@".toList ++ (weightText entry.2).toList) := by
  simp [FontSet.familyQuery, FontSet.familyText, spelled, weightText]

theorem forall_bne_of_not_mem {c : Char} {text : List Char} (absent : c ∉ text) :
    ∀ d ∈ text, (d != c) = true :=
  fun _ mem => bne_iff_ne.2 fun same => absent (same ▸ mem)

/-- A text around the last of some characters. -/
theorem rdropWhile_append_cons {c : Char} {a b : List Char} (last : c ∉ b) :
    (a ++ c :: b).rdropWhile (· != c) = a ++ [c] ∧ (a ++ c :: b).rtakeWhile (· != c) = b := by
  have turned : (a ++ c :: b).reverse = b.reverse ++ c :: a.reverse := by simp
  have others := forall_bne_of_not_mem (mt List.mem_reverse.1 last)
  rw [List.rdropWhile, List.rtakeWhile, turned, List.dropWhile_append_of_pos others,
    List.takeWhile_append_of_pos others]
  simp

theorem colon_not_mem_weights (weights : List Nat) :
    ':' ∉ "wght@".toList ++ (weightText weights).toList := by
  have word : ':' ∉ "wght@".toList := by decide
  refine fun mem => (List.mem_append.1 mem).elim word fun inside => ?_
  cases isOf_weightText weights ':' inside

/-- What is written of a family reads back, with blanks for the plus signs of its name. -/
theorem familyOf?_familyQuery {entry : String × List Nat} (weighted : entry.2 ≠ []) :
    familyOf? (FontSet.familyQuery entry).toList =
      some (nameOf (spelled entry.1.toList), entry.2) := by
  obtain ⟨front, back⟩ := rdropWhile_append_cons (a := "family=".toList ++ spelled entry.1.toList)
    (colon_not_mem_weights entry.2)
  rw [familyOf?, toList_familyQuery, front, back, List.dropLast_concat,
    List.dropPrefix?_append_of_beq _ BEq.rfl, List.dropPrefix?_append_of_beq _ BEq.rfl,
    Option.bind_eq_bind, Option.bind_some, Option.bind_some, weightsOf?_weightText weighted]
  rfl

/-! ### All families -/

/-- A text is divided into one piece more than it has separators. -/
theorem length_splitOn (separator : Char) (text : List Char) :
    (text.splitOn separator).length = text.count separator + 1 := by
  induction text with
  | nil => rfl
  | cons c rest ih =>
    rw [List.splitOn_cons_eq_if_modifyHead, List.count_cons]
    split <;> simp [ih]

/-- The characters of texts with a separator between them. -/
theorem perm_intercalate (separator : Char) (texts : List (List Char)) :
    ([separator].intercalate texts).Perm
      (texts.flatten ++ List.replicate (texts.length - 1) separator) := by
  induction texts with
  | nil => exact List.Perm.refl _
  | cons first rest ih =>
    by_cases last : rest = []
    · simp [last]
    · have behind : (separator :: (rest.flatten ++ List.replicate (rest.length - 1) separator)).Perm
          (rest.flatten ++ List.replicate rest.length separator) := by
        refine List.perm_middle.symm.trans ?_
        rw [← List.replicate_succ, Nat.sub_add_cancel (List.length_pos_iff.2 last)]
      rw [List.intercalate_cons_of_ne_nil last, List.append_assoc, List.flatten_cons,
        List.append_assoc]
      exact ((ih.cons separator).trans behind).append_left first

theorem count_intercalate (separator : Char) {texts : List (List Char)} (nonempty : texts ≠ []) :
    ([separator].intercalate texts).count separator + 1 =
      (texts.map (List.count separator)).sum + texts.length := by
  have positive := List.length_pos_iff.2 nonempty
  rw [(perm_intercalate separator texts).count_eq, List.count_append, List.count_flatten,
    List.count_replicate_self]
  omega

theorem mem_intercalate_iff {separator c : Char} (other : c ≠ separator)
    {texts : List (List Char)} :
    c ∈ [separator].intercalate texts ↔ ∃ text ∈ texts, c ∈ text := by
  have apart : c ∉ List.replicate (texts.length - 1) separator :=
    fun mem => other (List.eq_of_mem_replicate mem)
  rw [(perm_intercalate separator texts).mem_iff, List.mem_append, or_iff_left apart,
    List.mem_flatten]

/-- The parameters of families. -/
def parameters (entries : List (String × List Nat)) : List (List Char) :=
  entries.map fun entry => (FontSet.familyQuery entry).toList

/-- The letters of the query for families. -/
def queryChars (entries : List (String × List Nat)) : List Char :=
  ['&'].intercalate (parameters entries) ++ "&display=swap".toList

theorem splitOn_queryChars (entries : List (String × List Nat)) :
    (queryChars entries).splitOn '&' =
      (['&'].intercalate (parameters entries)).splitOn '&' ++ ["display=swap".toList] :=
  List.splitOn_append_cons_self _ _

/-- A letter of a parameter that no part of it has but the name. -/
def NameOnly (c : Char) : Prop :=
  c ∉ "family=".toList ∧ c ∉ ":wght@".toList ∧ c ∉ [' ', '+', ';'] ∧ c.isDigit = false

instance : DecidablePred NameOnly := fun c =>
  inferInstanceAs (Decidable (c ∉ "family=".toList ∧ c ∉ ":wght@".toList ∧ c ∉ [' ', '+', ';'] ∧
    c.isDigit = false))

/-- A parameter has an ampersand or a quote as often as its name. -/
theorem count_familyQuery {c : Char} (nameOnly : NameOnly c) (entry : String × List Nat) :
    (FontSet.familyQuery entry).toList.count c = entry.1.toList.count c := by
  obtain ⟨front, between, others, digit⟩ := nameOnly
  simp only [List.mem_cons, List.not_mem_nil, or_false, not_or] at others
  obtain ⟨blank, plus, semicolon⟩ := others
  have name : (spelled entry.1.toList).count c = entry.1.toList.count c := by
    rw [spelled, List.count_eq_countP, List.count_eq_countP, List.countP_map]
    refine List.countP_congr fun d _ => ?_
    by_cases same : d = ' ' <;> simp [same, Ne.symm blank, Ne.symm plus]
  have weights : c ∉ (weightText entry.2).toList := by
    intro mem
    simpa [digit, semicolon] using isOf_weightText entry.2 c mem
  have whole : (FontSet.familyQuery entry).toList =
      "family=".toList ++ spelled entry.1.toList ++
        (":wght@".toList ++ (weightText entry.2).toList) :=
    toList_familyQuery entry
  rw [whole, List.count_append, List.count_append, List.count_append, name,
    List.count_eq_zero_of_not_mem front, List.count_eq_zero_of_not_mem between,
    List.count_eq_zero_of_not_mem weights]
  simp

theorem mem_familyQuery_iff {c : Char} (nameOnly : NameOnly c) {entry : String × List Nat} :
    c ∈ (FontSet.familyQuery entry).toList ↔ c ∈ entry.1.toList := by
  rw [← List.count_pos_iff, count_familyQuery nameOnly, List.count_pos_iff]

/-- Between ampersands stand as many texts as there are families, and one more for each ampersand in
a name. -/
theorem length_splitOn_parameters {entries : List (String × List Nat)} (nonempty : entries ≠ []) :
    ((['&'].intercalate (parameters entries)).splitOn '&').length =
      (entries.map fun entry => entry.1.toList.count '&').sum + entries.length := by
  have counts : (parameters entries).map (List.count '&') =
      entries.map fun entry => entry.1.toList.count '&' := by
    rw [parameters, List.map_map]
    exact List.map_congr_left fun entry _ => count_familyQuery (by decide) entry
  rw [length_splitOn, count_intercalate '&' (by simpa [parameters] using nonempty), counts,
    parameters, List.length_map]

/-- Names without ampersands leave the parameters apart. -/
theorem splitOn_parameters {entries : List (String × List Nat)} (nonempty : entries ≠ [])
    (plain : ∀ entry ∈ entries, '&' ∉ entry.1.toList) :
    (['&'].intercalate (parameters entries)).splitOn '&' = parameters entries := by
  refine List.splitOn_intercalate '&' (fun text mem => ?_) (by simpa [parameters] using nonempty)
  obtain ⟨entry, listed, rfl⟩ := List.mem_map.1 mem
  exact fun inside => plain entry listed ((mem_familyQuery_iff (by decide)).1 inside)

/-- The parameters of families read back exactly if no name has a plus sign in it. -/
theorem mapM_parameters_iff {entries : List (String × List Nat)}
    (weighted : ∀ entry ∈ entries, entry.2 ≠ []) :
    (parameters entries).mapM familyOf? = some entries ↔
      ∀ entry ∈ entries, '+' ∉ entry.1.toList := by
  have each : ∀ entry ∈ entries,
      familyOf? (FontSet.familyQuery entry).toList = some entry ↔ '+' ∉ entry.1.toList := by
    intro entry mem
    rw [familyOf?_familyQuery (weighted entry mem), ← nameOf_spelled_eq_iff, Option.some.injEq,
      Prod.ext_iff]
    exact and_iff_left rfl
  calc (parameters entries).mapM familyOf? = some entries
      ↔ List.Forall₂ (fun text entry => familyOf? text = some entry) (parameters entries) entries :=
        ⟨forall₂_of_mapM, mapM_of_forall₂⟩
    _ ↔ ∀ entry ∈ entries, familyOf? (FontSet.familyQuery entry).toList = some entry := by
        rw [parameters, List.forall₂_map_left_iff, List.forall₂_same]
    _ ↔ ∀ entry ∈ entries, '+' ∉ entry.1.toList := forall₂_congr each

/-- A query reads back exactly if no family has an ampersand or a plus sign in it. -/
theorem queryOf?_eq_some_iff {entries : List (String × List Nat)} (nonempty : entries ≠ [])
    (weighted : ∀ entry ∈ entries, entry.2 ≠ []) :
    queryOf? (queryChars entries) = some entries ↔
      ∀ entry ∈ entries, '&' ∉ entry.1.toList ∧ '+' ∉ entry.1.toList := by
  have reads : queryOf? (queryChars entries) =
      ((['&'].intercalate (parameters entries)).splitOn '&').mapM familyOf? := by
    rw [queryOf?, splitOn_queryChars, List.getLast?_concat, if_pos rfl, List.dropLast_concat]
  rw [reads]
  constructor
  · intro back
    -- As many texts are read as there are families, so no ampersand stands in a name.
    have asMany := (forall₂_of_mapM back).length_eq
    rw [length_splitOn_parameters nonempty] at asMany
    have plain : ∀ entry ∈ entries, '&' ∉ entry.1.toList := by
      have zero : (entries.map fun entry => entry.1.toList.count '&').sum = 0 := by omega
      intro entry mem
      exact List.count_eq_zero.1
        (List.sum_eq_zero_iff_forall_eq_nat.1 zero _ (List.mem_map.2 ⟨entry, mem, rfl⟩))
    rw [splitOn_parameters nonempty plain, mapM_parameters_iff weighted] at back
    exact fun entry mem => ⟨plain entry mem, back entry mem⟩
  · intro plain
    rw [splitOn_parameters nonempty fun entry mem => (plain entry mem).1,
      mapM_parameters_iff weighted]
    exact fun entry mem => (plain entry mem).2

/-! ### Addresses -/

theorem FontSet.url?_eq_none_iff (fonts : FontSet) : fonts.url? = none ↔ fonts.toList = [] := by
  rw [fonts.url?_eq]
  split
  · next empty => exact iff_of_true rfl empty
  · next nonempty => exact iff_of_false (Option.some_ne_none _) nonempty

/-- An address ends with the query for the families of the set. -/
theorem FontSet.toList_of_url? {fonts : FontSet} {url : String}
    (requested : fonts.url? = some url) :
    url.toList = (origin ++ "/css2?").toList ++ queryChars fonts.toList := by
  rw [fonts.url?_eq] at requested
  split at requested
  · cases requested
  · obtain rfl := Option.some.inj requested
    simp [queryChars, parameters, Function.comp_def]

/-! ### Quotes -/

/-- A query has a quote in it exactly if a family has. -/
theorem quote_mem_queryChars_iff {entries : List (String × List Nat)} :
    '\x27' ∈ queryChars entries ↔ ∃ entry ∈ entries, '\x27' ∈ entry.1.toList := by
  have last : '\x27' ∉ "&display=swap".toList := by decide
  rw [queryChars, List.mem_append, or_iff_left last, mem_intercalate_iff (by decide), parameters]
  simp only [List.mem_map, exists_exists_and_eq_and, mem_familyQuery_iff (c := '\x27') (by decide)]

theorem quote_not_mem_address_iff {fonts : FontSet} {url : String}
    (requested : fonts.url? = some url) :
    '\x27' ∉ url.toList ↔ ∀ entry ∈ fonts.toList, '\x27' ∉ entry.1.toList := by
  have front : '\x27' ∉ (FontSet.origin ++ "/css2?").toList := by decide
  rw [FontSet.toList_of_url? requested, List.mem_append, or_iff_right front,
    quote_mem_queryChars_iff]
  simp only [not_exists, not_and]

/-- What a stylesheet imports: what stands between its first two quotes. -/
def importedAddress (sheet : String) : String :=
  String.ofList (((sheet.toList.dropWhile (· != '\x27')).drop 1).takeWhile (· != '\x27'))

theorem takeWhile_append_cons_eq_iff {c : Char} {a b : List Char} :
    (a ++ c :: b).takeWhile (· != c) = a ↔ c ∉ a := by
  constructor
  · intro whole inside
    rw [← whole] at inside
    simpa using List.mem_takeWhile_imp inside
  · intro absent
    rw [List.takeWhile_append_of_pos (forall_bne_of_not_mem absent),
      List.takeWhile_cons_of_neg (by simp), List.append_nil]

/-- A stylesheet imports the whole address exactly if there is no quote in it. -/
theorem importedAddress_stylesheet_iff {registry : Registry} {fonts : FontSet} {url : String}
    (requested : fonts.url? = some url) :
    importedAddress (Document.stylesheet .jsx { registry, fonts }) = url ↔ '\x27' ∉ url.toList := by
  obtain ⟨rest, shape⟩ : ∃ rest, (Document.stylesheet .jsx { registry, fonts }).toList =
      "@import url(".toList ++ '\x27' :: (url.toList ++ '\x27' :: rest) := by
    simp only [Document.stylesheet, Document.fontImport, requested, String.toList_append,
      List.append_assoc]
    exact ⟨_, rfl⟩
  have front : '\x27' ∉ "@import url(".toList := by decide
  rw [importedAddress, shape, List.dropWhile_append_of_pos (forall_bne_of_not_mem front),
    List.dropWhile_cons_of_neg (by decide),
    List.drop_one, List.tail_cons, ← String.toList_inj, String.toList_ofList,
    takeWhile_append_cons_eq_iff]

/-! ### Offers -/

/-- A font that is offered to a set, and the options under which it is. -/
structure Offer where
  options : Options
  family : String
  weight : Nat

/-- The font is requested. -/
def Offer.isTaken (offer : Offer) : Bool := FontSet.requests offer.options offer.family

/-- A set to which fonts are offered one after the other. -/
def offeredTo (fonts : FontSet) (offers : List Offer) : FontSet :=
  offers.foldl (fun fonts offer => fonts.add offer.options offer.family offer.weight) fonts

/-- A family and a weight of it are among the fonts that are taken. -/
def Accepts (offers : List Offer) (family : String) (weight : Nat) : Prop :=
  ∃ offer ∈ offers, offer.isTaken = true ∧ offer.family = family ∧ offer.weight = weight

theorem offeredTo_eq_insertAll (fonts : FontSet) (offers : List Offer) :
    offeredTo fonts offers =
      fonts.insertAll ((offers.filter Offer.isTaken).map fun offer =>
        (offer.family, offer.weight)) := by
  induction offers generalizing fonts with
  | nil => rfl
  | cons offer rest ih =>
    rw [offeredTo, List.foldl_cons, ← offeredTo, ih, FontSet.add, ← Offer.isTaken, List.filter_cons]
    split <;> rfl

/-- A set lists the fonts that it takes. -/
theorem catalogues_offeredTo (offers : List Offer) :
    Catalogues (Accepts offers) (offeredTo {} offers).toList := by
  rw [offeredTo_eq_insertAll]
  refine (FontSet.keeps_insertAll _).catalogues.congr fun family weight => ?_
  simp only [List.mem_map, List.mem_filter, Prod.mk.injEq, Accepts, and_assoc]

/-- The families of a list of fonts are those of the offers that are taken. -/
theorem forall_families_iff {offers : List Offer} {entries : List (String × List Nat)}
    (catalogue : Catalogues (Accepts offers) entries) (p : String → Prop) :
    (∀ entry ∈ entries, p entry.1) ↔ ∀ offer ∈ offers, offer.isTaken = true → p offer.family := by
  constructor
  · intro each offer mem taken
    obtain ⟨weights, listed, -⟩ := (catalogue.lists _ _).2 ⟨offer, mem, taken, rfl, rfl⟩
    exact each _ listed
  · rintro each ⟨family, weights⟩ listed
    obtain ⟨weight, inside⟩ := List.exists_mem_of_ne_nil _ (catalogue.weighted _ listed)
    obtain ⟨offer, mem, taken, rfl, -⟩ :=
      (catalogue.lists family weight).1 ⟨weights, listed, inside⟩
    exact each offer mem taken

/-- **The families for which an address can be read back.** However often fonts are offered to an
empty set, and under whatever options, there is no address exactly if none is taken. Otherwise the
query of the address has a parameter for each family, one more for each ampersand in a name, and the
last. It reads back as the families that were taken and their weights exactly if no ampersand and no
plus sign is in the name of one. The address has a single quote in it exactly if one of the names
has, and this is where a stylesheet imports only what stands in front of that quote. -/
theorem font_address_reads_back_iff (offers : List Offer) :
    ((offeredTo {} offers).url? = none ↔ ∀ offer ∈ offers, offer.isTaken = false) ∧
      ∀ url, (offeredTo {} offers).url? = some url → ∃ query entries,
        url.toList = (FontSet.origin ++ "/css2?").toList ++ query ∧
        Catalogues (Accepts offers) entries ∧
        (query.splitOn '&').length =
          entries.length + (entries.map fun entry => entry.1.toList.count '&').sum + 1 ∧
        (queryOf? query = some entries ↔ ∀ offer ∈ offers, offer.isTaken = true →
          '&' ∉ offer.family.toList ∧ '+' ∉ offer.family.toList) ∧
        ('\x27' ∉ url.toList ↔ ∀ offer ∈ offers, offer.isTaken = true →
          '\x27' ∉ offer.family.toList) ∧
        ∀ registry,
          (importedAddress (Document.stylesheet .jsx { registry, fonts := offeredTo {} offers }) =
            url ↔
            ∀ offer ∈ offers, offer.isTaken = true → '\x27' ∉ offer.family.toList) := by
  have catalogue := catalogues_offeredTo offers
  refine ⟨?_, fun url requested => ?_⟩
  · rw [FontSet.url?_eq_none_iff, List.eq_nil_iff_forall_not_mem]
    simpa using forall_families_iff catalogue fun _ => False
  · have nonempty : (offeredTo {} offers).toList ≠ [] := by
      rw [Ne, ← FontSet.url?_eq_none_iff, requested]
      exact Option.some_ne_none url
    have quotes := (quote_not_mem_address_iff requested).trans
      (forall_families_iff catalogue fun family => '\x27' ∉ family.toList)
    refine ⟨queryChars (offeredTo {} offers).toList, _, FontSet.toList_of_url? requested, catalogue,
      ?_, ?_, quotes, fun registry => ?_⟩
    · rw [splitOn_queryChars, List.length_append, length_splitOn_parameters nonempty,
        List.length_singleton, Nat.add_comm (List.sum _)]
    · rw [queryOf?_eq_some_iff nonempty catalogue.weighted]
      exact forall_families_iff catalogue fun family => '&' ∉ family.toList ∧ '+' ∉ family.toList
    · exact (importedAddress_stylesheet_iff requested).trans quotes

/-- Two families, one of them with two weights and a repetition, and an icon font. -/
def plainOffers : List Offer :=
  [⟨{}, "Roboto Mono", 700⟩, ⟨{}, "Inter", 600⟩, ⟨{}, "Inter", 400⟩, ⟨{}, "Inter", 600⟩,
    ⟨{}, "Material Symbols Outlined", 400⟩]

/-- The address of plain names reads back. -/
theorem font_address_of_plainOffers :
    (offeredTo {} plainOffers).url? = some ("https://fonts.googleapis.com/css2?" ++
        "family=Inter:wght@400;600&family=Roboto+Mono:wght@700&display=swap") ∧
      ∃ query entries, Catalogues (Accepts plainOffers) entries ∧ queryOf? query = some entries ∧
        "family=Inter:wght@400;600&family=Roboto+Mono:wght@700&display=swap".toList = query := by
  have address : (offeredTo {} plainOffers).url? = some ("https://fonts.googleapis.com/css2?" ++
      "family=Inter:wght@400;600&family=Roboto+Mono:wght@700&display=swap") := by decide +kernel
  have plain : ∀ offer ∈ plainOffers, offer.isTaken = true →
      '&' ∉ offer.family.toList ∧ '+' ∉ offer.family.toList := by decide +kernel
  obtain ⟨query, entries, whole, catalogue, -, reads, -⟩ :=
    (font_address_reads_back_iff plainOffers).2 _ address
  refine ⟨address, query, entries, catalogue, reads.2 plain, ?_⟩
  rw [String.toList_append] at whole
  exact List.append_cancel_left whole

/-- A family with an ampersand and a quote in its name. -/
def quotedOffers : List Offer := [⟨{}, "R&D's", 400⟩]

/-- Of one family whose name has an ampersand and a quote in it, the query has three parameters and
does not read back, and a stylesheet imports the address only up to the quote. -/
theorem font_address_of_quotedOffers :
    (offeredTo {} quotedOffers).url? =
        some "https://fonts.googleapis.com/css2?family=R&D's:wght@400&display=swap" ∧
      ("family=R&D's:wght@400&display=swap".toList.splitOn '&').map String.ofList =
        ["family=R", "D's:wght@400", "display=swap"] ∧
      queryOf? "family=R&D's:wght@400&display=swap".toList ≠ some [("R&D's", [400])] ∧
      importedAddress (Document.stylesheet .jsx { fonts := offeredTo {} quotedOffers }) =
        "https://fonts.googleapis.com/css2?family=R&D" := by
  refine ⟨by decide +kernel, by decide +kernel, by decide +kernel, by decide +kernel⟩

end SceneMarkup.Typography
